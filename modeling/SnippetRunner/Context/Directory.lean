import SnippetRunner.Context.Handle
import SnippetRunner.Context.Layout
import SnippetRunner.Run.Slot

/-!
Contexts that are throwaway directories. The program of a context is a child process that starts there with
an empty environment; destroying the context stops it and takes the directory away.
-/

namespace SnippetRunner.Context
open Files (Tree Path.join)
open Run (Slot)

structure Directory where
  id : Nat
  path : String
  slot : Slot
  loaded : Bool
  destroyed : Bool
  -- whether its factory counts it as live
  counted : Bool

namespace Directory

section Factories

structure Factory where
  -- without a root, contexts are where all temporary files are
  root : Option String
  live : Nat
  nextId : Nat

def namePrefix : String := "snipbox-ctx-"
def defaultRoot : String := "/tmp"

def Factory.new (root : Option String) : Factory :=
  { root := root, live := 0, nextId := 0 }

def Factory.takeId (factory : Factory) : Nat × Factory :=
  (factory.nextId, { factory with nextId := factory.nextId + 1 })

/-- Makes the directory of a context that has its ID. -/
def Factory.make (factory : Factory) (id : Nat) (files : Tree) :
    Except Fault Directory × Factory × Tree :=
  match files.makeTemporary (factory.root.getD defaultRoot) namePrefix with
  | .error cause => (.error (.create cause.text), factory, files)
  | .ok (path, files) =>
      let context : Directory :=
        { id, path, slot := .empty, loaded := false, destroyed := false, counted := true }
      (.ok context, { factory with live := factory.live + 1 }, files)

/-- Makes a context; every attempt takes an ID. -/
def Factory.create (factory : Factory) (files : Tree) :
    Except Fault Directory × Factory × Tree :=
  let (id, factory) := factory.takeId
  factory.make id files

/-- Takes note of a context that does not count any more. -/
def Factory.release (factory : Factory) (before after : Directory) : Factory :=
  if before.counted && !after.counted then { factory with live := factory.live - 1 } else factory

end Factories

section Use

def store (context : Directory) (image : Bytes) (files : Tree) : Except Fault Unit × Tree :=
  let program := Path.join context.path programName
  match files.write program image with
  | .error cause => (.error (.host cause), files)
  | .ok written =>
      match written.setMode program Files.programMode with
      | .error cause => (.error (.host cause), written)
      | .ok ready => (.ok (), ready)

def load (context : Directory) (image : Bytes) (files : Tree) :
    Except Fault Unit × Directory × Tree :=
  if context.destroyed then (.error .destroyed, context, files)
  else
    match context.store image files with
    | (.error fault, files) => (.error fault, context, files)
    | (.ok (), files) => (.ok (), { context with loaded := true }, files)

/-- Makes ready to start the program: the file of its errors is new. -/
def prepare (context : Directory) (files : Tree) : Except Fault (Host.Launch × Tree) := do
  let files ← ofHost (files.write (Path.join context.path stderrName) [])
  let launch : Host.Launch :=
    { binary := Path.join context.path programName
      args := [Path.join context.path resultName]
      directory := some context.path }
  .ok (launch, files)

/-- What is found in the directory after the program has ended. -/
def collect (context : Directory) (exit : Run.Exit) (files : Tree) : Except Fault Run.Invocation := do
  let result ← ofHost (files.readCapped (Path.join context.path resultName) Run.resultLimit)
  let stderr ← ofHost (files.readCapped (Path.join context.path stderrName) Run.stderrLimit)
  .ok { exit, result, stderr := stderr.getD [] }

/-- Waits for the program in the slot. -/
def await (context : Directory) (files : Tree) : Reply × Directory :=
  match context.slot.poll with
  | (.gone, slot) => (.answered (.error .destroyed), { context with slot })
  | (.running, slot) => (.running, { context with slot })
  | (.ended ending, slot) =>
      let context := { context with slot }
      match Run.Exit.ofEnding? ending with
      | some exit => (.answered (context.collect exit files), context)
      | none => (.running, context)

def invoke (machine : Host.Machine) (context : Directory) (files : Tree) :
    Reply × Directory × Tree :=
  if !context.loaded then (.answered (.error .notLoaded), context, files)
  else
    match context.slot.start machine context.prepare files with
    | (.error fault, files) => (.answered (.error fault), context, files)
    | (.ok (slot, effect), _) =>
        let files := keepSaid effect.files (Path.join context.path stderrName) effect.err
        let (reply, context) := { context with slot }.await files
        (reply, context, files)

end Use

section Teardown

/-- Takes the directory away; one that is not there is as good as taken away. -/
def remove (context : Directory) (files : Tree) : Except Fault Unit × Tree :=
  match files.removeDirectory context.path with
  | .ok files => (.ok (), files)
  | .error cause =>
      if cause = .missing then (.ok (), files)
      else (.error (.teardown s!"failed to remove {context.path}: {cause.text}"), files)

def destroy (context : Directory) (files : Tree) : Except Fault Unit × Directory × Tree :=
  if context.destroyed then (.ok (), context, files)
  else
    let stopped := { context with slot := context.slot.terminate }
    match stopped.remove files with
    | (.error fault, files) => (.error fault, stopped, files)
    | (.ok (), files) => (.ok (), { stopped with destroyed := true, counted := false }, files)

/-- What is left of a context that was let go of. -/
def forgone (context : Directory) : Directory :=
  { context with slot := context.slot.terminate, counted := false }

/-- Lets go of a context; its directory goes with it. -/
def drop (context : Directory) (files : Tree) : Directory × Tree :=
  (context.forgone, if context.destroyed then files else (context.remove files).2)

end Teardown

section Handles

/-- A context among the files, and the factory that counts it. -/
structure Guest where
  context : Directory
  factory : Factory
  files : Tree

def Guest.update (guest : Guest) (context : Directory) (files : Tree) : Guest :=
  { context, factory := guest.factory.release guest.context context, files }

def handle (machine : Host.Machine) : Handle Guest where
  load image guest :=
    let (answer, context, files) := guest.context.load image guest.files
    (answer, guest.update context files)
  invoke guest :=
    let (reply, context, files) := guest.context.invoke machine guest.files
    (reply, guest.update context files)
  await guest :=
    let (reply, context) := guest.context.await guest.files
    (reply, guest.update context guest.files)
  destroy guest :=
    let (answer, context, files) := guest.context.destroy guest.files
    (answer, guest.update context files)

def Guest.drop (guest : Guest) : Guest :=
  let (context, files) := guest.context.drop guest.files
  guest.update context files

end Handles
end Directory
end SnippetRunner.Context

import SnippetRunner.Box.Account
import SnippetRunner.Box.Basic
import SnippetRunner.Box.Pool
import SnippetRunner.Context.Handle
import SnippetRunner.Context.Layout
import SnippetRunner.Run.Slot
import SnippetRunner.Settings.Basic

/-!
Contexts that are boxes. A context has the only lease of its box ID until the box is taken away; one that is
let go of before that retires the ID. The keeper itself stops a program a little after the deadline, and tells
by its account how a program ended.
-/

namespace SnippetRunner.Context
open Files (Tree Path.join)
open Run (Slot)

def accountName : String := "meta.txt"

-- The keeper's own errors go to a file beside the box.
def logName : String := "isolate.log"

structure Boxed where
  box : Box
  wallTime : Binary64
  mounts : List Box.Mount
  slot : Slot
  loaded : Bool
  destroyed : Bool
  -- the ID it holds, until it is given back or retired
  lease : Option Nat
  -- whether its factory counts it as live
  counted : Bool

namespace Boxed

section Factories

structure Factory where
  keeper : String
  cgroup : Bool
  wallTime : Binary64
  mounts : List Box.Mount
  pool : Box.Pool
  live : Nat

-- In seconds, and in processes and threads.
def wallTimeGrace : Binary64 := .ofNat 1
def processLimit : Nat := 16

def Factory.ofSettings (settings : Settings) : Factory :=
  { keeper := settings.isolateBinary
    cgroup := settings.sandbox.cgroup
    wallTime := settings.timeoutSecs.add wallTimeGrace
    mounts := settings.sandbox.mounts
    pool := .new settings.sandbox.firstBoxId settings.sandbox.boxCount
    live := 0 }

inductive Creation where
  | made (context : Boxed)
  | refused (fault : Fault)
  -- no ID is free
  | waits

/-- What comes of asking for an ID. -/
inductive Reservation where
  | reserved (id : Nat) (factory : Factory)
  | refused (fault : Fault)
  | waits

/-- Takes an ID for a context, if its mounts can be had. -/
def Factory.reserve (factory : Factory) (files : Tree) : Reservation :=
  match Box.Mount.checkAll files.isThere factory.mounts with
  | .error fault => .refused (.create fault.message)
  | .ok () =>
      match factory.pool.lease with
      | .waits => .waits
      | .none => .refused (.create "no free box ID")
      | .leased id pool => .reserved id { factory with pool }

/-- Makes the box of a context that has its ID; an ID whose box could not be made goes back to the pool. -/
def Factory.make (machine : Host.Machine) (factory : Factory) (id : Nat) (files : Tree) :
    Except Fault Boxed × Factory × Tree :=
  match Box.setup machine factory.keeper id factory.cgroup files with
  | (.error fault, files) =>
      (.error (.create fault.message), { factory with pool := factory.pool.giveBack id }, files)
  | (.ok box, files) =>
      let context : Boxed :=
        { box, wallTime := factory.wallTime, mounts := factory.mounts, slot := .empty
          loaded := false, destroyed := false, lease := some id, counted := true }
      (.ok context, { factory with live := factory.live + 1 }, files)

/-- Makes a context. -/
def Factory.create (machine : Host.Machine) (factory : Factory) (files : Tree) :
    Creation × Factory × Tree :=
  match factory.reserve files with
  | .waits => (.waits, factory, files)
  | .refused fault => (.refused fault, factory, files)
  | .reserved id factory =>
      match factory.make machine id files with
      | (.error fault, factory, files) => (.refused fault, factory, files)
      | (.ok context, factory, files) => (.made context, factory, files)

def Factory.available (factory : Factory) : Nat :=
  factory.pool.available

/-- Takes note of what a context does not hold any more. -/
def Factory.release (factory : Factory) (before after : Boxed) : Factory :=
  let live := if before.counted && !after.counted then factory.live - 1 else factory.live
  match before.lease, after.lease, after.destroyed with
  | some id, none, true => { factory with live, pool := factory.pool.giveBack id }
  | _, _, _ => { factory with live }

end Factories

section Use

def inBox {α : Type} (answer : Except Box.Fault α) : Except Fault α :=
  answer.mapError .box

def store (context : Boxed) (image : Bytes) (files : Tree) : Except Fault Tree := do
  let files ← inBox (context.box.writeFile programName image files)
  let program ← inBox (context.box.filePath programName)
  ofHost (files.setMode program Files.programMode)

def load (context : Boxed) (image : Bytes) (files : Tree) : Except Fault Unit × Boxed × Tree :=
  if context.destroyed then (.error .destroyed, context, files)
  else
    match context.store image files with
    | .error fault => (.error fault, context, files)
    | .ok files => (.ok (), { context with loaded := true }, files)

/-- The command that runs the loaded program. -/
def command (context : Boxed) : Except Box.Fault Box.Command := do
  let program ← Box.innerPath programName
  let result ← Box.innerPath resultName
  let account ← context.box.filePath accountName
  let stderr ← Box.innerPath stderrName
  .ok (.ofSettings context.box.keeper context.box.id
    [ .cgroup context.box.cgroup, .wallTime context.wallTime, .processes processLimit,
      .mounts context.mounts, .account account, .stderr stderr, .directory Box.innerRoot,
      .words [program, result] ])

def logPath (context : Boxed) : String :=
  Path.join context.box.path logName

/-- Makes ready to start the keeper: its log is new. -/
def prepare (context : Boxed) (files : Tree) : Except Fault (Host.Launch × Tree) := do
  let command ← inBox context.command
  let launch : Host.Launch :=
    { binary := command.keeper, args := command.arguments files.isThere, directory := none }
  let files ← ofHost (files.write context.logPath [])
  .ok (launch, files)

/-- What the keeper wrote to its log, if that is text. -/
def log (context : Boxed) (files : Tree) : String :=
  match files.readText context.logPath with
  | .ok content => Text.trimmed content
  | .error _ => ""

def noAccount (log : String) : Box.Fault :=
  .command (if log.isEmpty then "isolate produced no meta file" else log)

/-- What is found in the box after the keeper has ended. -/
def collect (context : Boxed) (files : Tree) : Except Fault Run.Invocation := do
  let path ← inBox (context.box.filePath accountName)
  match files.node path with
  | .error cause =>
      if cause = .missing then .error (.box (noAccount (context.log files))) else .error (.host cause)
  | .ok _ =>
      let account ← inBox (Box.Account.load files path)
      let exit ← inBox account.exit
      let result ← inBox (context.box.readOptional resultName Run.resultLimit files)
      let stderr ← inBox (context.box.readOptional stderrName Run.stderrLimit files)
      .ok { exit, result, stderr := stderr.getD [] }

/-- Waits for the keeper in the slot. -/
def await (context : Boxed) (files : Tree) : Reply × Boxed :=
  match context.slot.poll with
  | (.gone, slot) => (.answered (.error .destroyed), { context with slot })
  | (.running, slot) => (.running, { context with slot })
  | (.ended _, slot) =>
      let context := { context with slot }
      (.answered (context.collect files), context)

def invoke (machine : Host.Machine) (context : Boxed) (files : Tree) : Reply × Boxed × Tree :=
  if !context.loaded then (.answered (.error .notLoaded), context, files)
  else
    match context.slot.start machine context.prepare files with
    | (.error fault, files) => (.answered (.error fault), context, files)
    | (.ok (slot, effect), _) =>
        let files := keepSaid effect.files context.logPath effect.err
        let (reply, context) := { context with slot }.await files
        (reply, context, files)

end Use

section Teardown

/-- Lets the keeper take the box away. -/
def remove (machine : Host.Machine) (context : Boxed) (files : Tree) :
    Except Fault Unit × Boxed × Tree :=
  match context.box.cleanup machine files with
  | (.error fault, box, files) => (.error (.teardown fault.message), { context with box }, files)
  | (.ok (), box, files) => (.ok (), { context with box }, files)

def destroy (machine : Host.Machine) (context : Boxed) (files : Tree) :
    Except Fault Unit × Boxed × Tree :=
  if context.destroyed then (.ok (), context, files)
  else
    let stopped := { context with slot := context.slot.terminate }
    match stopped.remove machine files with
    | (.error fault, context, files) => (.error fault, context, files)
    | (.ok (), context, files) =>
        (.ok (), { context with destroyed := true, lease := none, counted := false }, files)

/-- What is left of a context that was let go of; one that was not destroyed has retired its ID. -/
def forgone (context : Boxed) : Boxed :=
  { context with slot := context.slot.terminate, lease := none, counted := false }

/-- Lets go of a context. -/
def drop (machine : Host.Machine) (context : Boxed) (files : Tree) : Boxed × Tree :=
  (context.forgone, if context.destroyed then files else context.box.drop machine files)

end Teardown

section Handles

/-- A context among the files, and the factory that leased its box. -/
structure Guest where
  context : Boxed
  factory : Factory
  files : Tree

def Guest.update (guest : Guest) (context : Boxed) (files : Tree) : Guest :=
  { context, factory := guest.factory.release guest.context context, files }

def handle (machine : Host.Machine) : Handle Guest where
  load image guest :=
    let (answer, context, files) := guest.context.load image guest.files
    (answer, guest.update context files)
  invoke guest :=
    let (reply, context, files) := guest.context.invoke machine guest.files
    (reply, guest.update context files)
  await guest :=
    let (reply, context) := guest.context.await guest.files
    (reply, guest.update context guest.files)
  destroy guest :=
    let (answer, context, files) := guest.context.destroy machine guest.files
    (answer, guest.update context files)

def Guest.drop (machine : Host.Machine) (guest : Guest) : Guest :=
  let (context, files) := guest.context.drop machine guest.files
  guest.update context files

end Handles
end Boxed
end SnippetRunner.Context

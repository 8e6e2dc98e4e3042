import SnippetRunner.Box.Command
import SnippetRunner.Host.Machine
import SnippetRunner.Run.Outcome
import SnippetRunner.Text.Blank
import SnippetRunner.Text.Search

/-!
Boxes. The keeper makes a box, says where it is, and takes it away again; what is inside is reached by names
that lead neither up nor to the root.
-/

namespace SnippetRunner

structure Box where
  id : Nat
  -- as the keeper said it
  path : String
  keeper : String
  -- until the keeper has taken the box away
  initialized : Bool
  cgroup : Bool

namespace Box
open Files (Tree Path.join)

section Keeper

/-- Asks the keeper and waits until it has ended. -/
def ask (machine : Host.Machine) (files : Tree) (command : Command) :
    Except Fault Host.Effect :=
  let launch : Host.Launch :=
    { binary := command.keeper, args := command.arguments files.isThere, directory := none }
  (machine.run files launch).mapError .spawn

def said (content : Bytes) : String :=
  Text.trimmed (Utf8.lossy content)

def succeeded (ending : Host.Ending) : Bool :=
  (Run.Exit.ofEnding? ending).any Run.Exit.isClean

end Keeper

section Lifetime

def setupCommand (keeper : String) (id : Nat) (cgroup : Bool) : Command :=
  .ofSettings keeper id [.action .setup, .cgroup cgroup]

def cleanupCommand (box : Box) : Command :=
  .ofSettings box.keeper box.id [.action .cleanup, .cgroup box.cgroup]

/-- Lets the keeper make a box. -/
def setup (machine : Host.Machine) (keeper : String) (id : Nat) (cgroup : Bool) (files : Tree) :
    Except Fault Box × Tree :=
  match ask machine files (setupCommand keeper id cgroup) with
  | .error fault => (.error fault, files)
  | .ok effect =>
      if !succeeded effect.ending then (.error (.setup id (said effect.err)), effect.files)
      else
        let path := said effect.out
        if !effect.files.isThere path then
          (.error (.setup id s!"box path does not exist: {path}"), effect.files)
        else (.ok { id, path, keeper, initialized := true, cgroup }, effect.files)

/-- Lets the keeper take a box away, once. -/
def cleanup (machine : Host.Machine) (box : Box) (files : Tree) : Except Fault Unit × Box × Tree :=
  if !box.initialized then (.ok (), box, files)
  else
    match ask machine files box.cleanupCommand with
    | .error fault => (.error fault, box, files)
    | .ok effect =>
        if succeeded effect.ending then (.ok (), { box with initialized := false }, effect.files)
        else (.error (.cleanup box.id (said effect.err)), box, effect.files)

/-- Lets go of a box; the keeper is told in the background, and its answer is not heard. -/
def drop (machine : Host.Machine) (box : Box) (files : Tree) : Tree :=
  (box.cleanup machine files).2.2

end Lifetime

section Inside

def checkName (name : String) : Except Fault Unit :=
  if Text.occursIn ['.', '.'] name.toList || Files.Path.isAbsolute name then
    .error (.path s!"path traversal not allowed: {name}")
  else .ok ()

-- The directory programs see as their own.
def innerRoot : String := "/box"

/-- Where a file of the box is on the host. -/
def filePath (box : Box) (name : String) : Except Fault String := do
  checkName name
  .ok (Path.join (Path.join box.path "box") name)

/-- Where a file of the box is for programs inside. -/
def innerPath (name : String) : Except Fault String := do
  checkName name
  .ok (Path.join innerRoot name)

def writeFile (box : Box) (name : String) (content : Bytes) (files : Tree) : Except Fault Tree := do
  let path ← box.filePath name
  (files.write path content).mapError .host

/-- The first octets of a file in the box, if it is there. -/
def readOptional (box : Box) (name : String) (limit : Nat) (files : Tree) :
    Except Fault (Option Bytes) := do
  let path ← box.filePath name
  (files.readCapped path limit).mapError .host

end Inside
end Box
end SnippetRunner

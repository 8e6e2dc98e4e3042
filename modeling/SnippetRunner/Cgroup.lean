import SnippetRunner.Box.Fault
import SnippetRunner.Files.Tree
import SnippetRunner.Text.Blank

/-!
Control groups for boxes. Where nobody else does it, the group all boxes are below is made ready: controllers
are only handed down from a group without processes, so this process first moves to a leaf of its own.
-/

namespace SnippetRunner.Cgroup
open Files (Tree Path.join)

def mountPoint : String := "/sys/fs/cgroup"
def leafName : String := "snipbox"
def controllersName : String := "cgroup.controllers"
def subtreeName : String := "cgroup.subtree_control"
def processesName : String := "cgroup.procs"

-- What every box needs of its parent.
def boxControllers : List String := ["memory", "pids"]

def lists (text controller : String) : Bool :=
  (Text.words text.toList).contains controller.toList

/-- What enables the controllers of boxes. -/
def enabling : String :=
  String.intercalate " " (boxControllers.map fun controller => "+" ++ controller)

/-- A step on the files; what a failed step has changed stays changed. -/
abbrev Step := Tree → Except Host.Fault Unit × Tree

def ensure (path : String) : Step :=
  fun files => files.makeDirectories path

def write (path text : String) : Step :=
  fun files =>
    match files.write path (Utf8.ofString text) with
    | .ok written => (.ok (), written)
    | .error fault => (.error fault, files)

/-- Takes steps until one fails. -/
def steps : List Step → Step
  | [], files => (.ok (), files)
  | step :: rest, files =>
      match step files with
      | (.ok (), files) => steps rest files
      | failed => failed

def delegation (mount root : String) (process : Nat) : Step :=
  let leaf := Path.join mount leafName
  steps
    [ ensure leaf, write (Path.join leaf processesName) s!"{process}",
      write (Path.join mount subtreeName) enabling, ensure root,
      write (Path.join root subtreeName) enabling ]

/-- Makes the group at `root` ready to hold boxes; false when there are no control groups for memory. -/
def prepareUnder (mount root : String) (process : Nat) (files : Tree) :
    Except Box.Fault Bool × Tree :=
  match files.readText (Path.join mount controllersName) with
  | .error _ => (.ok false, files)
  | .ok available =>
      if !lists available "memory" then (.ok false, files)
      else
        let delegated := match files.readText (Path.join root subtreeName) with
          | .ok text => text
          | .error _ => ""
        if lists delegated "memory" then (.ok true, files)
        else
          match delegation mount root process files with
          | (.ok (), files) => (.ok true, files)
          | (.error cause, files) => (.error (.host cause), files)

def prepare (root : String) (process : Nat) (files : Tree) : Except Box.Fault Bool × Tree :=
  prepareUnder mountPoint root process files

end SnippetRunner.Cgroup

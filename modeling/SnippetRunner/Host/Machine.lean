import SnippetRunner.Files.Tree

/-!
Starting programs. A machine says what the file of a program means when it is run; whether a program can be
started at all is a matter of the tree: the file is there, may be run and holds something that runs.
-/

namespace SnippetRunner.Host
open Files (Tree)

/-- How a program ends. -/
inductive Ending where
  | exit (code : Int)
  | signal (number : Int)
  -- it runs until it is stopped
  | never
  deriving DecidableEq

structure Launch where
  binary : String
  args : List String
  -- where it starts, if not where the caller is
  directory : Option String

/-- What a program leaves: its files, what it wrote to its output and errors, and its ending. -/
structure Effect where
  files : Tree
  out : Bytes
  err : Bytes
  ending : Ending

structure Machine where
  -- directories where programs without a path are looked for
  search : List String
  -- what the content of a program file does, if it is a program
  program? : Bytes → Option (Launch → Tree → Effect)
  -- what keeps a program from starting just now, if anything does
  hindrance : Launch → Tree → Option Fault := fun _ _ => none

/-- A machine on which nothing can be run. -/
def Machine.idle : Machine :=
  { search := [], program? := fun _ => none }

namespace Machine

section Binaries

def mayRun (mode : Nat) : Bool :=
  mode &&& 0o111 != 0

def executable (files : Tree) (path : String) : Except Fault Bytes := do
  match ← files.node path with
  | .file content mode => if mayRun mode then .ok content else .error .denied
  | .directory => .error .denied

-- The first file that may be run; a file or directory that may not is remembered.
def searched (files : Tree) (name : String) (fault : Fault) : List String → Except Fault Bytes
  | [] => .error fault
  | directory :: rest =>
      match executable files (Files.Path.join directory name) with
      | .ok content => .ok content
      | .error found => searched files name (if found = .denied then .denied else fault) rest

def binary (machine : Machine) (files : Tree) (name : String) : Except Fault Bytes :=
  if name.isEmpty then .error .missing
  else if name.toList.contains Files.Path.separator then executable files name
  else searched files name .missing machine.search

end Binaries

section Scripts

/-- The interpreter a script names in its first line. -/
def interpreter? (content : Bytes) : Option Bytes :=
  match content with
  | 0x23 :: 0x21 :: rest =>
      let isBlank (b : UInt8) : Bool := b == 0x20 || b == 0x09
      let line := (rest.takeWhile (· != 0x0a)).dropWhile isBlank
      some (line.takeWhile fun b => !isBlank b)
  | _ => none

/-- What a file that may be run means; a script means what its interpreter does with it. -/
def meaning (machine : Machine) (files : Tree) (content : Bytes) :
    Except Fault (Launch → Tree → Effect) :=
  match machine.program? content with
  | some program => .ok program
  | none =>
      match interpreter? content with
      | none => .error .notExecutable
      | some path =>
          if path.isEmpty then .error .notExecutable
          else
            match executable files (Utf8.lossy path) with
            | .error fault => .error fault
            | .ok interpreter =>
                match machine.program? interpreter with
                | some program => .ok program
                | none => .error .notExecutable

end Scripts

-- One argument, with the octet that ends it, is no longer than this.
def argumentLimit : Nat := 131072

def nulFault : Fault :=
  .message "nul byte found in provided data"

/-- Starts a program. -/
def run (machine : Machine) (files : Tree) (launch : Launch) : Except Fault Effect := do
  let words := launch.binary :: launch.args
  if words.any Tree.holdsNul then .error nulFault
  else
    let here ← match launch.directory with
      | some path => files.resolve path
      | none => .ok files.here
    let content ← machine.binary { files with here := here } launch.binary
    if words.any fun word => argumentLimit ≤ word.utf8ByteSize then .error .tooManyArguments
    else
      let program ← machine.meaning files content
      match machine.hindrance launch files with
      | some fault => .error fault
      | none => .ok (program launch files)

end Machine
end SnippetRunner.Host

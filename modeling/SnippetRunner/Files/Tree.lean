import SnippetRunner.Files.Path
import SnippetRunner.Host.Fault
import SnippetRunner.Text.Utf8

/-!
A tree of files. Places are lists of names from the root, whose directory is always there. A path leads to
a place step by step, and every step but the last has to be made from a directory.
-/

namespace SnippetRunner.Files
open Host (Fault)

abbrev Place := List String

inductive Node where
  -- a file with its permissions
  | file (content : Bytes) (mode : Nat)
  | directory
  deriving DecidableEq

structure Tree where
  entries : List (Place × Node)
  -- where paths that are not absolute start
  here : Place

def fileMode : Nat := 0o644
def programMode : Nat := 0o755

-- Lengths in octets.
def nameLimit : Nat := 255
def pathLimit : Nat := 4096

namespace Tree

def empty : Tree := ⟨[], []⟩

section Entries

def at? (tree : Tree) (place : Place) : Option Node :=
  if place.isEmpty then some .directory
  else (tree.entries.find? fun entry => entry.1 == place).map Prod.snd

def put (tree : Tree) (place : Place) (node : Node) : Tree :=
  { tree with entries := (place, node) :: tree.entries.filter fun entry => entry.1 != place }

/-- Takes away a place and everything below it. -/
def prune (tree : Tree) (place : Place) : Tree :=
  { tree with entries := tree.entries.filter fun entry => !place.isPrefixOf entry.1 }

/-- Puts a node and the directories above it. -/
def plant (tree : Tree) (place : Place) (node : Node) : Tree :=
  let above := (List.range place.length).map place.take
  let missing := above.filter fun place => (tree.at? place).isNone
  (missing.foldl (fun tree place => tree.put place .directory) tree).put place node

end Entries

section Walking

/-- The place some names lead to; the last of them need not be there. -/
def walk (tree : Tree) (place : Place) : List String → Except Fault Place
  | [] => .ok place
  | name :: rest =>
      match tree.at? place with
      | none => .error .missing
      | some (.file _ _) => .error .notDirectory
      | some .directory =>
          if name.isEmpty || name == "." then tree.walk place rest
          else if name == ".." then tree.walk place.dropLast rest
          else if nameLimit < name.utf8ByteSize then .error .nameTooLong
          else tree.walk (place ++ [name]) rest

def holdsNul (text : String) : Bool :=
  text.toList.any fun c => c.toNat == 0

def nulFault : Fault :=
  .message "file name contained an unexpected NUL byte"

def start (tree : Tree) (path : String) : Place :=
  if Path.isAbsolute path then [] else tree.here

/-- The pieces of a path that can be followed at all. -/
def pieces (path : String) : Except Fault (List String) :=
  if holdsNul path then .error nulFault
  else if path.isEmpty then .error .missing
  else if pathLimit ≤ path.utf8ByteSize then .error .nameTooLong
  else .ok (Path.pieces path)

def resolve (tree : Tree) (path : String) : Except Fault Place := do
  tree.walk (tree.start path) (← pieces path)

/-- The directory that is to hold a new entry, and the entry's name; no name for a path that is a step. -/
def slot (tree : Tree) (path : String) : Except Fault (Place × Option String) := do
  let names := Path.withoutEnd (← pieces path)
  let place ← tree.walk (tree.start path) names.dropLast
  match tree.at? place with
  | none => .error .missing
  | some (.file _ _) => .error .notDirectory
  | some .directory =>
      match names.getLast? with
      | none => .ok (place, none)
      | some name =>
          if name.isEmpty || name == "." || name == ".." then .ok (place, none)
          else if nameLimit < name.utf8ByteSize then .error .nameTooLong
          else .ok (place, some name)

end Walking

section Looking

def node (tree : Tree) (path : String) : Except Fault Node := do
  match tree.at? (← tree.resolve path) with
  | some node => .ok node
  | none => .error .missing

def isThere (tree : Tree) (path : String) : Bool :=
  match tree.node path with
  | .ok _ => true
  | .error _ => false

def isDirectory (tree : Tree) (path : String) : Bool :=
  match tree.node path with
  | .ok .directory => true
  | _ => false

/-- The content of a file. -/
def read (tree : Tree) (path : String) : Except Fault Bytes := do
  match ← tree.node path with
  | .file content _ => .ok content
  | .directory => .error .isDirectory

/-- The first octets of a file, up to a limit; nothing if there is no file. -/
def readCapped (tree : Tree) (path : String) (limit : Nat) : Except Fault (Option Bytes) :=
  match tree.node path with
  | .error fault => if fault = .missing then .ok none else .error fault
  | .ok (.file content _) => .ok (some (content.take limit))
  | .ok .directory => if limit = 0 then .ok (some []) else .error .isDirectory

-- What a text file that is no UTF-8 is answered with.
def notText : Fault :=
  .message "stream did not contain valid UTF-8"

def readText (tree : Tree) (path : String) : Except Fault String := do
  match Utf8.readStrict (← tree.read path) with
  | .ok text => .ok (String.ofList text)
  | .error _ => .error notText

end Looking

section Changing

/-- Writes a file; one that is there keeps its permissions. -/
def write (tree : Tree) (path : String) (content : Bytes) : Except Fault Tree := do
  match ← tree.slot path with
  | (_, none) => .error .isDirectory
  | (place, some name) =>
      if Path.endsInSeparator path then .error .isDirectory
      else
        match tree.at? (place ++ [name]) with
        | none => .ok (tree.put (place ++ [name]) (.file content fileMode))
        | some (.file _ mode) => .ok (tree.put (place ++ [name]) (.file content mode))
        | some .directory => .error .isDirectory

def setMode (tree : Tree) (path : String) (mode : Nat) : Except Fault Tree := do
  let place ← tree.resolve path
  match tree.at? place with
  | some (.file content _) => .ok (tree.put place (.file content mode))
  | some .directory => .ok tree
  | none => .error .missing

def makeDirectory (tree : Tree) (path : String) : Except Fault Tree := do
  match ← tree.slot path with
  | (_, none) => .error .taken
  | (place, some name) =>
      match tree.at? (place ++ [name]) with
      | none => .ok (tree.put (place ++ [name]) .directory)
      | some _ => .error .taken

/-- Makes a directory and those above it that are missing; the names come from the last to the first. -/
def makeAll (tree : Tree) (absolute : Bool) : List String → Except Fault Unit × Tree
  | [] => (.ok (), tree)
  | name :: above =>
      let path := Path.ofNames absolute (name :: above).reverse
      let settle (tree : Tree) : Except Fault Unit × Tree :=
        match tree.makeDirectory path with
        | .ok made => (.ok (), made)
        | .error fault => (if tree.isDirectory path then .ok () else .error fault, tree)
      match tree.makeDirectory path with
      | .error (.system 2) =>
          match tree.makeAll absolute above with
          | (.ok (), made) => settle made
          | (.error fault, made) => (.error fault, made)
      | _ => settle tree

def makeDirectories (tree : Tree) (path : String) : Except Fault Unit × Tree :=
  tree.makeAll (Path.isAbsolute path) (Path.names path).reverse

/-- Takes away a directory and everything in it. -/
def removeDirectory (tree : Tree) (path : String) : Except Fault Tree := do
  let place ← tree.resolve path
  match tree.at? place with
  | some .directory => .ok (tree.prune place)
  | some (.file _ _) => .error .notDirectory
  | none => .error .missing

-- Temporary names end in six digits.
def temporaryName (front : String) (number : Nat) : String :=
  let digits := Nat.toDigits 10 number
  front ++ String.ofList (List.replicate (6 - digits.length) '0' ++ digits)

/-- The path of a temporary directory below a root: the first that is not taken. -/
def temporaryPath (tree : Tree) (root front : String) : String :=
  let path (number : Nat) : String := Path.join root (temporaryName front number)
  let numbers := List.range (tree.entries.length + 1)
  path ((numbers.find? fun number => !tree.isThere (path number)).getD 0)

def makeTemporary (tree : Tree) (root front : String) : Except Fault (String × Tree) :=
  let path := tree.temporaryPath root front
  match tree.makeDirectory path with
  | .ok made => .ok (path, made)
  | .error fault => .error (.located fault path)

end Changing
end Tree
end SnippetRunner.Files

import SnippetRunner.CommandLine.Commands

/-!
The program. It brings the files that a command line names into a tree, carries the command line out there,
and writes what has changed. It starts no other programs, so a snippet that is accepted is answered that the
compiler could not be run.
-/

namespace SnippetRunner.Program
open Files (Tree)

section Files

/-- The files that a call may read or write. -/
def namedFiles (call : CommandLine.Call) : List String :=
  let config := match call.config with
    | some name => name :: Settings.formats.map fun format => name ++ "." ++ format.1
    | none => []
  match call.command with
  | .run (some source) _ => source :: config
  | .init output _ => output :: config
  | _ => config

def isOnHost (path : String) : IO Bool := do
  try
    let _ ← IO.FS.realPath path
    pure true
  catch _ => pure false

/-- Brings what is at a path into the tree: a file, or else a directory. -/
def bringEntry (tree : Tree) (path : String) : IO Tree := do
  match tree.resolve path with
  | .error _ => pure tree
  | .ok place =>
      try
        let content ← IO.FS.readBinFile path
        pure (tree.plant place (.file content.toList Files.fileMode))
      catch _ =>
        if ← isOnHost path then pure (tree.plant place .directory) else pure tree

-- Every step of the path is brought before the next one.
def bring (tree : Tree) (path : String) : IO Tree :=
  let pieces := Files.Path.pieces path
  let paths := (List.range pieces.length).map fun count =>
    String.intercalate "/" (pieces.take (count + 1))
  paths.foldlM bringEntry tree

def writeChanged (old new : Tree) (path : String) : IO Unit := do
  match new.read path with
  | .error _ => pure ()
  | .ok content =>
      if (old.read path).toOption != some content then
        IO.FS.writeBinFile path ⟨content.toArray⟩

end Files

section Calls

partial def readAll (stream : IO.FS.Stream) (done : ByteArray) : IO ByteArray := do
  let piece ← stream.read 65536
  if piece.isEmpty then pure done else readAll stream (done ++ piece)

def needsInput (call : CommandLine.Call) : Bool :=
  match call.command with
  | .run none none => true
  | .worker _ => true
  | _ => false

def conclude (outcome : CommandLine.Outcome) : IO UInt32 := do
  IO.print outcome.out
  if let some failure := outcome.failure then
    IO.eprintln failure.text
  if outcome.code == 2 then
    CommandLine.helpLines.forM fun line => IO.eprintln line
  pure (UInt32.ofNat outcome.code)

/-- Carries out a command line on the host. -/
def carryOut (args : List String) : IO UInt32 := do
  let call := CommandLine.read args
  let here := Files.Path.names (← IO.currentDir).toString
  let named := (call.toOption.map namedFiles).getD []
  let bare : Tree := { Tree.empty.plant here .directory with here := here }
  let files ← named.foldlM bring bare
  let input ← if (call.toOption.map needsInput).getD false then
      readAll (← IO.getStdin) ByteArray.empty
    else pure ByteArray.empty
  -- in a list of processes, zero is the one that writes it
  let surroundings : CommandLine.Surroundings :=
    { machine := .idle, input := input.toList, process := 0 }
  match CommandLine.run surroundings args files with
  | (none, _) =>
      IO.eprintln "The snippet waits for a box that nobody gives back."
      pure 1
  | (some outcome, left) =>
      try
        named.forM (writeChanged files left)
        conclude outcome
      catch error =>
        conclude (.failed "failed to write configuration file" [toString error])

end Calls
end SnippetRunner.Program

def main (args : List String) : IO UInt32 :=
  SnippetRunner.Program.carryOut args

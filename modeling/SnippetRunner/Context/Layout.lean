import SnippetRunner.Context.Fault
import SnippetRunner.Files.Tree

/-!
The files of a context: the program, the slot its value is written to, and what it says on its way.
-/

namespace SnippetRunner.Context

def programName : String := "program"
def resultName : String := "result.txt"
def stderrName : String := "stderr.txt"

/-- What is said into a file is lost if the file has been taken away. -/
def keepSaid (files : Files.Tree) (path : String) (said : Bytes) : Files.Tree :=
  if files.isThere path then
    match files.write path said with
    | .ok files => files
    | .error _ => files
  else files

/-- A fault of the host is one of the context. -/
def ofHost {α : Type} (answer : Except Host.Fault α) : Except Fault α :=
  answer.mapError .host

end SnippetRunner.Context

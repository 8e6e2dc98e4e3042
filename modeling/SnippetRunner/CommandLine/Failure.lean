/-!
How a command fails: with a message and what caused it, the nearest cause first.
-/

namespace SnippetRunner.CommandLine

structure Failure where
  message : String
  causes : List String
  deriving DecidableEq

namespace Failure

-- The first line stands behind a label, the others under it.
def labelled (label : String) (text : String) : String :=
  let under := String.ofList (List.replicate label.length ' ')
  let lines := (text.toList.splitOn '\n').map String.ofList
  label ++ String.intercalate ("\n" ++ under) lines

def numbered (cause : String × Nat) : String :=
  let digits := s!"{cause.2}"
  let margin := String.ofList (List.replicate (5 - digits.length) ' ')
  labelled (margin ++ digits ++ ": ") cause.1

/-- The lines under which causes are shown; several are numbered. -/
def shownCauses : List String → List String
  | [] => []
  | [cause] => ["", "Caused by:", labelled "    " cause]
  | causes => ["", "Caused by:"] ++ causes.zipIdx.map numbered

/-- What is said about a failure. -/
def text (failure : Failure) : String :=
  String.intercalate "\n" (("Error: " ++ failure.message) :: shownCauses failure.causes)

end Failure
end SnippetRunner.CommandLine

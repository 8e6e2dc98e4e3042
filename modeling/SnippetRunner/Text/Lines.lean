/-!
Lines of a text. A line ends at a line feed, a carriage return right before the line feed belongs to
the end of the line, and a text that ends in a line feed has no empty line after it.
-/

namespace SnippetRunner.Text

def dropReturn (line : List Char) : List Char :=
  if line.getLast? == some '\r' then line.dropLast else line

def lines (text : List Char) : List (List Char) :=
  match (text.splitOn '\n').reverse with
  | [] => []
  | last :: closed =>
      closed.reverse.map dropReturn ++ (if last.isEmpty then [] else [last])

def lineCount (text : List Char) : Nat :=
  (lines text).length

/-- The lines of a string. -/
def linesOf (text : String) : List String :=
  (lines text.toList).map String.ofList

end SnippetRunner.Text

import SnippetRunner.Text.Ident

/-!
Identifiers in a text. A scanner looks at the characters from one place on and answers how many of them
its lexeme takes, or nothing when no lexeme of its kind starts there.
-/

namespace SnippetRunner.Token
open Text (Ident.isStart Ident.isContinue)

/-- How many characters the identifier takes, zero where none starts. -/
def wordCount : List Char → Nat
  | [] => 0
  | c :: rest => if Text.Ident.isStart c then 1 + (rest.takeWhile Text.Ident.isContinue).length else 0

def breaksWord : List Char → Bool
  | [] => true
  | c :: _ => !Text.Ident.isContinue c

def startsWith (front : String) (text : List Char) : Bool :=
  front.toList.isPrefixOf text

-- Names that have no raw form.
def keptNames : List (List Char) :=
  ["_", "super", "self", "Self", "crate"].map String.toList

/-- An identifier, raw or not: its name and how many characters it takes. -/
def identifier? (text : List Char) : Option (List Char × Bool × Nat) :=
  if startsWith "r#" text then
    let count := wordCount (text.drop 2)
    let name := (text.drop 2).take count
    if count == 0 || keptNames.contains name then none else some (name, true, count + 2)
  else
    let count := wordCount text
    if count == 0 then none else some (text.take count, false, count)

end SnippetRunner.Token

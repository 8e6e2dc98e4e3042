import SnippetRunner.Text.Search

/-!
Namespaces: paths a snippet may use by short name. A namespace is a path of ASCII identifiers, and may end in
a glob.
-/

namespace SnippetRunner.Namespace

def isLetter (c : Char) : Bool :=
  ('a' ≤ c && c ≤ 'z') || ('A' ≤ c && c ≤ 'Z')

def isDigit (c : Char) : Bool :=
  '0' ≤ c && c ≤ '9'

def isSegment : List Char → Bool
  | [] => false
  | c :: rest => (c == '_' || isLetter c) && rest.all fun c => c == '_' || isLetter c || isDigit c

/-- Whether a text is a namespace. -/
def isValid (text : String) : Bool :=
  let chars := text.toList
  let path := (Text.dropBack? [':', ':', '*'] chars).getD chars
  (Text.cut [':', ':'] path).all isSegment

def defaults : List String :=
  [ "std::collections::*", "std::iter::*", "std::cmp::*", "std::str::*", "std::char::*", "std::fmt",
    "std::io" ]

end SnippetRunner.Namespace

import SnippetRunner.Text.Search
import SnippetRunner.Text.Utf8
import SnippetRunner.Token.Flat
import SnippetRunner.Token.Lexer

/-!
The policy: which snippets may be compiled at all. A snippet is lexed, its tokens are flattened and scanned
from the left, and the first violation found is the answer.
-/

namespace SnippetRunner

inductive Violation where
  | tooLong (count : Nat)
  | lex (reason : String)
  | keyword (name : String)
  | invocation (name : String)
  | innerAttribute
  | path (text : String)
  | moduleFile
  | attribute (name : String)
  deriving DecidableEq

namespace Policy

def maxSnippetBytes : Nat := 64 * 1024

def rootCrates : List (List Char) :=
  ["std", "core", "alloc"].map String.toList

def forbiddenKeywords : List (List Char) :=
  ["unsafe", "extern"].map String.toList

-- Attributes that point the compiler at other files.
def forbiddenAttributes : List (List Char) :=
  [['p', 'a', 't', 'h']]

def forbiddenMacros : List (List Char) :=
  ["include", "include_str", "include_bytes", "env", "option_env", "asm", "global_asm",
    "concat_idents"].map String.toList

end Policy

-- There is one reason for all of them.
def lexFault : String := "cannot parse string into token stream"

def Violation.message : Violation → String
  | .tooLong count => s!"snippet is {count} bytes, limit is {Policy.maxSnippetBytes}"
  | .lex reason => "snippet does not lex: " ++ reason
  | .keyword name => s!"`{name}` is not allowed"
  | .invocation name => s!"macro `{name}!` is not allowed"
  | .innerAttribute => "inner attributes are not allowed"
  | .path text => s!"path `{text}` is outside the allowed namespaces"
  | .moduleFile => "only inline modules are allowed"
  | .attribute name => s!"attribute `{name}` is not allowed"

namespace Policy
open Token (Flat)

/-- The paths that are allowed, each with everything below it. -/
structure AllowList where
  paths : List (List Char)
  deriving DecidableEq

/-- A namespace without the `::*` it may end in. -/
def withoutGlob (namespaceText : String) : List Char :=
  (Text.dropBack? [':', ':', '*'] namespaceText.toList).getD namespaceText.toList

def AllowList.ofNamespaces (namespaces : List String) : AllowList :=
  ⟨namespaces.map withoutGlob⟩

def AllowList.allows (allowed : AllowList) (path : List Char) : Bool :=
  allowed.paths.any fun front =>
    path == front ||
      match Text.dropFront? front path with
      | some rest => [':', ':'].isPrefixOf rest
      | none => false

section Shapes

/-- The segments of the path that starts here; every later one has a separator before it. -/
def segments : List Flat → List (List Char)
  | .word name _ :: .separator :: .word next raw :: rest =>
      name :: segments (.word next raw :: rest)
  | .word name _ :: _ => [name]
  | _ => []

def pathText (segments : List (List Char)) : List Char :=
  Text.joinWith [':', ':'] segments

-- A path of n segments takes n words and the separators between them.
def pathTokens (segments : List (List Char)) : Nat :=
  2 * segments.length - 1

def isInvocation : List Flat → Bool
  | .mark '!' :: .mark c :: _ => c == '(' || c == '[' || c == '{'
  | _ => false

def isInlineModule : List Flat → Bool
  | .word _ _ :: .mark '{' :: _ => true
  | _ => false

-- What stands inside `depth` square brackets, up to the one that closes the outermost.
def bracketedFrom (depth : Nat) (done : List Flat) : List Flat → List Flat
  | [] => done.reverse
  | token :: rest =>
      if token == .mark '[' then bracketedFrom (depth + 1) (token :: done) rest
      else if token == .mark ']' then
        if depth ≤ 1 then done.reverse else bracketedFrom (depth - 1) (token :: done) rest
      else bracketedFrom depth (token :: done) rest

/-- What stands strictly inside the square brackets that open a list of tokens. -/
def bracketed : List Flat → List Flat
  | .mark '[' :: rest => bracketedFrom 1 [] rest
  | _ => []

def forbiddenAttribute? (tokens : List Flat) : Option (List Char) :=
  (bracketed tokens).findSome? fun token =>
    match token with
    | .word name _ => if forbiddenAttributes.contains name then some name else none
    | _ => none

end Shapes

/-- What the token and those after it violate, when a scan stands at it. -/
def violationAt (allowed : AllowList) (token : Flat) (rest : List Flat) : Option Violation :=
  match token with
  | .word name raw =>
      if !raw && forbiddenKeywords.contains name then some (.keyword (String.ofList name))
      else if !raw && name == ['m', 'o', 'd'] && !isInlineModule rest then some .moduleFile
      else if forbiddenMacros.contains name && isInvocation rest then
        some (.invocation (String.ofList name))
      else if rootCrates.contains name then
        let path := pathText (segments (token :: rest))
        if allowed.allows path then none else some (.path (String.ofList path))
      else none
  | .mark '#' =>
      match rest with
      | .mark '!' :: _ => some .innerAttribute
      | _ => (forbiddenAttribute? rest).map fun name => .attribute (String.ofList name)
  | _ => none

-- A path from a root crate is passed over as a whole.
def step (token : Flat) (rest : List Flat) : Nat :=
  match token with
  | .word name _ => if rootCrates.contains name then pathTokens (segments (token :: rest)) else 1
  | _ => 1

/-- The first violation in a list of tokens. -/
def scan (allowed : AllowList) : List Flat → Option Violation
  | [] => none
  | token :: rest =>
      match violationAt allowed token rest with
      | some violation => some violation
      | none => scan allowed (rest.drop (step token rest - 1))
termination_by tokens => tokens.length
decreasing_by simp only [List.length_drop, List.length_cons]; omega

/-- Whether a snippet may be compiled, and if not, why. -/
def check (allowed : AllowList) (snippet : String) : Except Violation Unit :=
  if maxSnippetBytes < snippet.utf8ByteSize then .error (.tooLong snippet.utf8ByteSize)
  else
    match Token.lex? snippet.toList with
    | none => .error (.lex lexFault)
    | some trees =>
        match scan allowed (Token.flatten trees) with
        | some violation => .error violation
        | none => .ok ()

def accepts (allowed : AllowList) (snippet : String) : Bool :=
  (check allowed snippet).isOk

end Policy
end SnippetRunner

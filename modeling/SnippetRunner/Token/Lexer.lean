import SnippetRunner.Text.Blank
import SnippetRunner.Token.Literal
import SnippetRunner.Token.Tree

/-!
The lexer. White space and plain comments stand between lexemes; documentation comments are lexemes. A text
lexes when all of it is lexemes and what stands between them, and its delimiters match.
-/

namespace SnippetRunner.Token

section Between

-- Direction marks count as white space here.
def isGap (c : Char) : Bool :=
  Text.isBlank c || c.toNat == 0x200e || c.toNat == 0x200f

-- Up to the end of the line; the carriage return of a line end is skipped as well.
def lineFrom (count : Nat) : List Char → Nat
  | [] => count
  | c :: rest =>
      if c == '\n' then count
      else if c == '\r' && startsWith "\n" rest then count + 1
      else lineFrom (count + 1) rest

-- Block comments nest. The text starts after `opened` openings that are not closed.
def blockFrom (opened count : Nat) : List Char → Option Nat
  | '/' :: '*' :: rest => blockFrom (opened + 1) (count + 2) rest
  | '*' :: '/' :: rest => if opened ≤ 1 then some (count + 2) else blockFrom (opened - 1) (count + 2) rest
  | _ :: rest => blockFrom opened (count + 1) rest
  | [] => none

/-- How many characters the block comment takes that starts a text. -/
def block? (text : List Char) : Option Nat :=
  if startsWith "/*" text then blockFrom 1 2 (text.drop 2) else none

/-- How many characters the plain comment takes that starts a text. -/
def plainComment? (text : List Char) : Option Nat :=
  if startsWith "//" text then
    if (startsWith "///" text && !startsWith "////" text) || startsWith "//!" text then none
    else some (lineFrom 0 text)
  else if startsWith "/**/" text then some 4
  else if (startsWith "/**" text && !startsWith "/***" text) || startsWith "/*!" text then none
  else block? text

/-- The text from the first lexeme on. -/
def skipGap : List Char → List Char
  | [] => []
  | c :: rest =>
      if isGap c then skipGap rest
      else if c == '/' then
        match plainComment? (c :: rest) with
        | some count => skipGap (rest.drop (count - 1))
        | none => c :: rest
      else c :: rest
termination_by text => text.length
decreasing_by all_goals simp; try omega

end Between

section Lexemes

def marks : List Char :=
  "~!@#$%^&*-=+|;:,<.>/?'".toList

-- A slash that starts a comment is no mark.
def startsMark : List Char → Bool
  | [] => false
  | c :: rest =>
      marks.contains c && !(c == '/' && (startsWith "/" rest || startsWith "*" rest))

-- The name after the quote of a lifetime is a lexeme of its own.
def namesLifetime (rest : List Char) : Bool :=
  match identifier? rest with
  | none => false
  | some (_, raw, count) =>
      let after := rest.drop count
      !startsWith "'" after && (raw || !startsWith "#" after)

def mark? : List Char → Option (Lexeme × Nat)
  | [] => none
  | c :: rest =>
      if startsMark (c :: rest) then
        if c == '\'' then if namesLifetime rest then some (.mark c true, 1) else none
        else some (.mark c (startsMark rest), 1)
      else none

-- What starts like a quoted literal and is none is no word either.
def quotedFronts : List String :=
  ["r\"", "r#\"", "r##", "b\"", "b'", "br\"", "br#", "c\"", "cr\"", "cr#"]

def word? (text : List Char) : Option (Lexeme × Nat) :=
  if quotedFronts.any (startsWith · text) then none
  else (identifier? text).map fun (name, raw, count) => (.word name raw, count)

-- The text a failed expansion leaves behind is one literal.
def failedExpansion : List Char :=
  "(/*ERROR*/)".toList

def leaf? (text : List Char) : Option (Lexeme × Nat) :=
  match literal? text with
  | some count => some (.literal (text.take count), count)
  | none =>
      match mark? text with
      | some found => some found
      | none =>
          match word? text with
          | some found => some found
          | none =>
              if failedExpansion.isPrefixOf text then
                some (.literal failedExpansion, failedExpansion.length)
              else none

def hasBareReturn : List Char → Bool
  | [] => false
  | c :: rest => (c == '\r' && !startsWith "\n" rest) || hasBareReturn rest

-- A line of documentation ends before its line end, a block without its last two characters.
def docLine (inner : Bool) (text : List Char) : Lexeme × Nat :=
  let count := lineFrom 3 (text.drop 3)
  let ending := startsWith "\r" (text.drop (count - 1)) && startsWith "\n" (text.drop count)
  (.doc inner ((text.take (if ending then count - 1 else count)).drop 3), count)

def docBlock (inner : Bool) (text : List Char) : Option (Lexeme × Nat) :=
  (block? text).map fun count => (.doc inner ((text.take (count - 2)).drop 3), count)

def docComment? (text : List Char) : Option (Lexeme × Nat) :=
  if startsWith "//!" text then some (docLine true text)
  else if startsWith "/*!" text then docBlock true text
  else if startsWith "///" text then
    if startsWith "////" text then none else some (docLine false text)
  else if startsWith "/**" text && !startsWith "/***" text then docBlock false text
  else none

/-- Documentation whose text holds no carriage return but before a line feed. -/
def doc? (text : List Char) : Option (Lexeme × Nat) :=
  match docComment? text with
  | some (.doc inner body, count) => if hasBareReturn body then none else some (.doc inner body, count)
  | _ => none

/-- The lexeme that starts a text, and how many characters it takes. -/
def lexeme? (text : List Char) : Option (Lexeme × Nat) :=
  match doc? text, text with
  | some found, _ => some found
  | none, [] => none
  | none, c :: _ =>
      match opening? c, closing? c with
      | some delimiter, _ =>
          if failedExpansion.isPrefixOf text then leaf? text else some (.opens delimiter, 1)
      | none, some delimiter => some (.closes delimiter, 1)
      | none, none => leaf? text

end Lexemes

theorem length_skipGap_le (text : List Char) : (skipGap text).length ≤ text.length := by
  fun_induction skipGap text with
  | case1 => simp
  | case2 c rest _ ih => simp; omega
  | case3 c rest _ _ count _ ih => simp at ih ⊢; omega
  | case4 => simp
  | case5 => simp

/-- Lexes a text from its start; the lexemes before it are given newest first. -/
def lexemesFrom (done : List Lexeme) (text : List Char) : Option (List Lexeme) :=
  match _h : skipGap text with
  | [] => some done.reverse
  | c :: rest =>
      match lexeme? (c :: rest) with
      | none => none
      | some (lexeme, count) => lexemesFrom (lexeme :: done) (rest.drop (count - 1))
termination_by text.length
decreasing_by
  have shorter := length_skipGap_le text
  simp_all
  omega

def byteOrderMark : Char := Char.ofNat 0xfeff

-- A byte order mark is dropped at the very start of a text only.
def lexemes? (text : List Char) : Option (List Lexeme) :=
  match text with
  | [] => some []
  | c :: rest => lexemesFrom [] (if c == byteOrderMark then rest else c :: rest)

/-- The token trees of a text, or nothing when it does not lex. -/
def lex? (text : List Char) : Option (List Tree) :=
  (lexemes? text).bind trees?

end SnippetRunner.Token

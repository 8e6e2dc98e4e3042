/-!
Token trees: what a lexed text is. Delimiters are matched, so a group holds the trees between its two
delimiters; every other token is a leaf.
-/

namespace SnippetRunner.Token

inductive Delimiter where
  | round
  | square
  | curly
  deriving DecidableEq

def Delimiter.opens : Delimiter → Char
  | .round => '('
  | .square => '['
  | .curly => '{'

def Delimiter.closes : Delimiter → Char
  | .round => ')'
  | .square => ']'
  | .curly => '}'

def opening? (c : Char) : Option Delimiter :=
  if c == '(' then some .round else if c == '[' then some .square
  else if c == '{' then some .curly else none

def closing? (c : Char) : Option Delimiter :=
  if c == ')' then some .round else if c == ']' then some .square
  else if c == '}' then some .curly else none

inductive Tree where
  | group (delimiter : Delimiter) (inner : List Tree)
  | word (name : List Char) (raw : Bool)
  -- a mark is joint when another mark follows it at once
  | mark (c : Char) (joint : Bool)
  | literal (text : List Char)

/-- A lexeme: a delimiter, a leaf, or a documentation comment. -/
inductive Lexeme where
  | opens (delimiter : Delimiter)
  | closes (delimiter : Delimiter)
  | word (name : List Char) (raw : Bool)
  | mark (c : Char) (joint : Bool)
  | literal (text : List Char)
  | doc (inner : Bool) (text : List Char)
  deriving DecidableEq

-- A documentation comment stands for the attribute that holds its text; newest tree first.
def docTrees (inner : Bool) (text : List Char) : List Tree :=
  .group .square [.word ['d', 'o', 'c'] false, .mark '=' false, .literal text] ::
    if inner then [.mark '!' false, .mark '#' false] else [.mark '#' false]

/-- Matches delimiters. The stack holds the groups still open, with the trees before each, newest first. -/
def treesFrom (opened : List (Delimiter × List Tree)) (done : List Tree) :
    List Lexeme → Option (List Tree)
  | [] => if opened.isEmpty then some done.reverse else none
  | .opens delimiter :: rest => treesFrom ((delimiter, done) :: opened) [] rest
  | .closes delimiter :: rest =>
      match opened with
      | [] => none
      | (first, before) :: outer =>
          if first == delimiter then treesFrom outer (.group delimiter done.reverse :: before) rest
          else none
  | .word name raw :: rest => treesFrom opened (.word name raw :: done) rest
  | .mark c joint :: rest => treesFrom opened (.mark c joint :: done) rest
  | .literal text :: rest => treesFrom opened (.literal text :: done) rest
  | .doc inner text :: rest => treesFrom opened (docTrees inner text ++ done) rest

def trees? (lexemes : List Lexeme) : Option (List Tree) :=
  treesFrom [] [] lexemes

end SnippetRunner.Token

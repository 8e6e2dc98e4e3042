/-!
White space and what is done with it: trimming a text and cutting it into words. The set is the
Unicode property White_Space, so it is wider than the set core's `Char.isWhitespace` knows.
-/

namespace SnippetRunner.Text

def isBlank (c : Char) : Bool :=
  let n := c.toNat
  n == 0x20 || (0x09 ≤ n && n ≤ 0x0d) || n == 0x85 || n == 0xa0 || n == 0x1680 ||
    (0x2000 ≤ n && n ≤ 0x200a) || n == 0x2028 || n == 0x2029 || n == 0x202f ||
    n == 0x205f || n == 0x3000

def trimStart (text : List Char) : List Char :=
  text.dropWhile isBlank

def trimEnd (text : List Char) : List Char :=
  (text.reverse.dropWhile isBlank).reverse

def trim (text : List Char) : List Char :=
  trimEnd (trimStart text)

/-- Trims a string at both ends. -/
def trimmed (text : String) : String :=
  String.ofList (trim text.toList)

-- The words are the longest runs without white space, in order.
def wordsFrom (word : List Char) (done : List (List Char)) : List Char → List (List Char)
  | [] => (if word.isEmpty then done else word.reverse :: done).reverse
  | c :: rest =>
      if isBlank c then wordsFrom [] (if word.isEmpty then done else word.reverse :: done) rest
      else wordsFrom (c :: word) done rest

def words (text : List Char) : List (List Char) :=
  wordsFrom [] [] text

theorem trim_nil : trim [] = [] := rfl

end SnippetRunner.Text

import SnippetRunner.Token.Word

/-!
Literals: strings of three kinds (text, octets, text without NUL), cooked or raw, single characters and
octets, floating point numbers and integers. Every scanner counts characters.
-/

namespace SnippetRunner.Token

inductive StringKind where
  | text
  | octets
  | noNul
  deriving DecidableEq

/-- Characters that may stand as they are in a string of this kind. -/
def StringKind.admits (kind : StringKind) (c : Char) : Bool :=
  match kind with
  | .text => true
  | .octets => c.toNat < 0x80
  | .noNul => c.toNat != 0

def hexValue? (c : Char) : Option Nat :=
  if '0' ≤ c && c ≤ '9' then some (c.toNat - '0'.toNat)
  else if 'a' ≤ c && c ≤ 'f' then some (c.toNat - 'a'.toNat + 10)
  else if 'A' ≤ c && c ≤ 'F' then some (c.toNat - 'A'.toNat + 10)
  else none

section Escapes

def isScalar (n : Nat) : Bool :=
  n < 0xd800 || (0xe000 ≤ n && n < 0x110000)

-- The digits of a braced character number: one to six, with low lines after the first.
def scalarDigits (value digits count : Nat) : List Char → Option (Nat × Nat)
  | [] => none
  | c :: rest =>
      if c == '_' && 0 < digits then scalarDigits value digits (count + 1) rest
      else if c == '}' && 0 < digits then
        if isScalar value then some (value, count + 1) else none
      else
        match hexValue? c with
        | none => none
        | some digit =>
            if digits == 6 then none
            else scalarDigits (value * 16 + digit) (digits + 1) (count + 1) rest

def scalar? : List Char → Option (Nat × Nat)
  | '{' :: rest => scalarDigits 0 0 1 rest
  | _ => none

def hexPair? (kind : StringKind) : List Char → Bool
  | high :: low :: _ =>
      match hexValue? high, hexValue? low with
      | some h, some l =>
          match kind with
          | .text => h ≤ 7
          | .octets => true
          | .noNul => h != 0 || l != 0
      | _, _ => false
  | _ => false

/-- How many characters an escape takes after its backslash. -/
def escape? (kind : StringKind) : List Char → Option Nat
  | [] => none
  | c :: rest =>
      if c == 'x' then if hexPair? kind rest then some 3 else none
      else if c == '0' then if kind == .noNul then none else some 1
      else if ['n', 'r', 't', '\\', '\'', '"'].contains c then some 1
      else if c == 'u' && kind != .octets then
        match scalar? rest with
        | none => none
        | some (value, count) => if kind == .noNul && value == 0 then none else some (count + 1)
      else none

-- A backslash before a line end skips the white space that follows, up to some other character.
def skippedBlanks (count : Nat) : List Char → Option Nat
  | [] => none
  | '\r' :: '\n' :: rest => skippedBlanks (count + 2) rest
  | c :: rest =>
      if c == '\r' then none
      else if c == ' ' || c == '\t' || c == '\n' then skippedBlanks (count + 1) rest
      else some count

def startsLine : List Char → Bool
  | c :: _ => c == '\n' || c == '\r'
  | [] => false

end Escapes

section Strings

-- Up to and with the closing quote. A carriage return stands only before a line feed.
def cookedFrom (kind : StringKind) (count : Nat) : List Char → Option Nat
  | [] => none
  | c :: rest =>
      if c == '"' then some (count + 1)
      else if c == '\r' then
        if startsWith "\n" rest then cookedFrom kind (count + 1) rest else none
      else if c == '\\' then
        match if startsLine rest then skippedBlanks 0 rest else escape? kind rest with
        | none => none
        | some more => cookedFrom kind (count + 1 + more) (rest.drop more)
      else if kind.admits c then cookedFrom kind (count + 1) rest
      else none
termination_by text => text.length
decreasing_by all_goals simp; try omega

def rawFrom (kind : StringKind) (fence : List Char) (count : Nat) : List Char → Option Nat
  | [] => none
  | c :: rest =>
      if c == '"' && fence.isPrefixOf rest then some (count + 1 + fence.length)
      else if c == '\r' && !startsWith "\n" rest then none
      else if kind.admits c then rawFrom kind fence (count + 1) rest
      else none

def suffixed (text : List Char) (count : Nat) : Nat :=
  count + wordCount (text.drop count)

-- At most this many number signs fence a raw string.
def maxFence : Nat := 255

def rawString? (kind : StringKind) (opening : Nat) (text : List Char) : Option Nat :=
  let fence := (text.drop opening).takeWhile (· == '#')
  if maxFence < fence.length then none
  else
    match text.drop (opening + fence.length) with
    | '"' :: rest => (rawFrom kind fence (opening + fence.length + 1) rest).map (suffixed text)
    | _ => none

def cookedString? (kind : StringKind) (opening : Nat) (text : List Char) : Option Nat :=
  (cookedFrom kind opening (text.drop opening)).map (suffixed text)

/-- A string whose kind is marked by what stands before the quote. -/
def string? (mark : String) (kind : StringKind) (text : List Char) : Option Nat :=
  if startsWith (mark ++ "\"") text then cookedString? kind (mark.length + 1) text
  else if startsWith (mark ++ "r") text then rawString? kind (mark.length + 1) text
  else none

-- One character between single quotes; the quote itself needs no escape.
def single? (mark : String) (kind : StringKind) (text : List Char) : Option Nat :=
  if startsWith (mark ++ "'") text then
    let opening := mark.length + 1
    let inner :=
      match text.drop opening with
      | [] => none
      | '\\' :: rest => (escape? kind rest).map (· + 1)
      | c :: _ => if kind.admits c then some 1 else none
    match inner with
    | none => none
    | some count =>
        if startsWith "'" (text.drop (opening + count)) then
          some (suffixed text (opening + count + 1))
        else none
  else none

end Strings

section Numbers

def isDigit (c : Char) : Bool :=
  '0' ≤ c && c ≤ '9'

inductive FloatEnd where
  | bare
  | dot
  | exponent (dot : Bool)

-- The digits, at most one dot and an exponent mark of a floating point number.
def mantissaFrom (dot : Bool) (count : Nat) : List Char → Option (Nat × FloatEnd)
  | [] => some (count, if dot then .dot else .bare)
  | c :: rest =>
      if isDigit c || c == '_' then mantissaFrom dot (count + 1) rest
      else if c == '.' then
        if dot then some (count, .dot)
        else if startsWith "." rest || wordCount rest != 0 then none
        else mantissaFrom true (count + 1) rest
      else if c == 'e' || c == 'E' then some (count + 1, .exponent dot)
      else some (count, if dot then .dot else .bare)

-- Nothing when a second sign or no digit comes.
def exponentFrom (sign value : Bool) (count : Nat) : List Char → Option Nat
  | [] => if value then some count else none
  | c :: rest =>
      if c == '+' || c == '-' then
        if value then some count
        else if sign then none
        else exponentFrom true value (count + 1) rest
      else if isDigit c then exponentFrom sign true (count + 1) rest
      else if c == '_' then exponentFrom sign value (count + 1) rest
      else if value then some count else none

def floatDigits? (text : List Char) : Option Nat :=
  match text with
  | c :: rest =>
      if isDigit c then
        match mantissaFrom false 1 rest with
        | none => none
        | some (_, .bare) => none
        | some (count, .dot) => some count
        | some (count, .exponent dot) =>
            match exponentFrom false false count (text.drop count) with
            | some all => some all
            | none => if dot then some (count - 1) else none
      else none
  | [] => none

-- The digits of an integer; a decimal digit beyond the base is refused, any other character ends them.
def digitsFrom (base : Nat) (any : Bool) (count : Nat) : List Char → Option Nat
  | [] => if any then some count else none
  | c :: rest =>
      if c == '_' then
        if !any && base == 10 then none else digitsFrom base any (count + 1) rest
      else
        match hexValue? c with
        | some digit =>
            if digit < base then digitsFrom base true (count + 1) rest
            else if isDigit c then none
            else if any then some count else none
        | none => if any then some count else none

def integerDigits? (text : List Char) : Option Nat :=
  if startsWith "0x" text then digitsFrom 16 false 2 (text.drop 2)
  else if startsWith "0o" text then digitsFrom 8 false 2 (text.drop 2)
  else if startsWith "0b" text then digitsFrom 2 false 2 (text.drop 2)
  else digitsFrom 10 false 0 text

/-- The digits with an identifier as suffix, ending at the end of a word. -/
def closed? (text : List Char) (digits : Option Nat) : Option Nat :=
  match digits with
  | none => none
  | some count =>
      let all := suffixed text count
      if breaksWord (text.drop all) then some all else none

def float? (text : List Char) : Option Nat :=
  closed? text (floatDigits? text)

def integer? (text : List Char) : Option Nat :=
  closed? text (integerDigits? text)

end Numbers

def firstSome (scanners : List (List Char → Option Nat)) (text : List Char) : Option Nat :=
  scanners.findSome? (· text)

/-- How many characters the literal takes that starts a text. -/
def literal? (text : List Char) : Option Nat :=
  firstSome [string? "" .text, string? "b" .octets, string? "c" .noNul,
    single? "b" .octets, single? "" .text, float?, integer?] text

end SnippetRunner.Token

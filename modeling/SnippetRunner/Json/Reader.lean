import SnippetRunner.Json.Value

/-!
Reading JSON: a text becomes tokens, and tokens become one value. The open arrays and objects are kept on a
stack, so values may nest as deep as they like.
-/

namespace SnippetRunner.Json

inductive Token where
  | opensArray
  | closesArray
  | opensObject
  | closesObject
  | comma
  | colon
  | null
  | bool (value : Bool)
  | number (value : Numeral)
  | string (text : Option String)
  deriving DecidableEq

section Tokens

def isGap (c : Char) : Bool :=
  c == ' ' || c == '\n' || c == '\t' || c == '\r'

def hexValue? (c : Char) : Option Nat :=
  if '0' ≤ c && c ≤ '9' then some (c.toNat - '0'.toNat)
  else if 'a' ≤ c && c ≤ 'f' then some (c.toNat - 'a'.toNat + 10)
  else if 'A' ≤ c && c ≤ 'F' then some (c.toNat - 'A'.toNat + 10)
  else none

-- The unit of 16 bits that four hexadecimal digits name.
def unit? : List Char → Option Nat
  | a :: b :: c :: d :: _ => do
      let a ← hexValue? a
      let b ← hexValue? b
      let c ← hexValue? c
      let d ← hexValue? d
      pure (((a * 16 + b) * 16 + c) * 16 + d)
  | _ => none

def isHigh (unit : Nat) : Bool := 0xd800 ≤ unit && unit < 0xdc00
def isLow (unit : Nat) : Bool := 0xdc00 ≤ unit && unit < 0xe000

/-- What an escape stands for after its backslash, and how long it is. A lone half of a pair is no character. -/
def escape? : List Char → Option (Option Char × Nat)
  | [] => none
  | c :: rest =>
      if c == '"' || c == '\\' || c == '/' then some (some c, 1)
      else if c == 'b' then some (some (Char.ofNat 8), 1)
      else if c == 'f' then some (some (Char.ofNat 12), 1)
      else if c == 'n' then some (some '\n', 1)
      else if c == 'r' then some (some '\r', 1)
      else if c == 't' then some (some '\t', 1)
      else if c == 'u' then
        match unit? rest with
        | none => none
        | some unit =>
            if isHigh unit then
              match rest.drop 4 with
              | '\\' :: 'u' :: after =>
                  match unit? after with
                  | none => some (none, 5)
                  | some second =>
                      if isLow second then
                        some (some (Char.ofNat (0x10000 + (unit - 0xd800) * 1024 + (second - 0xdc00))), 11)
                      else some (none, 5)
              | _ => some (none, 5)
            else if isLow unit then some (none, 5)
            else some (some (Char.ofNat unit), 5)
      else none

-- The text up to the closing quote, which is lost once an escape names no character.
def stringFrom (done : Option (List Char)) (count : Nat) :
    List Char → Option (Option String × Nat)
  | [] => none
  | c :: rest =>
      if c == '"' then some (done.map fun text => String.ofList text.reverse, count + 1)
      else if c == '\\' then
        match escape? rest with
        | none => none
        | some (named, more) =>
            let done := match done, named with
              | some text, some c => some (c :: text)
              | _, _ => none
            stringFrom done (count + 1 + more) (rest.drop more)
      else if c.toNat < 0x20 then none
      else stringFrom (done.map (c :: ·)) (count + 1) rest
termination_by text => text.length
decreasing_by all_goals simp; try omega

-- An exponent without a digit is a fault.
def exponent? (text : List Char) : Option (Option Int × Nat) :=
  match text with
  | c :: rest =>
      if c == 'e' || c == 'E' then
        let (negative, signs) := match rest with
          | '-' :: _ => (true, 1)
          | '+' :: _ => (false, 1)
          | _ => (false, 0)
        let digits := (rest.drop signs).takeWhile Number.isDigit
        if digits.isEmpty then none
        else
          let value : Int := Number.digitsValue digits
          some (some (if negative then -value else value), 1 + signs + digits.length)
      else some (none, 0)
  | [] => some (none, 0)

def fraction? (text : List Char) : Option (List Char × Nat) :=
  match text with
  | '.' :: rest =>
      let digits := rest.takeWhile Number.isDigit
      if digits.isEmpty then none else some (digits, 1 + digits.length)
  | _ => some ([], 0)

/-- The number that starts a text and how long it is. No zero stands before another digit. -/
def numeral? (text : List Char) : Option (Numeral × Nat) :=
  let sign := if text.head? == some '-' then 1 else 0
  let whole := (text.drop sign).takeWhile Number.isDigit
  if whole.isEmpty || (whole.head? == some '0' && whole.length != 1) then none
  else
    let afterWhole := sign + whole.length
    match fraction? (text.drop afterWhole) with
    | none => none
    | some (fraction, fractionCount) =>
        let afterFraction := afterWhole + fractionCount
        match exponent? (text.drop afterFraction) with
        | none => none
        | some (exponent, exponentCount) =>
            some ({ negative := sign == 1, whole := whole, fraction := fraction,
                    exponent := exponent }, afterFraction + exponentCount)

/-- The token that starts a text and how many characters it takes. -/
def token? : List Char → Option (Token × Nat)
  | [] => none
  | c :: rest =>
      if c == '[' then some (.opensArray, 1)
      else if c == ']' then some (.closesArray, 1)
      else if c == '{' then some (.opensObject, 1)
      else if c == '}' then some (.closesObject, 1)
      else if c == ',' then some (.comma, 1)
      else if c == ':' then some (.colon, 1)
      else if c == '"' then (stringFrom (some []) 1 rest).map fun (text, count) => (.string text, count)
      else if c == 'n' then if ['u', 'l', 'l'].isPrefixOf rest then some (.null, 4) else none
      else if c == 't' then if ['r', 'u', 'e'].isPrefixOf rest then some (.bool true, 4) else none
      else if c == 'f' then
        if ['a', 'l', 's', 'e'].isPrefixOf rest then some (.bool false, 5) else none
      else (numeral? (c :: rest)).map fun (value, count) => (.number value, count)

def tokensFrom (done : List Token) : List Char → Option (List Token)
  | [] => some done.reverse
  | c :: rest =>
      if isGap c then tokensFrom done rest
      else
        match token? (c :: rest) with
        | none => none
        | some (token, count) => tokensFrom (token :: done) (rest.drop (count - 1))
termination_by text => text.length
decreasing_by all_goals simp; try omega

def tokens? (text : List Char) : Option (List Token) :=
  tokensFrom [] text

end Tokens

section Values

/-- An array or object that is still open, newest part first. -/
inductive Frame where
  | array (done : List Value)
  | object (done : List (Option String × Value)) (key : Option String)

/-- What may come next. -/
inductive Expected where
  -- a value, or the end of an array that is still empty
  | value (first : Bool)
  -- a key, or the end of an object that is still empty
  | key (first : Bool) (done : List (Option String × Value))
  -- a comma or the end of what is open, after this value
  | after (value : Value)

def valuesFrom (opened : List Frame) (expected : Expected) : List Token → Option Value
  | [] =>
      match opened, expected with
      | [], .after value => some value
      | _, _ => none
  | token :: rest =>
      match expected, token with
      | .value _, .opensArray => valuesFrom (.array [] :: opened) (.value true) rest
      | .value _, .opensObject => valuesFrom opened (.key true []) rest
      | .value _, .null => valuesFrom opened (.after .null) rest
      | .value _, .bool value => valuesFrom opened (.after (.bool value)) rest
      | .value _, .number value => valuesFrom opened (.after (.number value)) rest
      | .value _, .string text => valuesFrom opened (.after (.string text)) rest
      | .value first, .closesArray =>
          match opened with
          | .array done :: outer =>
              if first then valuesFrom outer (.after (.array done.reverse)) rest else none
          | _ => none
      | .key first done, .closesObject =>
          if first then valuesFrom opened (.after (.object done.reverse)) rest else none
      | .key _ done, .string key =>
          match rest with
          | .colon :: rest => valuesFrom (.object done key :: opened) (.value false) rest
          | _ => none
      | .after value, .comma =>
          match opened with
          | .array done :: outer => valuesFrom (.array (value :: done) :: outer) (.value false) rest
          | .object done key :: outer => valuesFrom outer (.key false ((key, value) :: done)) rest
          | [] => none
      | .after value, .closesArray =>
          match opened with
          | .array done :: outer => valuesFrom outer (.after (.array (value :: done).reverse)) rest
          | _ => none
      | .after value, .closesObject =>
          match opened with
          | .object done key :: outer =>
              valuesFrom outer (.after (.object ((key, value) :: done).reverse)) rest
          | _ => none
      | _, _ => none

/-- Reads a text that is one value and nothing else. -/
def read? (text : List Char) : Option Value :=
  (tokens? text).bind (valuesFrom [] (.value false))

end Values
end SnippetRunner.Json

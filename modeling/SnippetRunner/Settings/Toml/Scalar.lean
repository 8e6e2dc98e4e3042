import SnippetRunner.Number.Literal
import SnippetRunner.Settings.Toml.Text
import SnippetRunner.Settings.Value

/-!
Values of TOML that are one word: truth values, integers of 64 bits, floating point numbers, dates and times.
A date or time is kept as its text in standard form.
-/

namespace SnippetRunner.Settings.Toml
open SnippetRunner.Number (isDigit digitsValue)

section Numbers

-- Digits with single low lines between them.
def grouped? (digit : Char → Bool) (text : List Char) : Option (List Char) :=
  let groups := text.splitOn '_'
  if groups.all fun group => !group.isEmpty && group.all digit then some groups.flatten else none

def inRange (n : Int) : Option Value :=
  if -0x8000000000000000 ≤ n && n < 0x8000000000000000 then some (.integer n) else none

def basedValue (base : Nat) (digits : List Char) : Nat :=
  digits.foldl (fun n c => n * base + (hexValue? c).getD 0) 0

def isBaseDigit (base : Nat) (c : Char) : Bool :=
  match hexValue? c with
  | some digit => digit < base
  | none => false

def based? : List Char → Option Value
  | '0' :: mark :: digits =>
      let base := if mark == 'x' then 16 else if mark == 'o' then 8 else if mark == 'b' then 2 else 0
      ((grouped? (isBaseDigit base) digits).map fun digits => (basedValue base digits : Int)).bind inRange
  | _ => none

-- The sign and what follows it.
def signed (text : List Char) : Bool × List Char :=
  match text with
  | '-' :: rest => (true, rest)
  | '+' :: rest => (false, rest)
  | _ => (false, text)

-- No zero stands before another digit.
def whole? (text : List Char) : Option (List Char) :=
  match grouped? isDigit text with
  | some digits => if digits.head? == some '0' && digits.length != 1 then none else some digits
  | none => none

def integer? (text : List Char) : Option Value :=
  let (negative, magnitude) := signed text
  (whole? magnitude).bind fun digits =>
    let n : Int := digitsValue digits
    inRange (if negative then -n else n)

def isExponentMark (c : Char) : Bool := c == 'e' || c == 'E'

def exponent? (text : List Char) : Option Int :=
  match text with
  | [] => some 0
  | _ :: rest =>
      let (negative, magnitude) := signed rest
      (grouped? isDigit magnitude).map fun digits =>
        let n : Int := digitsValue digits
        if negative then -n else n

/-- A number with a point or an exponent, which is finite, or the name of one that is not. -/
def float? (text : List Char) : Option Value :=
  let (negative, magnitude) := signed text
  if magnitude == ['i', 'n', 'f'] then some (.float (.infinite negative))
  else if magnitude == ['n', 'a', 'n'] then some (.float .nan)
  else do
    let mantissa := magnitude.takeWhile fun c => !isExponentMark c
    let exponent ← exponent? (magnitude.dropWhile fun c => !isExponentMark c)
    let whole ← whole? (mantissa.takeWhile (· != '.'))
    let fraction ← match mantissa.dropWhile (· != '.') with
      | [] => if mantissa.length == magnitude.length then none else some []
      | _ :: fraction => grouped? isDigit fraction
    let value := Binary64.ofDecimal negative (digitsValue (whole ++ fraction))
      (exponent - fraction.length)
    if value.isInfinite then none else some (.float value)

end Numbers

section Times

def number? (digits : Nat) (text : List Char) : Option (Nat × List Char) :=
  let taken := text.take digits
  if taken.length == digits && taken.all isDigit then some (digitsValue taken, text.drop digits)
  else none

def mark? (mark : Char) : List Char → Option (List Char)
  | c :: rest => if c == mark then some rest else none
  | [] => none

def isLeap (year : Nat) : Bool :=
  year % 4 == 0 && (year % 100 != 0 || year % 400 == 0)

def daysIn (year month : Nat) : Nat :=
  if month == 2 then if isLeap year then 29 else 28
  else if [4, 6, 9, 11].contains month then 30
  else 31

def padded (digits n : Nat) : List Char :=
  let written := Number.decimalDigits n
  List.replicate (digits - written.length) '0' ++ written

/-- A day: its text, and what follows it. -/
def date? (text : List Char) : Option (List Char × List Char) := do
  let (year, rest) ← number? 4 text
  let (month, rest) ← number? 2 (← mark? '-' rest)
  let (day, rest) ← number? 2 (← mark? '-' rest)
  if 1 ≤ month && month ≤ 12 && 1 ≤ day && day ≤ daysIn year month then
    some (padded 4 year ++ '-' :: padded 2 month ++ '-' :: padded 2 day, rest)
  else none

-- Nine digits of a fraction count, and zeros at its end are not kept.
def fractionText (digits : List Char) : List Char :=
  let kept := ((digits.take 9).reverse.dropWhile (· == '0')).reverse
  '.' :: if kept.isEmpty then ['0'] else kept

def second? (text : List Char) : Option (List Char × List Char) :=
  match text with
  | ':' :: rest => do
      let (second, rest) ← number? 2 rest
      if 60 < second then none
      else
        match rest with
        | '.' :: digits =>
            let fraction := digits.takeWhile isDigit
            if fraction.isEmpty then none
            else some (':' :: padded 2 second ++ fractionText fraction, digits.dropWhile isDigit)
        | _ => some (':' :: padded 2 second, rest)
  | _ => some ([], text)

/-- A time of day, with seconds or without: its text, and what follows it. -/
def time? (text : List Char) : Option (List Char × List Char) := do
  let (hour, rest) ← number? 2 text
  let (minute, rest) ← number? 2 (← mark? ':' rest)
  if 23 < hour || 59 < minute then none
  else
    let (second, rest) ← second? rest
    some (padded 2 hour ++ ':' :: padded 2 minute ++ second, rest)

-- An offset of zero has a plus sign.
def offset? (text : List Char) : Option (List Char) :=
  match text with
  | [] => some []
  | c :: rest =>
      if c == 'Z' || c == 'z' then if rest.isEmpty then some ['Z'] else none
      else if c == '+' || c == '-' then do
        let (hour, rest) ← number? 2 rest
        let (minute, rest) ← number? 2 (← mark? ':' rest)
        if 23 < hour || 59 < minute || !rest.isEmpty then none
        else
          let sign := if hour == 0 && minute == 0 then '+' else c
          some (sign :: padded 2 hour ++ ':' :: padded 2 minute)
      else none

/-- A date, a time or both; between them stands a T or a blank. -/
def moment? (text : List Char) : Option (List Char) :=
  match date? text with
  | some (date, []) => some date
  | some (date, between :: rest) =>
      if between == 'T' || between == 't' || between == ' ' then do
        let (time, rest) ← time? rest
        let offset ← offset? rest
        some (date ++ 'T' :: time ++ offset)
      else none
  | none =>
      match time? text with
      | some (time, []) => some time
      | _ => none

end Times

section Words

def isWordChar (c : Char) : Bool :=
  ('a' ≤ c && c ≤ 'z') || ('A' ≤ c && c ≤ 'Z') || isDigit c ||
    c == '_' || c == '-' || c == '+' || c == '.' || c == ':'

-- A day and the time after a blank are one word.
def wordLength (text : List Char) : Nat :=
  let first := (text.takeWhile isWordChar).length
  match date? (text.take first), text.drop first with
  | some (_, []), ' ' :: c :: rest =>
      if isDigit c then first + 1 + ((c :: rest).takeWhile isWordChar).length else first
  | _, _ => first

def word? (word : List Char) : Option Value :=
  if word == "true".toList then some (.bool true)
  else if word == "false".toList then some (.bool false)
  else
    [based?, integer?, float?, fun word => (moment? word).map fun text => .string (String.ofList text)]
      |>.findSome? (· word)

/-- A value without parts: the value and how many characters it takes. -/
def scalar? (text : List Char) : Option (Value × Nat) :=
  match text with
  | [] => none
  | c :: _ =>
      if c == '"' || c == '\'' then
        match many? c text with
        | some (text, count) => some (.string text, count)
        | none =>
            if [c, c, c].isPrefixOf text then none
            else (quoted? text).map fun (text, count) => (.string text, count)
      else
        let count := wordLength text
        (word? (text.take count)).map fun value => (value, count)

end Words
end SnippetRunner.Settings.Toml

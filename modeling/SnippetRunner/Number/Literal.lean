import SnippetRunner.Number.Shortest

/-!
Reading numbers that stand alone in a text: whole numbers in a range, and floating point numbers with an
optional point, an optional exponent, and the names of infinity and NaN in any case.
-/

namespace SnippetRunner.Number

def isDigit (c : Char) : Bool :=
  '0' ≤ c && c ≤ '9'

def digitsValue (digits : List Char) : Nat :=
  digits.foldl (fun n c => n * 10 + (c.toNat - '0'.toNat)) 0

/-- The natural number a text of digits says, if it has a digit and nothing else. -/
def natural? (text : List Char) : Option Nat :=
  if text.isEmpty || !text.all isDigit then none else some (digitsValue text)

-- A plus sign is allowed, and a minus sign where negative numbers are.
def unsigned? (bits : Nat) (text : List Char) : Option Nat :=
  let digits := match text with
    | '+' :: rest => rest
    | _ => text
  (natural? digits).filter (· < Nat.pow 2 bits)

def signed? (bits : Nat) (text : List Char) : Option Int :=
  match text with
  | '-' :: rest =>
      match natural? rest with
      | some n => if n ≤ Nat.pow 2 (bits - 1) then some (-(n : Int)) else none
      | none => none
  | _ => ((unsigned? (bits - 1) text).map fun n => (n : Int))

section Floats

def lower (c : Char) : Char :=
  if 'A' ≤ c && c ≤ 'Z' then Char.ofNat (c.toNat + 32) else c

/-- The exponent after its mark: a sign or none, and digits. -/
def exponent? (text : List Char) : Option Int :=
  match text with
  | '-' :: rest => (natural? rest).map fun n => -(n : Int)
  | '+' :: rest => (natural? rest).map fun n => (n : Int)
  | _ => (natural? text).map fun n => (n : Int)

def named? (negative : Bool) (text : List Char) : Option Binary64 :=
  let name := String.ofList (text.map lower)
  if name == "inf" || name == "infinity" then some (.infinite negative)
  else if name == "nan" then some .nan
  else none

def magnitude? (negative : Bool) (text : List Char) : Option Binary64 :=
  let whole := text.takeWhile isDigit
  let afterWhole := text.dropWhile isDigit
  let (fraction, afterFraction) := match afterWhole with
    | '.' :: rest => (rest.takeWhile isDigit, rest.dropWhile isDigit)
    | _ => ([], afterWhole)
  if whole.isEmpty && fraction.isEmpty then named? negative text
  else
    let value (exponent : Int) : Binary64 :=
      .ofDecimal negative (digitsValue (whole ++ fraction)) (exponent - fraction.length)
    match afterFraction with
    | [] => some (value 0)
    | c :: rest => if lower c == 'e' then (exponent? rest).map value else none

/-- The floating point number a text says. -/
def binary64? (text : List Char) : Option Binary64 :=
  match text with
  | '-' :: rest => magnitude? true rest
  | '+' :: rest => magnitude? false rest
  | _ => magnitude? false text

end Floats
end SnippetRunner.Number

import SnippetRunner.Number.Literal

/-!
JSON values as they are written. Fields keep their order and may repeat; a number keeps its digits; a string
whose escapes name no characters is a value too, but one without text.
-/

namespace SnippetRunner.Json

/-- A number as written: digits before and after the point, and the exponent if there is one. -/
structure Numeral where
  negative : Bool
  whole : List Char
  fraction : List Char
  exponent : Option Int
  deriving DecidableEq

inductive Value where
  | null
  | bool (value : Bool)
  | number (value : Numeral)
  | string (text : Option String)
  | array (items : List Value)
  | object (fields : List (Option String × Value))

def natLimit : Nat := 0x10000000000000000

namespace Numeral

def isWhole (n : Numeral) : Bool :=
  n.fraction.isEmpty && n.exponent.isNone

/-- The natural number of 64 bits that is written without sign, point and exponent. -/
def natural? (n : Numeral) : Option Nat :=
  if n.negative || !n.isWhole then none
  else
    let value := Number.digitsValue n.whole
    if value < natLimit then some value else none

-- Zero with a minus sign is no whole number.
def negative? (n : Numeral) : Option Int :=
  if !n.negative || !n.isWhole then none
  else
    let value := Number.digitsValue n.whole
    if value = 0 ∨ value > natLimit / 2 then none else some (-(value : Int))

-- The digits that fit 64 bits, and how many more there are.
def leading (value : Nat) : List Char → Nat × List Char
  | [] => (value, [])
  | c :: rest =>
      let next := value * 10 + (c.toNat - '0'.toNat)
      if next < natLimit then leading next rest else (value, c :: rest)

/-- The significant digits that fit 64 bits, and the power of ten they stand for. -/
def parts (n : Numeral) : Nat × Int :=
  let (value, wholeLeft) := leading 0 n.whole
  let (value, fractionLeft) := leading value n.fraction
  (value, (wholeLeft.length : Int) - ((n.fraction.length - fractionLeft.length : Nat) : Int))

def powerStep : Nat := 308

def scaledDown (value : Binary64) : Nat → Binary64
  | 0 => value
  | n + 1 => scaledDown (value.div (.ofDecimal false 1 powerStep)) n

/-- The number, rounded once for its digits and once for each scaling by a power of ten. -/
def binary64? (n : Numeral) : Option Binary64 :=
  let (digits, place) := n.parts
  let exponent := place + n.exponent.getD 0
  let significand := Binary64.ofNat digits
  if exponent ≥ 0 then
    if digits = 0 then some (if n.negative then Binary64.zero.negate else .zero)
    else if exponent > powerStep then none
    else
      let value := significand.mul (.ofDecimal false 1 exponent)
      if value.isInfinite then none else some (if n.negative then value.negate else value)
  else
    let below := min (-exponent).toNat 1000
    let steps := (below - 1) / powerStep
    let value := scaledDown significand steps
    let value := value.div (.ofDecimal false 1 ((below - steps * powerStep : Nat) : Int))
    some (if n.negative then value.negate else value)

end Numeral
end SnippetRunner.Json

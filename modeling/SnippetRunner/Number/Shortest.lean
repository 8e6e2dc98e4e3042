import SnippetRunner.Number.Binary64

/-!
Numbers as text: the fewest digits that read back to the same number, of these the nearest to it, always in
positional notation. For each count of digits the two neighbours of the value on that decimal grid are tried.
-/

namespace SnippetRunner.Number

/-- The values that round to a number lie between `low / den` and `high / den`; `value / den` is its own. -/
structure Interval where
  low : Nat
  value : Nat
  high : Nat
  den : Nat
  closed : Bool

-- The gap below a power of two is half the gap above it.
def interval (significand : Nat) (exponent : Int) : Interval :=
  let below := if significand = 0x10000000000000 ∧ exponent > Binary64.leastExponent then 1 else 2
  let unit := if exponent ≥ 0 then Nat.pow 2 exponent.toNat else 1
  let den := if exponent ≥ 0 then 4 else 4 * Nat.pow 2 (-exponent).toNat
  { low := (4 * significand - below) * unit, value := 4 * significand * unit,
    high := (4 * significand + 2) * unit, den := den, closed := significand % 2 == 0 }

-- Compares `digits * 10 ^ place` with `num / den`, both scaled to naturals.
def atPlace (digits : Nat) (place : Int) (den : Nat) : Nat :=
  if place ≥ 0 then digits * Nat.pow 10 place.toNat * den else digits * den

def overPlace (num : Nat) (place : Int) : Nat :=
  if place ≥ 0 then num else num * Nat.pow 10 (-place).toNat

def Interval.holds (bounds : Interval) (digits : Nat) (place : Int) : Bool :=
  let point := atPlace digits place bounds.den
  let low := overPlace bounds.low place
  let high := overPlace bounds.high place
  if bounds.closed then low ≤ point && point ≤ high else low < point && point < high

/-- The nearer of the value's two neighbours at a decimal place that lies in the interval. -/
def Interval.hit? (bounds : Interval) (place : Int) : Option Nat :=
  let num := overPlace bounds.value place
  let unit := atPlace 1 place bounds.den
  let down := num / unit
  match bounds.holds down place, bounds.holds (down + 1) place with
  | true, true => if 2 * (num % unit) < unit then some down else some (down + 1)
  | true, false => some down
  | false, true => some (down + 1)
  | false, false => none

-- The least power of ten above the value, looked for near what its logarithm says.
def magnitude (num den : Nat) : Int :=
  let guess := ((num.log2 : Int) - den.log2) * 30103 / 100000
  let above (p : Int) : Bool :=
    if p ≥ 0 then num < Nat.pow 10 p.toNat * den else num * Nat.pow 10 (-p).toNat < den
  ([guess - 1, guess, guess + 1, guess + 2].find? above).getD (guess + 3)

/-- Digits and decimal place of the shortest text that reads back. -/
def shortest (significand : Nat) (exponent : Int) : Nat × Int :=
  let bounds := interval significand exponent
  let top := magnitude bounds.value bounds.den
  let found := (List.range 17).findSome? fun (count : Nat) =>
    let place := top - (count + 1 : Nat)
    (bounds.hit? place).map fun digits => (digits, place)
  found.getD (0, 0)

def decimalDigits (n : Nat) : List Char :=
  Nat.toDigits 10 n

-- Digits at a place, without an exponent; zeros at the end of a fraction are not written.
def positional (digits : List Char) (place : Int) : List Char :=
  if place ≥ 0 then digits ++ List.replicate place.toNat '0'
  else
    let places := (-place).toNat
    let whole := digits.take (digits.length - places)
    let fraction := List.replicate (places - digits.length) '0' ++ digits.drop (digits.length - places)
    let fraction := (fraction.reverse.dropWhile (· == '0')).reverse
    (if whole.isEmpty then ['0'] else whole) ++
      (if fraction.isEmpty then [] else '.' :: fraction)

end Number

namespace Binary64

def text : Binary64 → String
  | .nan => "NaN"
  | .infinite negative => if negative then "-inf" else "inf"
  | .finite negative significand exponent =>
      let digits :=
        if significand = 0 then ['0']
        else
          let (digits, place) := Number.shortest significand exponent
          Number.positional (Number.decimalDigits digits) place
      String.ofList (if negative then '-' :: digits else digits)

end Binary64
end SnippetRunner

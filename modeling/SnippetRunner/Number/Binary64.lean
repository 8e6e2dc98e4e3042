/-!
Floating point numbers of 64 bits, as exact values. A finite number is a significand times a power of two;
every operation is exact on rationals and then rounded once, to the nearest number, ties to the even
significand.
-/

namespace SnippetRunner

inductive Binary64 where
  | nan
  | infinite (negative : Bool)
  -- the significand is below 2^53, the exponent from -1074 on and the least one for it
  | finite (negative : Bool) (significand : Nat) (exponent : Int)
  deriving DecidableEq

namespace Binary64

def leastExponent : Int := -1074
def greatestExponent : Int := 971

def zero : Binary64 := .finite false 0 leastExponent

section Rounding

-- The quotient by `den * 2 ^ exponent`, as two naturals.
def scaled (num den : Nat) (exponent : Int) : Nat × Nat :=
  if exponent ≥ 0 then (num, den * Nat.pow 2 exponent.toNat) else (num * Nat.pow 2 (-exponent).toNat, den)

/-- The quotient rounded to a natural, a half going to the even one. -/
def roundHalfEven (num den : Nat) : Nat :=
  let quotient := num / den
  let twice := 2 * (num % den)
  if twice < den then quotient
  else if twice > den then quotient + 1
  else quotient + quotient % 2

def packed (negative : Bool) (significand : Nat) (exponent : Int) : Binary64 :=
  let (significand, exponent) :=
    if significand = 0x20000000000000 then (0x10000000000000, exponent + 1) else (significand, exponent)
  if exponent > greatestExponent then .infinite negative else .finite negative significand exponent

/-- The number nearest to `num / den`. -/
def ofRatio (negative : Bool) (num den : Nat) : Binary64 :=
  if num = 0 then .finite negative 0 leastExponent
  else
    let guess := max ((num.log2 : Int) - den.log2 - 53) leastExponent
    let (n, d) := scaled num den guess
    let exponent := if n / d < 0x20000000000000 then guess else guess + 1
    let (n, d) := scaled num den exponent
    packed negative (roundHalfEven n d) exponent

-- The number nearest to `significand * 2 ^ exponent`.
def ofScaled (negative : Bool) (significand : Nat) (exponent : Int) : Binary64 :=
  if exponent ≥ 0 then ofRatio negative (significand * Nat.pow 2 exponent.toNat) 1
  else ofRatio negative significand (Nat.pow 2 (-exponent).toNat)

def ofNat (n : Nat) : Binary64 :=
  ofRatio false n 1

def ofInt (n : Int) : Binary64 :=
  ofRatio (n < 0) n.natAbs 1

-- Decimal exponents beyond which a number is infinite or zero, whatever its digits.
def decimalReach : Int := 400

/-- The number nearest to `digits * 10 ^ exponent`. -/
def ofDecimal (negative : Bool) (digits : Nat) (exponent : Int) : Binary64 :=
  if digits = 0 then .finite negative 0 leastExponent
  else
    let size : Int := (digits.log2 * 3 / 10 : Nat)
    if exponent + size > decimalReach then .infinite negative
    else if exponent + 2 * size < -decimalReach then .finite negative 0 leastExponent
    else if exponent ≥ 0 then ofRatio negative (digits * Nat.pow 10 exponent.toNat) 1
    else ofRatio negative digits (Nat.pow 10 (-exponent).toNat)

end Rounding

section Arithmetic

def isNegative : Binary64 → Bool
  | .nan => false
  | .infinite negative => negative
  | .finite negative _ _ => negative

def isInfinite : Binary64 → Bool
  | .infinite _ => true
  | _ => false

def isZero : Binary64 → Bool
  | .finite _ significand _ => significand == 0
  | _ => false

def isPositive : Binary64 → Bool
  | .nan => false
  | .infinite negative => !negative
  | .finite negative significand _ => !negative && significand != 0

def negate : Binary64 → Binary64
  | .nan => .nan
  | .infinite negative => .infinite !negative
  | .finite negative significand exponent => .finite (!negative) significand exponent

def signed (negative : Bool) (n : Nat) : Int :=
  if negative then -(n : Int) else n

def add : Binary64 → Binary64 → Binary64
  | .finite s m e, .finite t n f =>
      let least := min e f
      let sum := signed s m * Nat.pow 2 (e - least).toNat + signed t n * Nat.pow 2 (f - least).toNat
      if sum = 0 then .finite (s && t) 0 leastExponent else ofScaled (sum < 0) sum.natAbs least
  | .infinite s, .infinite t => if s == t then .infinite s else .nan
  | .infinite s, .finite .. => .infinite s
  | .finite .., .infinite t => .infinite t
  | .nan, _ => .nan
  | _, .nan => .nan

def mul : Binary64 → Binary64 → Binary64
  | .finite s m e, .finite t n f => ofScaled (s != t) (m * n) (e + f)
  | .nan, _ => .nan
  | _, .nan => .nan
  | x, y =>
      if x.isZero || y.isZero then .nan else .infinite (x.isNegative != y.isNegative)

def div : Binary64 → Binary64 → Binary64
  | .finite s m e, .finite t n f =>
      if n = 0 then if m = 0 then .nan else .infinite (s != t)
      else if e ≥ f then ofRatio (s != t) (m * Nat.pow 2 (e - f).toNat) n
      else ofRatio (s != t) m (n * Nat.pow 2 (f - e).toNat)
  | .nan, _ => .nan
  | _, .nan => .nan
  | .infinite _, .infinite _ => .nan
  | .infinite s, .finite t _ _ => .infinite (s != t)
  | .finite s _ _, .infinite t => .finite (s != t) 0 leastExponent

/-- The whole number nearest to the magnitude of a finite number, a half going up. -/
def roundHalfUp (significand : Nat) (exponent : Int) : Nat :=
  if exponent ≥ 0 then significand * Nat.pow 2 exponent.toNat
  else (2 * significand + Nat.pow 2 (-exponent).toNat) / (2 * Nat.pow 2 (-exponent).toNat)

end Arithmetic

section Encoding

/-- The 64 bits of a number, the one of NaN aside. -/
def bits : Binary64 → Nat
  | .nan => 0x7ff8000000000000
  | .infinite negative => (if negative then 0x8000000000000000 else 0) + 0x7ff * 0x10000000000000
  | .finite negative significand exponent =>
      (if negative then 0x8000000000000000 else 0) +
        if significand < 0x10000000000000 then significand
        else (exponent + 1075).toNat * 0x10000000000000 + (significand - 0x10000000000000)

end Encoding

example : ofDecimal false 1 (-1) = .finite false 0x1999999999999a (-56) := by decide +kernel
example : ofDecimal false 5 (-324) = .finite false 1 (-1074) := by decide +kernel
example : (ofDecimal false 17976931348623159 292).isInfinite = true := by decide +kernel
example : add (ofNat 1) (ofDecimal true 1 0) = zero := by decide +kernel

end Binary64
end SnippetRunner

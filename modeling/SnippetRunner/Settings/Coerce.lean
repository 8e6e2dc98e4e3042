import SnippetRunner.Number.Literal
import SnippetRunner.Settings.Value
import SnippetRunner.Text.Quoted

/-!
Coercions of settings values. A setting takes a value of its own kind and values that say the same in another
kind: numbers as text, truth values as words or numbers.
-/

namespace SnippetRunner.Settings

/-- What a value turned out to be. -/
inductive Found where
  | unit
  | bool (value : Bool)
  | signed (value : Int)
  | unsigned (value : Nat)
  -- where a sequence or a record was wanted
  | whole (value : Int)
  | float (value : Binary64)
  | text (value : String)
  | sequence
  | map
  deriving DecidableEq

def Found.message : Found → String
  | .unit => "unit value"
  | .bool value => s!"boolean `{value}`"
  | .signed value => s!"64-bit integer `{value}`"
  | .unsigned value => s!"64-bit unsigned integer `{value}`"
  | .whole value => s!"integer `{value}`"
  | .float value =>
      let text := value.text
      let point := match value with
        | .finite .. => if text.toList.contains '.' then "" else ".0"
        | _ => ""
      "floating point `" ++ text ++ point ++ "`"
  | .text value => "string " ++ Text.quoted value
  | .sequence => "sequence"
  | .map => "map"

/-- Why a value does not fit its place. -/
inductive Misfit where
  -- a value that no coercion takes; it knows the document it is from
  | mismatch (found : Found) (expected : String)
  -- a value of another shape or size
  | unsuited (found : Found) (expected : String)
  -- a record written as too short a list
  | length (count : Nat) (expected : String)
  | noVariant (kind name : String)
  | notOneName (kind : String)
  deriving DecidableEq

def Misfit.message : Misfit → String
  | .mismatch found expected => s!"invalid type: {found.message}, expected {expected}"
  | .unsuited found expected => s!"invalid type: {found.message}, expected {expected}"
  | .length count expected => s!"invalid length {count}, expected {expected}"
  | .noVariant kind name => s!"enum {kind} does not have variant constructor {name}"
  | .notOneName kind =>
      s!"value of enum {kind} should be represented by either string or table with exactly one key"

def Misfit.knowsDocument : Misfit → Bool
  | .mismatch _ _ => true
  | _ => false

namespace Coerce

def lowered (text : String) : String :=
  String.ofList (text.toList.map Number.lower)

/-- The truth value that a word says, in any case. -/
def word? (text : String) : Option Bool :=
  let word := lowered text
  if word == "true" || word == "on" || word == "yes" then some true
  else if word == "false" || word == "off" || word == "no" then some false
  else none

-- What stands where a leaf was wanted.
def leafFound : Value → Found
  | .null => .unit
  | .bool value => .bool value
  | .integer value => if value < 0x8000000000000000 then .signed value else .unsigned value.toNat
  | .float value => .float value
  | .string text => .text text
  | .array _ => .sequence
  | .table _ => .map

-- What stands where a sequence or a record was wanted.
def partsFound : Value → Found
  | .integer value => .whole value
  | value => leafFound value

def float (value : Value) : Except Misfit Binary64 :=
  match value with
  | .float value => .ok value
  | .integer value => .ok (.ofInt value)
  | .bool value => .ok (.ofNat value.toNat)
  | .string text =>
      match word? text with
      | some value => .ok (.ofNat value.toNat)
      | none =>
          match Number.binary64? text.toList with
          | some value => .ok value
          | none => .error (.mismatch (.text text) "a floating point")
  | value => .error (.mismatch (leafFound value) "a floating point")

-- A float is rounded, a half away from zero, and stays within 64 bits; NaN is zero.
def roundedFloat : Binary64 → Nat
  | .nan => 0
  | .infinite negative => if negative then 0 else 0xffffffffffffffff
  | .finite negative significand exponent =>
      if negative then 0 else min (Binary64.roundHalfUp significand exponent) 0xffffffffffffffff

def natural64 (value : Value) : Except Misfit Nat :=
  match value with
  | .integer n =>
      if n < 0 then .error (.mismatch (.signed n) "an unsigned 64 bit or less integer")
      else .ok n.toNat
  | .float value => .ok (roundedFloat value)
  | .bool value => .ok value.toNat
  | .string text =>
      match word? text with
      | some value => .ok value.toNat
      | none =>
          match Number.unsigned? 64 text.toList with
          | some n => .ok n
          | none => .error (.mismatch (.text text) "an integer")
  | value => .error (.mismatch (leafFound value) "an integer")

/-- A natural number of 32 bits. -/
def natural32 (value : Value) : Except Misfit Nat := do
  let n ← natural64 value
  if n < 0x100000000 then pure n else .error (.unsuited (.unsigned n) "an unsigned 32 bit integer")

def bool (value : Value) : Except Misfit Bool :=
  match value with
  | .bool value => .ok value
  | .integer n => .ok (n != 0)
  | .float value => .ok !value.isZero
  | .string text =>
      match lowered text with
      | "1" => .ok true
      | "0" => .ok false
      | word =>
          match word? word with
          | some value => .ok value
          | none => .error (.mismatch (.text word) "a boolean")
  | value => .error (.mismatch (leafFound value) "a boolean")

def text (value : Value) : Except Misfit String :=
  match value with
  | .string text => .ok text
  | .bool value => .ok (if value then "true" else "false")
  | .integer n => .ok s!"{n}"
  | .float value => .ok value.text
  | value => .error (.mismatch (leafFound value) "a string")

end Coerce
end SnippetRunner.Settings

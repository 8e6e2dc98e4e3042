import SnippetRunner.Json.Reader

/-!
Records in JSON: an object with named fields, or an array of the fields in order. Fields that are not known
are passed over; a known one stands at most once.
-/

namespace SnippetRunner.Json

/-- Where a field may be left out. -/
inductive Presence where
  | required
  -- in an object only
  | optionalByName
  | optional
  deriving DecidableEq

structure Field where
  name : String
  presence : Presence

section Fields

-- All values under a name, or nothing when some key has no text.
def valuesOf (name : String) (fields : List (Option String × Value)) : List Value :=
  (fields.filter fun field => field.1 == some name).map Prod.snd

def byName (spec : Field) (fields : List (Option String × Value)) : Option (Option Value) :=
  match valuesOf spec.name fields with
  | [] => if spec.presence == .required then none else some none
  | [value] => some (some value)
  | _ => none

def inOrder : List Field → List Value → Option (List (Option Value))
  | [], [] => some []
  | [], _ :: _ => none
  | spec :: rest, [] =>
      if spec.presence == .optional then (inOrder rest []).map (none :: ·) else none
  | _ :: rest, value :: values => (inOrder rest values).map (some value :: ·)

/-- The value of each field of a record, or nothing when this is no such record. -/
def fields? (specs : List Field) : Value → Option (List (Option Value))
  | .object fields =>
      if fields.all fun field => field.1.isSome then specs.mapM (byName · fields) else none
  | .array items => inOrder specs items
  | _ => none

end Fields

section Leaves

def text? : Value → Option String
  | .string text => text
  | _ => none

def bool? : Value → Option Bool
  | .bool value => some value
  | _ => none

/-- A natural number of 64 bits. -/
def natural? : Value → Option Nat
  | .number value => value.natural?
  | _ => none

/-- One of several names, alone or as the only key of an object that holds null. -/
def name? (names : List String) (value : Value) : Option String :=
  match value with
  | .string (some text) => if names.contains text then some text else none
  | .object [(some text, .null)] => if names.contains text then some text else none
  | _ => none

end Leaves
end SnippetRunner.Json

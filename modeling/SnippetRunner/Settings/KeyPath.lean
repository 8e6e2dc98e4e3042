import SnippetRunner.Number.Literal
import SnippetRunner.Settings.Value

/-!
Key paths: a top-level key of a settings document may name a place deeper down, as in `a.b[0]`. Setting a
place makes what is missing on the way to it; tables are merged, other values replace what was there.
-/

namespace SnippetRunner.Settings

inductive Step where
  | name (name : String)
  -- counted from the end if negative
  | index (index : Int)
  deriving DecidableEq

namespace KeyPath

def isNameChar (c : Char) : Bool :=
  ('a' ≤ c && c ≤ 'z') || ('A' ≤ c && c ≤ 'Z') || Number.isDigit c || c == '_' || c == '-'

def name? (text : List Char) : Option (String × Nat) :=
  let name := text.takeWhile isNameChar
  if name.isEmpty then none else some (String.ofList name, name.length)

def blanks (text : List Char) : Nat :=
  (text.takeWhile fun c => c == ' ' || c == '\t').length

-- An index and its closing bracket.
def index? (text : List Char) : Option (Int × Nat) :=
  let before := blanks text
  let sign := if (text.drop before).head? == some '-' then 1 else 0
  let digits := (text.drop (before + sign)).takeWhile Number.isDigit
  let size := before + sign + digits.length
  let after := size + blanks (text.drop size)
  match text.drop after with
  | ']' :: _ => (Number.signed? 64 ((text.drop before).take (sign + digits.length))).map (·, after + 1)
  | _ => none

def stepsFrom (done : List Step) : List Char → Option (List Step)
  | [] => some done.reverse
  | c :: rest =>
      if c == '.' then
        match name? rest with
        | some (name, count) => stepsFrom (.name name :: done) (rest.drop count)
        | none => none
      else if c == '[' then
        match index? rest with
        | some (index, count) => stepsFrom (.index index :: done) (rest.drop count)
        | none => none
      else none
termination_by text => text.length
decreasing_by all_goals simp; try omega

/-- The steps that a key says, if it is a path. -/
def ofKey? (key : String) : Option (List Step) :=
  match name? key.toList with
  | some (name, count) => stepsFrom [.name name] (key.toList.drop count)
  | none => none

end KeyPath

section Places

def fieldsOf : Value → Fields
  | .table fields => fields
  | _ => []

def itemsOf : Value → List Value
  | .array items => items
  | _ => []

-- The items with enough nulls for an index, and the place of the index in them.
def reach (items : List Value) (index : Int) : List Value × Nat :=
  let size := items.length
  if index ≥ 0 then (items ++ List.replicate (index.toNat + 1 - size) .null, index.toNat)
  else
    let back := (-index).toNat
    if back ≤ size then (items, size - back) else (List.replicate (back - size) .null ++ items, 0)

/-- Changes the value at a place. -/
def change (f : Value → Value) : List Step → Value → Value
  | [], value => f value
  | .name name :: steps, value =>
      let fields := fieldsOf value
      .table (fields.put name (change f steps ((fields.get? name).getD .null)))
  | .index index :: steps, value =>
      let (items, place) := reach (itemsOf value) index
      .array (items.modify place (change f steps))

mutual

/-- What stands at a place after a value is set there. -/
def merge (old : Value) : Value → Value
  | .table fields => mergeFields (match old with | .null => .table [] | value => value) fields
  | value => value

def mergeFields (target : Value) : List (String × Value) → Value
  | [] => target
  | (name, value) :: rest =>
      let fields := fieldsOf target
      mergeFields (.table (fields.put name (merge ((fields.get? name).getD .null) value))) rest

end

/-- Sets every top-level key of a document in turn. -/
def place (fields : Fields) : Value :=
  fields.foldl (fun root (key, value) =>
    change (fun old => merge old value) ((KeyPath.ofKey? key).getD [.name key]) root) (.table [])

end Places
end SnippetRunner.Settings

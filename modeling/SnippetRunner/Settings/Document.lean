import SnippetRunner.Json.Reader
import SnippetRunner.Settings.Decode
import SnippetRunner.Settings.Toml.Reader

/-!
Settings documents in TOML and JSON. A document that cannot be read, a value that does not fit its place and
settings that may not be are three different faults.
-/

namespace SnippetRunner.Settings

inductive DocumentFault where
  | unreadable
  | misread (fault : Fault)
  | invalid (cause : Invalid)
  deriving DecidableEq

inductive Format where
  | toml
  | json
  deriving DecidableEq

section FromJson

-- Objects and arrays nest no deeper than this.
def jsonDepth : Nat := 127

def number? (n : Json.Numeral) : Option Value :=
  match n.natural?, n.negative? with
  | some value, _ => some (.integer value)
  | none, some value => some (.integer value)
  | none, none => n.binary64?.map .float

mutual

-- A name that stands twice has its last value.
def ofJson? (depth : Nat) : Json.Value → Option Value
  | .null => some .null
  | .bool value => some (.bool value)
  | .number n => number? n
  | .string text => text.map .string
  | .array items => if depth = 0 then none else (itemsOfJson? (depth - 1) items).map .array
  | .object fields =>
      if depth = 0 then none else (fieldsOfJson? (depth - 1) [] fields).map .table

def itemsOfJson? (depth : Nat) : List Json.Value → Option (List Value)
  | [] => some []
  | item :: rest =>
      match ofJson? depth item, itemsOfJson? depth rest with
      | some value, some values => some (value :: values)
      | _, _ => none

def fieldsOfJson? (depth : Nat) (done : Fields) : List (Option String × Json.Value) → Option Fields
  | [] => some done
  | (name, field) :: rest =>
      match name, ofJson? depth field with
      | some name, some value => fieldsOfJson? depth (done.put name value) rest
      | _, _ => none

end
end FromJson

/-- The fields of a document. -/
def fields? (format : Format) (text : List Char) : Option Fields :=
  match format with
  | .toml => Toml.read? text
  | .json =>
      match (Json.read? text).bind (ofJson? jsonDepth) with
      | some (.table fields) => some fields
      | _ => none

/-- Reads and checks settings. -/
def read (format : Format) (text : List Char) : Except DocumentFault Settings :=
  match fields? format text with
  | none => .error .unreadable
  | some fields =>
      match Decode.settings (place fields) with
      | .error fault => .error (.misread fault)
      | .ok settings =>
          match settings.check with
          | .error cause => .error (.invalid cause)
          | .ok () => .ok settings

def readToml (text : String) : Except DocumentFault Settings :=
  read .toml text.toList

end SnippetRunner.Settings

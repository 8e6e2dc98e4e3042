import SnippetRunner.Json.Record
import SnippetRunner.Json.Writer

/-!
Diagnostics: what a compiler says about a program, with its place in the snippet where it has one there.
-/

namespace SnippetRunner

inductive Severity where
  | error
  | warning
  | note
  | help
  deriving DecidableEq

namespace Severity

def name : Severity → String
  | .error => "error"
  | .warning => "warning"
  | .note => "note"
  | .help => "help"

def ofName? (text : String) : Option Severity :=
  [.error, .warning, .note, .help].find? fun severity => severity.name == text

/-- The severity of a compiler's level; a level that is not known is an error. -/
def ofLevel (level : String) : Severity :=
  if level == "warning" then .warning
  else if level == "note" || level == "failure-note" then .note
  else if level == "help" then .help
  else .error

end Severity

/-- A place in the snippet, counted from one. -/
structure Location where
  line : Nat
  column : Nat
  deriving DecidableEq

structure Diagnostic where
  severity : Severity
  message : String
  location : Option Location
  deriving DecidableEq

namespace Location

def toJson (location : Location) : String :=
  Json.writeObject [("line", s!"{location.line}"), ("column", s!"{location.column}")]

def ofJson? (value : Json.Value) : Option Location := do
  match ← Json.fields? [⟨"line", .required⟩, ⟨"column", .required⟩] value with
  | [some line, some column] => pure ⟨← Json.natural? line, ← Json.natural? column⟩
  | _ => none

end Location

namespace Diagnostic

def display (diagnostic : Diagnostic) : String :=
  match diagnostic.location with
  | some location => s!"({location.line},{location.column}): {diagnostic.message}"
  | none => diagnostic.message

def toJson (diagnostic : Diagnostic) : String :=
  Json.writeObject
    [ ("severity", Json.writeString diagnostic.severity.name),
      ("message", Json.writeString diagnostic.message),
      ("location", match diagnostic.location with
        | some location => location.toJson
        | none => "null") ]

def readLocation : Option Json.Value → Option (Option Location)
  | none => some none
  | some .null => some none
  | some value => (Location.ofJson? value).map some

def readSeverity (value : Json.Value) : Option Severity :=
  (Json.name? ["error", "warning", "note", "help"] value).bind Severity.ofName?

def ofJson? (value : Json.Value) : Option Diagnostic := do
  let specs := [⟨"severity", .required⟩, ⟨"message", .required⟩, ⟨"location", .optionalByName⟩]
  match ← Json.fields? specs value with
  | [some severity, some message, location] =>
      pure ⟨← readSeverity severity, ← Json.text? message, ← readLocation location⟩
  | _ => none

/-- Reads a diagnostic from JSON text. -/
def read? (text : String) : Option Diagnostic :=
  (Json.read? text.toList).bind ofJson?

end Diagnostic
end SnippetRunner

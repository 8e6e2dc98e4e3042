import SnippetRunner.Diagnostic
import SnippetRunner.Scaffold
import SnippetRunner.Text.Blank
import SnippetRunner.Text.Search

/-!
What a compiler reports: one record a line among other lines. Only errors count; they point to lines of the
snippet and do not show the name of the closure. A compiler that refuses a program without such a record is
quoted as a whole, so there is always something to say.
-/

namespace SnippetRunner.Compile

structure Mark where
  line : Nat
  column : Nat
  primary : Bool
  deriving DecidableEq

structure Report where
  message : String
  level : String
  marks : List Mark
  deriving DecidableEq

section Reading

def markOf? (value : Json.Value) : Option Mark := do
  let specs := [⟨"line_start", .required⟩, ⟨"column_start", .required⟩, ⟨"is_primary", .required⟩]
  match ← Json.fields? specs value with
  | [some line, some column, some primary] =>
      pure ⟨← Json.natural? line, ← Json.natural? column, ← Json.bool? primary⟩
  | _ => none

def marksOf? : Option Json.Value → Option (List Mark)
  | none => some []
  | some (.array items) => items.mapM markOf?
  | some _ => none

def reportOf? (value : Json.Value) : Option Report := do
  let specs := [⟨"message", .required⟩, ⟨"level", .required⟩, ⟨"spans", .optional⟩]
  match ← Json.fields? specs value with
  | [some message, some level, marks] =>
      pure ⟨← Json.text? message, ← Json.text? level, ← marksOf? marks⟩
  | _ => none

/-- The record in a line, if it is one. -/
def Report.read? (line : List Char) : Option Report :=
  match line with
  | '{' :: _ => (Json.read? line).bind reportOf?
  | _ => none

end Reading

section Diagnostics

def summary : String := "aborting due to"

/-- An error, and not the summary of errors that comes last. -/
def Report.counts (report : Report) : Bool :=
  Severity.ofLevel report.level == .error && !summary.toList.isPrefixOf report.message.toList

-- The name of the closure is of no use to whoever wrote the snippet.
def redact (message : String) : String :=
  String.ofList
    (Text.replace Scaffold.closureName.toList Scaffold.closurePlaceholder.toList message.toList)

/-- Where the first primary mark points, if that is in the snippet. -/
def Report.location? (report : Report) (program : Program) : Option Location := do
  let mark ← report.marks.find? Mark.primary
  let line ← program.snippetLine? mark.line
  pure ⟨line, mark.column⟩

def Report.toDiagnostic (report : Report) (program : Program) : Diagnostic :=
  { severity := .error, message := redact report.message, location := report.location? program }

/-- All that was said, when none of it is a record of an error. -/
def wholeReport (stderr : List Char) : Diagnostic :=
  let said := String.ofList (Text.trim stderr)
  { severity := .error
    message := if said.isEmpty then "compilation failed" else redact said
    location := none }

def errors (stderr : List Char) : List Report :=
  ((Text.lines stderr).filterMap Report.read?).filter Report.counts

/-- The diagnostics of a compiler that refused a program; never none. -/
def diagnostics (stderr : List Char) (program : Program) : List Diagnostic :=
  match errors stderr with
  | [] => [wholeReport stderr]
  | found => found.map fun report => report.toDiagnostic program

end Diagnostics
end SnippetRunner.Compile

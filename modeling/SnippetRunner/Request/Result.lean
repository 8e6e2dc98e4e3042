import SnippetRunner.Diagnostic
import SnippetRunner.Number.Shortest
import SnippetRunner.Time.Span

/-!
Results of requests, and the text each of them is shown as. The text is never empty.
-/

namespace SnippetRunner.Request

inductive Result where
  -- a snippet that ran to its end may have no value
  | value (text : Option String)
  | compileError (diagnostics : List Diagnostic)
  | emitEmpty
  | runtimeFault (message : String)
  | timeout (deadline : Span)
  | rejected
  -- what runs snippets has failed itself
  | supervisionFault (message : String)
  deriving DecidableEq

namespace Result

def kind : Result → String
  | .value _ => "value"
  | .compileError _ => "compile_error"
  | .emitEmpty => "emit_empty"
  | .runtimeFault _ => "runtime_fault"
  | .timeout _ => "timeout"
  | .rejected => "rejected"
  | .supervisionFault _ => "supervision_fault"

def isValue : Result → Bool
  | .value _ => true
  | _ => false

def rejectedText : String := "Not supported"
def emitEmptyText : String := "Incorrect data"
def noValueText : String := "null"

-- What a result has to say, if it has.
def said : Result → String
  | .value text => text.getD ""
  | .compileError diagnostics => String.intercalate ", " (diagnostics.map Diagnostic.message)
  | .emitEmpty => emitEmptyText
  | .runtimeFault message => message
  | .timeout deadline => s!"[Execution timed out after {deadline.toSeconds.text} seconds]"
  | .rejected => rejectedText
  | .supervisionFault message => s!"[Execution failed: {message}]"

/-- The text a result is shown as. -/
def text (result : Result) : String :=
  if result.said.isEmpty then noValueText else result.said

end Result
end SnippetRunner.Request

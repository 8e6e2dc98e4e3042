import SnippetRunner.Diagnostic
import SnippetRunner.Host.Fault
import SnippetRunner.Time.Span

/-!
Why there is no executable: the compiler refused the program, made nothing of it, took too long, or could
not be run.
-/

namespace SnippetRunner.Compile

inductive Fault where
  | diagnostics (reports : List Diagnostic)
  | emitEmpty
  | timeout (limit : Span)
  | toolchain (cause : Host.Fault)
  deriving DecidableEq

namespace Fault

def message : Fault → String
  | .diagnostics reports => s!"compilation failed with {reports.length} error(s)"
  | .emitEmpty => "compiler reported success but produced an empty executable"
  | .timeout limit => s!"compilation timed out after {limit.text}"
  | .toolchain cause => s!"failed to run compiler: {cause.text}"

/-- The fault behind a fault. -/
def cause? : Fault → Option String
  | .toolchain cause => some cause.text
  | _ => none

end Fault
end SnippetRunner.Compile

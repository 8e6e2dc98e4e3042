import SnippetRunner.Box.Fault

/-!
Faults of contexts, the places programs are loaded into and run in.
-/

namespace SnippetRunner.Context

inductive Fault where
  | create (reason : String)
  | destroyed
  | notLoaded
  | spawn (cause : Host.Fault)
  | teardown (reason : String)
  | host (cause : Host.Fault)
  | box (fault : Box.Fault)
  deriving DecidableEq

namespace Fault

def message : Fault → String
  | .create reason => s!"failed to create isolation context: {reason}"
  | .destroyed => "isolation context has been destroyed"
  | .notLoaded => "no artifact has been loaded"
  | .spawn cause => s!"failed to start program: {cause.text}"
  | .teardown reason => s!"failed to tear down isolation context: {reason}"
  | .host cause => s!"I/O error: {cause.text}"
  | .box fault => s!"isolate error: {fault.message}"

/-- The fault behind a fault. -/
def cause? : Fault → Option String
  | .spawn cause => some cause.text
  | .host cause => some cause.text
  | .box fault => some fault.message
  | _ => none

end Fault
end SnippetRunner.Context

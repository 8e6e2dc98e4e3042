import SnippetRunner.Host.Fault

/-!
Faults of boxes: what the box keeper refused, and what could not be asked of it.
-/

namespace SnippetRunner.Box

inductive Fault where
  | setup (id : Nat) (reason : String)
  | cleanup (id : Nat) (reason : String)
  | command (reason : String)
  | spawn (cause : Host.Fault)
  | account (reason : String)
  | host (cause : Host.Fault)
  | path (reason : String)
  | noSource (source : String)
  deriving DecidableEq

namespace Fault

def message : Fault → String
  | .setup id reason => s!"failed to initialize box {id}: {reason}"
  | .cleanup id reason => s!"failed to cleanup box {id}: {reason}"
  | .command reason => s!"isolate command failed: {reason}"
  | .spawn cause => s!"failed to spawn isolate process: {cause.text}"
  | .account reason => s!"failed to parse meta file: {reason}"
  | .host cause => s!"I/O error: {cause.text}"
  | .path reason => s!"invalid path: {reason}"
  | .noSource source => s!"mount source path does not exist: {source}"

/-- The fault behind a fault. -/
def cause? : Fault → Option String
  | .spawn cause => some cause.text
  | .host cause => some cause.text
  | _ => none

end Fault
end SnippetRunner.Box

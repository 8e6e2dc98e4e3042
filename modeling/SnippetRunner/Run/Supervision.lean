import SnippetRunner.Context.Handle
import SnippetRunner.Time.Span

/-!
Supervised runs. A worker loads and runs an image while the supervisor waits for its report, at most until
the deadline. The first event decides, whatever comes later; then the context is destroyed, with a second
try if the first fails.
-/

namespace SnippetRunner.Run.Supervision
open Context (Fault Handle Reply)

section Events

inductive Event where
  -- there was no thread for a worker, or none for its events
  | noWorker (cause : Host.Fault)
  | noRuntime (cause : Host.Fault)
  | reported (outcome : Outcome)
  -- the worker ended without a report
  | died
  | deadline
  deriving DecidableEq

inductive Verdict where
  | completed (outcome : Outcome)
  | timedOut
  | faulted (message : String)
  deriving DecidableEq

def Event.verdict : Event → Verdict
  | .noWorker cause => .faulted s!"failed to start worker: {cause.text}"
  | .noRuntime cause => .faulted s!"failed to start worker runtime: {cause.text}"
  | .reported outcome => .completed outcome
  | .died => .faulted "worker exited without reporting"
  | .deadline => .timedOut

/-- The verdict on events in their order; the deadline comes if nothing else does. -/
def verdict : List Event → Verdict
  | [] => .timedOut
  | first :: _ => first.verdict

def Verdict.state : Verdict → String
  | .completed _ => "completed"
  | .timedOut => "timed_out"
  | .faulted _ => "faulted"

end Events

section Runs
variable {σ : Type}

/-- What a run meets: whether its worker can be started, and whether the deadline comes before the report. -/
structure Conditions where
  worker : Except Host.Fault Unit
  runtime : Except Host.Fault Unit
  late : Bool

def ordinary : Conditions :=
  { worker := .ok (), runtime := .ok (), late := false }

/-- The events a worker causes. -/
def work (conditions : Conditions) (handle : Handle σ) (image : Bytes) (state : σ) :
    List Event × σ :=
  match conditions.worker, conditions.runtime with
  | .error cause, _ => ([.noWorker cause], state)
  | .ok (), .error cause => ([.noRuntime cause], state)
  | .ok (), .ok () =>
      match handle.loadAndRun image state with
      | (.ok outcome, state) => ([.reported outcome], state)
      | (.error .panicked, state) => ([.died], state)
      | (.error _, state) => ([], state)

/-- The worker's events and the deadline; a supervisor without a worker does not wait for either. -/
def events (conditions : Conditions) (caused : List Event) : List Event :=
  if conditions.late && conditions.worker matches .ok () then .deadline :: caused
  else caused ++ [.deadline]

/-- Destroys the context; a second failure is left at that. -/
def teardown (handle : Handle σ) (state : σ) : σ :=
  match handle.destroy state with
  | (.ok (), state) => state
  | (.error _, state) => (handle.destroy state).2

/-- Runs an image in a context and destroys the context. -/
def run (conditions : Conditions) (handle : Handle σ) (image : Bytes) (state : σ) : Verdict × σ :=
  let (caused, state) := work conditions handle image state
  (verdict (events conditions caused), teardown handle state)

end Runs
end SnippetRunner.Run.Supervision

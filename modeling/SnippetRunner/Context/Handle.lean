import SnippetRunner.Context.Fault
import SnippetRunner.Run.Outcome

/-!
Contexts as their users see them: an image is loaded, run, and the context is destroyed. Every kind of context
has such a handle, over a state that the context is part of.
-/

namespace SnippetRunner.Context

/-- What becomes of an invocation. -/
inductive Reply where
  | answered (answer : Except Fault Run.Invocation)
  -- the invocation broke off and answers nothing
  | panicked
  -- the program runs until it is stopped
  | running

structure Handle (σ : Type) where
  load : Bytes → σ → Except Fault Unit × σ
  invoke : σ → Reply × σ
  -- waits again for a program that was still running
  await : σ → Reply × σ
  destroy : σ → Except Fault Unit × σ

/-- What an invocation that answers comes to. -/
def outcomeOf : Except Fault Run.Invocation → Run.Outcome
  | .ok invocation => .ofInvocation invocation
  | .error fault => .fault fault.message

namespace Handle
variable {σ : Type}

/-- Loads an image and runs it; nothing comes of it if the program does not end or the invocation breaks off. -/
def loadAndRun (handle : Handle σ) (image : Bytes) (state : σ) :
    Except Reply Run.Outcome × σ :=
  match handle.load image state with
  | (.error fault, state) => (.ok (.fault fault.message), state)
  | (.ok (), state) =>
      match handle.invoke state with
      | (.answered answer, state) => (.ok (outcomeOf answer), state)
      | (reply, state) => (.error reply, state)

end Handle
end SnippetRunner.Context

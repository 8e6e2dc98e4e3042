/-!
Systems that take one step after the other, where a step may be impossible.
-/

namespace SnippetRunner

/-- A run takes its steps in their order, as long as they can be taken. -/
structure Stepwise {σ α : Type} (step? : σ → α → Option σ) (run? : σ → List α → Option σ) : Prop where
  nil (state : σ) : run? state [] = some state
  cons (state : σ) (act : α) (rest : List α) :
    run? state (act :: rest) = (step? state act).bind fun next => run? next rest

namespace Stepwise
variable {σ α : Type} {step? : σ → α → Option σ} {run? : σ → List α → Option σ} {before after : σ}

/-- What every step keeps, a run keeps. -/
theorem preserves (stepwise : Stepwise step? run?) (kept : σ → Prop)
    (step : ∀ act before after, kept before → step? before act = some after → kept after)
    (acts : List α) (begun : kept before) (ran : run? before acts = some after) : kept after := by
  induction acts generalizing before with
  | nil =>
      cases (stepwise.nil before).symm.trans ran
      exact begun
  | cons act rest ih =>
      rw [stepwise.cons] at ran
      obtain ⟨next, taken, later⟩ := Option.bind_eq_some_iff.mp ran
      exact ih (step act before next begun taken) later

theorem append (stepwise : Stepwise step? run?) (first rest : List α) :
    run? before (first ++ rest) = (run? before first).bind fun middle => run? middle rest := by
  induction first generalizing before with
  | nil => rw [List.nil_append, stepwise.nil, Option.bind_some]
  | cons act acts ih =>
      rw [List.cons_append, stepwise.cons, stepwise.cons, Option.bind_assoc]
      exact congrArg _ (funext fun next => ih)

end Stepwise
end SnippetRunner

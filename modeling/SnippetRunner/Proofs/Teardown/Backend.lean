import SnippetRunner.Context.Supply
import SnippetRunner.Proofs.Teardown.Keeper

/-!
What the two kinds of contexts have in common. A backend names the steps a context goes through in its life,
one for each moment at which others can see it; making, loading and destroying a context are these steps in
their order.
-/

namespace SnippetRunner.Context
open Files (Tree Path.join)
open Run (Slot)

/-- How a context stands, whatever it is besides. -/
structure Standing where
  slot : Slot
  loaded : Bool
  destroyed : Bool
  -- whether its factory counts it as live
  counted : Bool
  deriving DecidableEq

namespace Standing

def fresh : Standing :=
  { slot := .empty, loaded := false, destroyed := false, counted := true }

def stopped (standing : Standing) : Standing :=
  { standing with slot := standing.slot.terminate }

def forgone (standing : Standing) : Standing :=
  { standing.stopped with counted := false }

end Standing

/-- What a step finds when it is taken. -/
structure World where
  machine : Host.Machine
  files : Tree

/-- Contexts κ of factories φ. -/
structure Backend (φ κ : Type) where
  standing : κ → Standing
  -- the same context, standing otherwise
  restand : κ → Standing → κ
  -- a context has its number before it is made
  reserve : φ → Tree → Option (Nat × φ)
  make : Host.Machine → φ → Nat → Tree → Except Fault κ × φ × Tree
  store : κ → Bytes → Tree → Except Fault Unit × Tree
  prepare : κ → Tree → Except Fault (Host.Launch × Tree)
  -- takes away what the context is made of
  remove : Host.Machine → κ → Tree → Except Fault Unit × κ × Tree
  -- gives back what is left of its reservation
  handBack : κ → κ
  forgone : κ → κ
  -- the factory after a context has changed
  release : φ → κ → κ → φ
  live : φ → Nat
  standing_restand (context : κ) (other : Standing) : standing (restand context other) = other
  restand_standing (context : κ) : restand context (standing context) = context
  restand_restand (context : κ) (first second : Standing) :
    restand (restand context first) second = restand context second
  standing_remove (machine : Host.Machine) (context : κ) (files : Tree) :
    standing (remove machine context files).2.1 = standing context
  -- only a start can find a program busy
  prepare_spawns (context : κ) (files : Tree) (cause : Host.Fault) :
    prepare context files ≠ .error (.spawn cause)
  remove_failed (machine : Host.Machine) (context : κ) (files : Tree) (fault : Fault)
    (failed : (remove machine context files).1 = .error fault) :
    (remove machine context files).2.1 = context
  standing_handBack (context : κ) : standing (handBack context) = standing context
  standing_forgone (context : κ) : standing (forgone context) = (standing context).forgone
  live_reserve (factory after : φ) (files : Tree) (number : Nat)
    (reserved : reserve factory files = some (number, after)) : live after = live factory
  live_refused (machine : Host.Machine) (factory : φ) (number : Nat) (files : Tree) (fault : Fault)
    (refused : (make machine factory number files).1 = .error fault) :
    live (make machine factory number files).2.1 = live factory
  live_made (machine : Host.Machine) (factory : φ) (number : Nat) (files : Tree) (context : κ)
    (made : (make machine factory number files).1 = .ok context) :
    live (make machine factory number files).2.1 = live factory + 1 ∧ standing context = .fresh
  live_release (factory : φ) (before after : κ) :
    live (release factory before after) =
      if (standing before).counted && !(standing after).counted then live factory - 1
      else live factory
  release_restand (factory : φ) (context : κ) (other : Standing)
    (same : other.counted = (standing context).counted) :
    release factory context (restand context other) = factory
  release_remove (machine : Host.Machine) (factory : φ) (context : κ) (files : Tree) :
    release factory context (remove machine context files).2.1 = factory

namespace Backend

section Kinds

theorem ofHost_spawns {α : Type} (answer : Except Host.Fault α) (cause : Host.Fault) :
    ofHost answer ≠ .error (.spawn cause) := by
  intro same
  cases answer with
  | ok value => cases (same : Except.ok value = _)
  | error fault => cases (same : Except.error (Fault.host fault) = _)

theorem inBox_spawns {α : Type} (answer : Except Box.Fault α) (cause : Host.Fault) :
    Boxed.inBox answer ≠ .error (.spawn cause) := by
  intro same
  cases answer with
  | ok value => cases (same : Except.ok value = _)
  | error fault => cases (same : Except.error (Fault.box fault) = _)

def directories : Backend Directory.Factory Directory where
  standing context := ⟨context.slot, context.loaded, context.destroyed, context.counted⟩
  restand context other :=
    { context with slot := other.slot, loaded := other.loaded, destroyed := other.destroyed
                   counted := other.counted }
  reserve factory _ := some factory.takeId
  make _ factory id files := factory.make id files
  store := Directory.store
  prepare := Directory.prepare
  remove _ context files := ((context.remove files).1, context, (context.remove files).2)
  handBack context := context
  forgone := Directory.forgone
  release := Directory.Factory.release
  live factory := factory.live
  standing_restand _ _ := rfl
  restand_standing _ := rfl
  restand_restand _ _ _ := rfl
  standing_remove _ _ _ := rfl
  prepare_spawns context files cause := by
    unfold Directory.prepare
    cases opened : ofHost (files.write (Path.join context.path stderrName) []) with
    | ok files => nofun
    | error fault =>
        intro same
        cases same
        exact ofHost_spawns _ cause opened
  remove_failed _ _ _ _ _ := rfl
  standing_handBack _ := rfl
  standing_forgone _ := rfl
  live_reserve factory after _ number reserved := by
    cases reserved
    rfl
  live_refused _ factory number files fault refused := by
    unfold Directory.Factory.make at refused ⊢
    split at refused <;> simp_all
  live_made _ factory number files context made := by
    unfold Directory.Factory.make at made ⊢
    split at made
    · cases made
    · cases made
      exact ⟨rfl, rfl⟩
  live_release factory before after := by
    simp only [Directory.Factory.release]
    split <;> rfl
  release_restand factory context other same := by
    simp [Directory.Factory.release, same]
  release_remove _ factory context files := by
    simp [Directory.Factory.release]

/-- What a box context was waiting for, if it got it. -/
def reservedBox? : Boxed.Reservation → Option (Nat × Boxed.Factory)
  | .reserved id factory => some (id, factory)
  | _ => none

theorem box_remove_keeps (machine : Host.Machine) (context : Boxed) (files : Tree) :
    (context.remove machine files).2.1 = { context with box := (context.box.cleanup machine files).2.1 } := by
  unfold Boxed.remove
  split <;> simp_all

theorem box_remove_answer (machine : Host.Machine) (context : Boxed) (files : Tree) :
    (context.remove machine files).1 =
      (context.box.cleanup machine files).1.mapError fun fault => .teardown fault.message := by
  unfold Boxed.remove
  rcases context.box.cleanup machine files with ⟨_ | _, box, after⟩ <;> rfl

def boxes : Backend Boxed.Factory Boxed where
  standing context := ⟨context.slot, context.loaded, context.destroyed, context.counted⟩
  restand context other :=
    { context with slot := other.slot, loaded := other.loaded, destroyed := other.destroyed
                   counted := other.counted }
  reserve factory files := reservedBox? (factory.reserve files)
  make := Boxed.Factory.make
  store context image files :=
    match context.store image files with
    | .ok stored => (.ok (), stored)
    | .error fault => (.error fault, files)
  prepare := Boxed.prepare
  remove := Boxed.remove
  handBack context := { context with lease := none }
  forgone := Boxed.forgone
  release := Boxed.Factory.release
  live factory := factory.live
  standing_restand _ _ := rfl
  restand_standing _ := rfl
  restand_restand _ _ _ := rfl
  standing_remove machine context files := by rw [box_remove_keeps]
  prepare_spawns context files cause := by
    unfold Boxed.prepare
    cases built : Boxed.inBox context.command with
    | error fault =>
        intro same
        cases same
        exact inBox_spawns _ cause built
    | ok command =>
        cases opened : ofHost (files.write context.logPath []) with
        | ok files => simp [bind, Except.bind]
        | error fault =>
            intro same
            simp only [bind, Except.bind] at same
            cases same
            exact ofHost_spawns _ cause opened
  remove_failed machine context files fault failed := by
    rw [box_remove_keeps]
    rw [box_remove_answer] at failed
    cases cleaned : (context.box.cleanup machine files).1 with
    | ok _ =>
        rw [cleaned] at failed
        cases failed
    | error cause => rw [Box.cleanup_failed machine context.box files cause cleaned]
  standing_handBack _ := rfl
  standing_forgone _ := rfl
  live_reserve factory after files number reserved := by
    unfold Boxed.Factory.reserve at reserved
    split at reserved
    · cases reserved
    · split at reserved
      · cases reserved
      · cases reserved
      · cases reserved
        rfl
  live_refused machine factory number files fault refused := by
    unfold Boxed.Factory.make at refused ⊢
    split at refused
    · rfl
    · cases refused
  live_made machine factory number files context made := by
    unfold Boxed.Factory.make at made ⊢
    split at made
    · cases made
    · cases made
      exact ⟨rfl, rfl⟩
  live_release factory before after := by
    unfold Boxed.Factory.release
    cases before.lease <;> cases after.lease <;> cases after.destroyed <;> rfl
  release_restand factory context other same := by
    unfold Boxed.Factory.release
    cases context.lease <;> simp [same]
  release_remove machine factory context files := by
    rw [box_remove_keeps]
    unfold Boxed.Factory.release
    cases context.lease <;> simp

end Kinds

section Whole
variable {φ κ : Type} (backend : Backend φ κ)

def setSlot (context : κ) (slot : Slot) : κ :=
  backend.restand context { backend.standing context with slot }

def stop (context : κ) : κ :=
  backend.restand context (backend.standing context).stopped

def mark (context : κ) : κ :=
  backend.restand context { backend.standing context with loaded := true }

def close (context : κ) : κ :=
  backend.restand context { backend.standing context with destroyed := true }

def uncount (context : κ) : κ :=
  backend.restand context { backend.standing context with counted := false }

attribute [simp] standing_restand standing_handBack standing_forgone standing_remove

@[simp] theorem standing_setSlot (context : κ) (slot : Slot) :
    backend.standing (backend.setSlot context slot) = { backend.standing context with slot } :=
  backend.standing_restand _ _

@[simp] theorem standing_stop (context : κ) :
    backend.standing (backend.stop context) = (backend.standing context).stopped :=
  backend.standing_restand _ _

@[simp] theorem standing_mark (context : κ) :
    backend.standing (backend.mark context) = { backend.standing context with loaded := true } :=
  backend.standing_restand _ _

@[simp] theorem standing_close (context : κ) :
    backend.standing (backend.close context) = { backend.standing context with destroyed := true } :=
  backend.standing_restand _ _

@[simp] theorem standing_uncount (context : κ) :
    backend.standing (backend.uncount context) = { backend.standing context with counted := false } :=
  backend.standing_restand _ _

/-- A context that is as it was made but for its standing stays so. -/
theorem restand_of_same {made context : κ} (same : context = backend.restand made (backend.standing context))
    (other : Standing) :
    backend.restand context other = backend.restand made (backend.standing (backend.restand context other)) :=
  calc backend.restand context other
    _ = backend.restand (backend.restand made (backend.standing context)) other := by rw [← same]
    _ = backend.restand made other := backend.restand_restand _ _ _
    _ = backend.restand made (backend.standing (backend.restand context other)) := by
        rw [backend.standing_restand]

def load (context : κ) (image : Bytes) (files : Tree) : Except Fault Unit × κ × Tree :=
  if (backend.standing context).destroyed then (.error .destroyed, context, files)
  else
    match backend.store context image files with
    | (.error fault, files) => (.error fault, context, files)
    | (.ok (), files) => (.ok (), backend.mark context, files)

def destroy (machine : Host.Machine) (context : κ) (files : Tree) :
    Except Fault Unit × κ × Tree :=
  if (backend.standing context).destroyed then (.ok (), context, files)
  else
    match backend.remove machine (backend.stop context) files with
    | (.error fault, context, files) => (.error fault, context, files)
    | (.ok (), context, files) =>
        (.ok (), backend.uncount (backend.handBack (backend.close context)), files)

end Whole

-- The whole calls of the two kinds are made of these steps.
theorem directories_load (context : Directory) (image : Bytes) (files : Tree) :
    directories.load context image files = context.load image files := rfl

theorem boxes_load (context : Boxed) (image : Bytes) (files : Tree) :
    boxes.load context image files = context.load image files := by
  unfold load Boxed.load
  cases stored : context.store image files <;> simp [boxes, stored, mark]

theorem directories_destroy (machine : Host.Machine) (context : Directory) (files : Tree) :
    directories.destroy machine context files = context.destroy files := by
  unfold destroy Directory.destroy
  rcases removed : Directory.remove { context with slot := context.slot.terminate } files with ⟨answer, after⟩
  have step : directories.remove machine (directories.stop context) files =
      (answer, { context with slot := context.slot.terminate }, after) :=
    congrArg (fun found => (found.1, { context with slot := context.slot.terminate }, found.2)) removed
  simp only [step, removed]
  cases answer <;> rfl

theorem boxes_destroy (machine : Host.Machine) (context : Boxed) (files : Tree) :
    boxes.destroy machine context files = context.destroy machine files := by
  unfold destroy Boxed.destroy
  rcases removed : Boxed.remove machine { context with slot := context.slot.terminate } files with
    ⟨answer, left, after⟩
  have step : boxes.remove machine (boxes.stop context) files = (answer, left, after) := removed
  simp only [step, removed]
  cases answer <;> rfl

end Backend
end SnippetRunner.Context

import SnippetRunner.Proofs.Teardown.Backend

/-!
What users of a supply can rely on, whatever its contexts are. A guest that comes back to what it left finds
itself as it was; and the number of live contexts is that of the guests that were made and are still counted,
which they are no more once a call of destroy has succeeded.
-/

namespace SnippetRunner.Context
open Files (Tree)

namespace Supply
variable {φ φ' σ σ' : Type}

/-- A guest carries what is around it, and nothing that is not. -/
structure Coherent (supply : Supply φ σ) : Prop where
  outside_made (factory : φ) (files : Tree) (guest : σ) (after : φ × Tree)
    (made : supply.create factory files = (.made guest, after)) : supply.outside guest = after
  enter_outside (guest : σ) : supply.enter (supply.outside guest).1 (supply.outside guest).2 guest = guest

/-- The number of live contexts counts the guests that were made and have not been let go of. -/
structure Counting (supply : Supply φ σ) where
  -- a guest is one of contexts of this factory
  fits : φ → σ → Prop
  counted : σ → Bool

namespace Counting
variable {supply : Supply φ σ}

/-- A change to one guest changes the count by that guest, and does not concern the others. -/
structure Steady (counting : Counting supply) (factory : φ) (guest : σ) (after : φ) (later : σ) : Prop where
  fits : counting.fits after later
  others (other : σ) : counting.fits factory other → counting.fits after other
  lasting : counting.counted later = true → counting.counted guest = true
  live : supply.live after =
    if counting.counted guest && !counting.counted later then supply.live factory - 1 else supply.live factory

/-- A call keeps the count. -/
def Keeps {α : Type} (counting : Counting supply) (call : σ → α × σ) : Prop :=
  ∀ factory files guest, counting.fits factory guest →
    let later := (call (supply.enter factory files guest)).2
    counting.Steady factory guest (supply.outside later).1 later

/-- The laws of the count. -/
structure Lawful (counting : Counting supply) : Prop where
  made (factory : φ) (files : Tree) (guest : σ) (after : φ × Tree) :
    supply.create factory files = (.made guest, after) →
      supply.live after.1 = supply.live factory + 1 ∧ counting.counted guest = true ∧ counting.fits after.1 guest ∧
        ∀ other, counting.fits factory other → counting.fits after.1 other
  refused (factory : φ) (files : Tree) (fault : Fault) (after : φ × Tree) :
    supply.create factory files = (.refused fault, after) →
      supply.live after.1 = supply.live factory ∧ ∀ other, counting.fits factory other → counting.fits after.1 other
  load (image : Bytes) : counting.Keeps (supply.handle.load image)
  invoke : counting.Keeps supply.handle.invoke
  await : counting.Keeps supply.handle.await
  destroy : counting.Keeps supply.handle.destroy
  destroyed (factory : φ) (files : Tree) (guest : σ) : counting.fits factory guest →
    (supply.handle.destroy (supply.enter factory files guest)).1 = .ok () →
    counting.counted (supply.handle.destroy (supply.enter factory files guest)).2 = false
  leave (factory : φ) (files : Tree) (guest : σ) : counting.fits factory guest →
    let after := (supply.leave (supply.enter factory files guest)).1
    supply.live after = (if counting.counted guest then supply.live factory - 1 else supply.live factory) ∧
      ∀ other, counting.fits factory other → counting.fits after other

end Counting

section Standing

/-- What a call leaves of how a context stands: it is as it was, or destroyed and not counted any more. -/
inductive Settled (destroyed counted : Bool) : Bool → Bool → Prop where
  | same : Settled destroyed counted destroyed counted
  | gone : Settled destroyed counted true false

section Settled
variable {destroyed counted destroyed' counted' : Bool} (settled : Settled destroyed counted destroyed' counted')
include settled

theorem Settled.lasting : counted' = true → counted = true := by
  cases settled with
  | same => exact id
  | gone => nofun

theorem Settled.sane (sane : destroyed = true → counted = false) : destroyed' = true → counted' = false := by
  cases settled with
  | same => exact sane
  | gone => exact fun _ => rfl

end Settled

/-- A new context is there and counted. -/
structure Begun (live after : Nat) (destroyed counted : Bool) : Prop where
  more : after = live + 1
  there : destroyed = false
  counted : counted = true

theorem Begun.sane {live after : Nat} {destroyed counted : Bool} (begun : Begun live after destroyed counted)
    (gone : destroyed = true) : counted = false :=
  absurd (begun.there.symm.trans gone) nofun

end Standing

section Directories
variable (machine : Host.Machine)

theorem directory_load (context : Directory) (image : Bytes) (files : Tree) :
    let later := (context.load image files).2.1
    Settled context.destroyed context.counted later.destroyed later.counted := by
  unfold Directory.load
  split
  · exact .same
  · split <;> exact .same

theorem directory_await (context : Directory) (files : Tree) :
    let later := (context.await files).2
    Settled context.destroyed context.counted later.destroyed later.counted := by
  unfold Directory.await
  split
  · exact .same
  · exact .same
  · dsimp only
    split <;> exact .same

theorem directory_invoke (context : Directory) (files : Tree) :
    let later := (context.invoke machine files).2.1
    Settled context.destroyed context.counted later.destroyed later.counted := by
  unfold Directory.invoke
  split
  · exact .same
  · split
    · exact .same
    · next slot effect _ _ => exact directory_await { context with slot } _

theorem directory_destroy (context : Directory) (files : Tree) :
    let later := (context.destroy files).2.1
    Settled context.destroyed context.counted later.destroyed later.counted := by
  unfold Directory.destroy
  split
  · exact .same
  · dsimp only
    split
    · exact .same
    · exact .gone

theorem directory_destroyed (context : Directory) (files : Tree)
    (sane : context.destroyed = true → context.counted = false) (done : (context.destroy files).1 = .ok ()) :
    (context.destroy files).2.1.counted = false := by
  unfold Directory.destroy at done ⊢
  split at done
  · next gone =>
      rw [if_pos gone]
      exact sane gone
  · next there =>
      rw [if_neg there]
      dsimp only at done ⊢
      split at done
      · cases done
      · rfl

/-- A directory is counted until it is destroyed or let go of. -/
def countDirectories : Counting (directories machine) where
  fits _ guest := guest.context.destroyed = true → guest.context.counted = false
  counted guest := guest.context.counted

theorem directory_steady (factory : Directory.Factory) (files after : Tree) (guest : Directory.Guest)
    (later : Directory) (settled : Settled guest.context.destroyed guest.context.counted later.destroyed later.counted)
    (sane : guest.context.destroyed = true → guest.context.counted = false) :
    let updated := Directory.Guest.update { guest with factory, files } later after
    (countDirectories machine).Steady factory guest updated.factory updated where
  fits := settled.sane sane
  others _ fits := fits
  lasting := settled.lasting
  live := Backend.directories.live_release _ _ _

theorem directory_created (factory after : Directory.Factory) (files later : Tree) (answer : Except Fault Directory)
    (created : factory.create files = (answer, after, later)) :
    (∀ context, answer = .ok context → Begun factory.live after.live context.destroyed context.counted) ∧
      ∀ fault, answer = .error fault → after.live = factory.live := by
  unfold Directory.Factory.create Directory.Factory.make at created
  dsimp only at created
  split at created
  · cases created
    exact ⟨fun _ other => (by cases other), fun _ _ => rfl⟩
  · cases created
    refine ⟨fun context same => ?_, fun _ other => (by cases other)⟩
    cases same
    exact ⟨rfl, rfl, rfl⟩

theorem countDirectories_lawful : (countDirectories machine).Lawful where
  made factory files guest after made := by
    simp only [directories] at made
    split at made
    · next context factory' files' created =>
        cases made
        have begun := (directory_created _ _ _ _ _ created).1 context rfl
        exact ⟨begun.more, begun.counted, begun.sane, fun _ fits => fits⟩
    · cases made
  refused factory files fault after refused := by
    simp only [directories] at refused
    split at refused
    · cases refused
    · next created =>
        cases refused
        exact ⟨(directory_created _ _ _ _ _ created).2 fault rfl, fun _ fits => fits⟩
  load image factory files guest :=
    directory_steady machine factory files _ guest _ (directory_load guest.context image files)
  invoke factory files guest :=
    directory_steady machine factory files _ guest _ (directory_invoke machine guest.context files)
  await factory files guest := directory_steady machine factory files _ guest _ (directory_await guest.context files)
  destroy factory files guest :=
    directory_steady machine factory files _ guest _ (directory_destroy guest.context files)
  destroyed factory files guest := directory_destroyed guest.context files
  leave factory files guest _ := by
    refine ⟨(Backend.directories.live_release factory guest.context guest.context.forgone).trans ?_, fun _ fits => fits⟩
    cases counted : guest.context.counted <;>
      simp [Backend.directories, Directory.forgone, countDirectories, directories, counted]

end Directories

section Boxes
variable (machine : Host.Machine)

theorem box_load (context : Boxed) (image : Bytes) (files : Tree) :
    let later := (context.load image files).2.1
    Settled context.destroyed context.counted later.destroyed later.counted := by
  unfold Boxed.load
  split
  · exact .same
  · split <;> exact .same

theorem box_await (context : Boxed) (files : Tree) :
    let later := (context.await files).2
    Settled context.destroyed context.counted later.destroyed later.counted := by
  unfold Boxed.await
  split <;> exact .same

theorem box_invoke (context : Boxed) (files : Tree) :
    let later := (context.invoke machine files).2.1
    Settled context.destroyed context.counted later.destroyed later.counted := by
  unfold Boxed.invoke
  split
  · exact .same
  · split
    · exact .same
    · next slot effect _ _ => exact box_await { context with slot } _

theorem box_destroy (context : Boxed) (files : Tree) :
    let later := (context.destroy machine files).2.1
    Settled context.destroyed context.counted later.destroyed later.counted := by
  unfold Boxed.destroy
  split
  · exact .same
  · dsimp only
    split
    · next removed =>
        have kept := congrArg (·.2.1) removed
        rw [Backend.box_remove_keeps] at kept
        subst kept
        exact .same
    · exact .gone

theorem box_destroyed (context : Boxed) (files : Tree) (sane : context.destroyed = true → context.counted = false)
    (done : (context.destroy machine files).1 = .ok ()) : (context.destroy machine files).2.1.counted = false := by
  unfold Boxed.destroy at done ⊢
  split at done
  · next gone =>
      rw [if_pos gone]
      exact sane gone
  · next there =>
      rw [if_neg there]
      dsimp only at done ⊢
      split at done
      · cases done
      · rfl

/-- A box is counted until it is destroyed or let go of. -/
def countBoxes : Counting (boxes machine) where
  fits _ guest := guest.context.destroyed = true → guest.context.counted = false
  counted guest := guest.context.counted

theorem box_steady (factory : Boxed.Factory) (files after : Tree) (guest : Boxed.Guest) (later : Boxed)
    (settled : Settled guest.context.destroyed guest.context.counted later.destroyed later.counted)
    (sane : guest.context.destroyed = true → guest.context.counted = false) :
    let updated := Boxed.Guest.update { guest with factory, files } later after
    (countBoxes machine).Steady factory guest updated.factory updated where
  fits := settled.sane sane
  others _ fits := fits
  lasting := settled.lasting
  live := Backend.boxes.live_release _ _ _

theorem box_made (factory after : Boxed.Factory) (id : Nat) (files later : Tree) (answer : Except Fault Boxed)
    (made : factory.make machine id files = (answer, after, later)) :
    (∀ context, answer = .ok context → Begun factory.live after.live context.destroyed context.counted) ∧
      ∀ fault, answer = .error fault → after.live = factory.live := by
  unfold Boxed.Factory.make at made
  split at made
  · cases made
    exact ⟨fun _ other => (by cases other), fun _ _ => rfl⟩
  · cases made
    refine ⟨fun context same => ?_, fun _ other => (by cases other)⟩
    cases same
    exact ⟨rfl, rfl, rfl⟩

theorem box_created (factory after : Boxed.Factory) (files later : Tree) (answer : Boxed.Creation)
    (created : factory.create machine files = (answer, after, later)) :
    (∀ context, answer = .made context → Begun factory.live after.live context.destroyed context.counted) ∧
      ∀ fault, answer = .refused fault → after.live = factory.live := by
  unfold Boxed.Factory.create at created
  split at created
  · cases created
    exact ⟨fun _ other => (by cases other), fun _ other => (by cases other)⟩
  · cases created
    exact ⟨fun _ other => (by cases other), fun _ _ => rfl⟩
  · next id reserved found =>
      have live : reserved.live = factory.live :=
        Backend.boxes.live_reserve factory reserved files id (by simp [Backend.boxes, found, Backend.reservedBox?])
      split at created
      · next fault _ _ made =>
          have same := (box_made machine _ _ _ _ _ _ made).2 fault rfl
          cases created
          exact ⟨fun _ other => (by cases other), fun _ _ => same.trans live⟩
      · next context _ _ made =>
          have begun := (box_made machine _ _ _ _ _ _ made).1 context rfl
          cases created
          refine ⟨fun _ same => ?_, fun _ other => (by cases other)⟩
          cases same
          exact ⟨begun.more.trans (congrArg (· + 1) live), begun.there, begun.counted⟩

theorem countBoxes_lawful : (countBoxes machine).Lawful where
  made factory files guest after made := by
    simp only [boxes] at made
    split at made
    · next context factory' files' created =>
        cases made
        have begun := (box_created machine _ _ _ _ _ created).1 context rfl
        exact ⟨begun.more, begun.counted, begun.sane, fun _ fits => fits⟩
    · cases made
    · cases made
  refused factory files fault after refused := by
    simp only [boxes] at refused
    split at refused
    · cases refused
    · next created =>
        cases refused
        exact ⟨(box_created machine _ _ _ _ _ created).2 fault rfl, fun _ fits => fits⟩
    · cases refused
  load image factory files guest := box_steady machine factory files _ guest _ (box_load guest.context image files)
  invoke factory files guest := box_steady machine factory files _ guest _ (box_invoke machine guest.context files)
  await factory files guest := box_steady machine factory files _ guest _ (box_await guest.context files)
  destroy factory files guest := box_steady machine factory files _ guest _ (box_destroy machine guest.context files)
  destroyed factory files guest := box_destroyed machine guest.context files
  leave factory files guest _ := by
    refine ⟨(Backend.boxes.live_release factory guest.context guest.context.forgone).trans ?_, fun _ fits => fits⟩
    cases counted : guest.context.counted <;> simp [Backend.boxes, Boxed.forgone, countBoxes, boxes, counted]

end Boxes

section Either
variable {first : Supply φ σ} {second : Supply φ' σ'}

/-- Either kind of guest is counted as it is counted by its own supply. -/
def Counting.either (counting : Counting first) (other : Counting second) : Counting (first.either second) where
  fits factory guest :=
    match factory, guest with
    | .inl factory, .inl guest => counting.fits factory guest
    | .inr factory, .inr guest => other.fits factory guest
    | _, _ => False
  counted guest := guest.elim counting.counted other.counted

variable {counting : Counting first} {other : Counting second}

-- What is so for all guests of a supply is so for those of either.
theorem Counting.others_inl {factory after : φ}
    (others : ∀ guest, counting.fits factory guest → counting.fits after guest) (guest : σ ⊕ σ')
    (fits : (counting.either other).fits (.inl factory) guest) : (counting.either other).fits (.inl after) guest := by
  cases guest with
  | inl guest => exact others guest fits
  | inr guest => exact fits.elim

theorem Counting.others_inr {factory after : φ'}
    (others : ∀ guest, other.fits factory guest → other.fits after guest) (guest : σ ⊕ σ')
    (fits : (counting.either other).fits (.inr factory) guest) : (counting.either other).fits (.inr after) guest := by
  cases guest with
  | inl guest => exact fits.elim
  | inr guest => exact others guest fits

theorem Counting.Keeps.either {α : Type} {call : σ → α × σ} {call' : σ' → α × σ'} (keeps : counting.Keeps call)
    (keeps' : other.Keeps call') :
    (counting.either other).Keeps fun guest =>
      match guest with
      | .inl guest => carry .inl (call guest)
      | .inr guest => carry .inr (call' guest) := by
  intro factory files guest fits
  cases factory <;> cases guest
  · next factory guest =>
      have steady := keeps factory files guest fits
      exact ⟨steady.fits, others_inl steady.others, steady.lasting, steady.live⟩
  · exact fits.elim
  · exact fits.elim
  · next factory guest =>
      have steady := keeps' factory files guest fits
      exact ⟨steady.fits, others_inr steady.others, steady.lasting, steady.live⟩

theorem Counting.Lawful.either (lawful : counting.Lawful) (lawful' : other.Lawful) :
    (counting.either other).Lawful where
  made factory files guest after made := by
    cases factory <;> simp only [Supply.either] at made <;> split at made <;> cases made
    · next created =>
        obtain ⟨live, counted, fits, others⟩ := lawful.made _ _ _ _ created
        exact ⟨live, counted, fits, others_inl others⟩
    · next created =>
        obtain ⟨live, counted, fits, others⟩ := lawful'.made _ _ _ _ created
        exact ⟨live, counted, fits, others_inr others⟩
  refused factory files fault after refused := by
    cases factory <;> simp only [Supply.either] at refused <;> split at refused <;> cases refused
    · next created =>
        obtain ⟨live, others⟩ := lawful.refused _ _ _ _ created
        exact ⟨live, others_inl others⟩
    · next created =>
        obtain ⟨live, others⟩ := lawful'.refused _ _ _ _ created
        exact ⟨live, others_inr others⟩
  load image := (lawful.load image).either (lawful'.load image)
  invoke := lawful.invoke.either lawful'.invoke
  await := lawful.await.either lawful'.await
  destroy := lawful.destroy.either lawful'.destroy
  destroyed factory files guest fits done := by
    cases factory <;> cases guest
    · exact lawful.destroyed _ files _ fits done
    · exact fits.elim
    · exact fits.elim
    · exact lawful'.destroyed _ files _ fits done
  leave factory files guest fits := by
    cases factory <;> cases guest
    · obtain ⟨live, others⟩ := lawful.leave _ files _ fits
      exact ⟨live, others_inl others⟩
    · exact fits.elim
    · exact fits.elim
    · obtain ⟨live, others⟩ := lawful'.leave _ files _ fits
      exact ⟨live, others_inr others⟩

theorem Coherent.either (coherent : first.Coherent) (coherent' : second.Coherent) : (first.either second).Coherent where
  outside_made factory files guest after made := by
    cases factory <;> simp only [Supply.either] at made <;> split at made <;> cases made
    · next created =>
        simp only [Supply.either, coherent.outside_made _ _ _ _ created]
    · next created =>
        simp only [Supply.either, coherent'.outside_made _ _ _ _ created]
  enter_outside guest := by
    cases guest with
    | inl guest => exact congrArg Sum.inl (coherent.enter_outside guest)
    | inr guest => exact congrArg Sum.inr (coherent'.enter_outside guest)

end Either

section Any
variable (machine : Host.Machine)

theorem directories_coherent : (directories machine).Coherent where
  outside_made factory files guest after made := by
    simp only [directories] at made ⊢
    split at made <;> cases made
    rfl
  enter_outside _ := rfl

theorem boxes_coherent : (boxes machine).Coherent where
  outside_made factory files guest after made := by
    simp only [boxes] at made ⊢
    split at made <;> cases made
    rfl
  enter_outside _ := rfl

theorem any_coherent : (any machine).Coherent :=
  (directories_coherent machine).either (boxes_coherent machine)

def countAny : Counting (any machine) :=
  (countDirectories machine).either (countBoxes machine)

/-- The supplies that settings ask for keep count of their contexts. -/
theorem countAny_lawful : (countAny machine).Lawful :=
  (countDirectories_lawful machine).either (countBoxes_lawful machine)

end Any
end Supply
end SnippetRunner.Context

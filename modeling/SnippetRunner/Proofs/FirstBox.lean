import SnippetRunner.Proofs.Teardown.IdBalance

/-!
The first context of a new factory. Its pool has IDs of the range that the settings name, each once; it has one
at all unless the range begins at the last ID there is. A factory without IDs never makes a context.
-/

namespace SnippetRunner

namespace Settings

theorem boxCount_of_check (settings : Settings) (valid : settings.check = .ok ()) :
    0 < settings.sandbox.boxCount := by
  rcases Nat.eq_zero_or_pos settings.sandbox.boxCount with zero | positive
  · unfold check at valid
    split at valid
    · cases valid
    · split at valid
      · cases valid
      · split at valid
        · cases valid
        · cases valid
  · exact positive

end Settings

namespace Context.Boxed
open Box (Pool)

theorem new_free_iff (first count : Nat) : (Pool.new first count).free = [] ↔ Pool.lastId ≤ first := by
  constructor
  · intro empty
    by_contra below
    have there := (Box.Sharing.mem_new_iff first count first).mpr (by omega)
    rw [empty] at there
    cases there
  · intro above
    refine List.eq_nil_iff_forall_not_mem.mpr fun id listed => ?_
    have range := (Box.Sharing.mem_new_iff first count id).mp listed
    omega

section Waiting

/-- A pool whose IDs have their permits makes clients wait when it has no ID, and only then. -/
theorem lease_waits_iff (pool : Pool) (covered : Covered pool) : pool.lease = .waits ↔ pool.free = [] := by
  unfold Covered at covered
  cases free : pool.free with
  | nil =>
      have none : pool.permits = 0 := by rw [covered, free]; rfl
      simp [Pool.lease, Pool.acquire?, none]
  | cons id rest =>
      have some : pool.permits ≠ 0 := by simp [covered, free]
      simp [Pool.lease, Pool.acquire?, Pool.pop?, some, free]

theorem reserve_waits_iff (factory : Factory) (covered : Covered factory.pool) (files : Files.Tree) :
    factory.reserve files = .waits ↔
      Box.Mount.checkAll files.isThere factory.mounts = .ok () ∧ factory.pool.free = [] := by
  rw [← lease_waits_iff factory.pool covered]
  unfold Factory.reserve
  cases Box.Mount.checkAll files.isThere factory.mounts with
  | error fault => simp
  | ok _ => cases factory.pool.lease <;> simp

/-- A context is waited for when its mounts can be had and no ID is free. -/
theorem create_waits_iff (machine : Host.Machine) (factory : Factory) (covered : Covered factory.pool)
    (files : Files.Tree) : (factory.create machine files).1 = .waits ↔
      Box.Mount.checkAll files.isThere factory.mounts = .ok () ∧ factory.pool.free = [] := by
  rw [← reserve_waits_iff factory covered files]
  unfold Factory.create
  cases factory.reserve files with
  | waits => simp
  | refused fault => simp
  | reserved id taken =>
      rcases made : taken.make machine id files with ⟨_ | _, _, _⟩ <;> simp [made]

/-- Nothing comes of a factory that has no IDs. -/
theorem idle_forever (factory : Factory) (empty : factory.pool.free = []) (acts : List Site.Act)
    (site : Site Factory Boxed) (ran : (Site.start factory).run? Backend.boxes acts = some site) :
    site.making = [] ∧ site.members = [] := by
  have kept : site.factory.pool.free = [] ∧ site.making = [] ∧ site.members = [] := by
    refine Site.run_preserves Backend.boxes
      (fun now => now.factory.pool.free = [] ∧ now.making = [] ∧ now.members = [])
      (fun act before after idle moved => ?_) acts ⟨empty, rfl, rfl⟩ ran
    obtain ⟨free, making, members⟩ := idle
    cases moved with
    | reserved world number factory found =>
        have taken := reserve_takes _ _ _ _ found
        rw [free] at taken
        cases taken
    | refused index image world number fault there answered => simp [making] at there
    | made index image world number context there answered => simp [making] at there
    | member index act old new there moved => simp [members] at there
  exact kept.2

end Waiting

section First

/-- The IDs of settings that pass the check are of their range and each there once. There are some, so the first
context is not waited for, if and only if the range begins below the last ID; if it does not, no context is ever
made. -/
theorem fresh_pool_nonempty_iff (settings : Settings) (valid : settings.check = .ok ()) :
    (∀ id ∈ (Factory.ofSettings settings).pool.free, settings.sandbox.firstBoxId ≤ id ∧
      id < settings.sandbox.firstBoxId + settings.sandbox.boxCount) ∧
    (Factory.ofSettings settings).pool.free.Nodup ∧
    ((Factory.ofSettings settings).pool.free ≠ [] ↔ settings.sandbox.firstBoxId < Pool.lastId) ∧
    (∀ (machine : Host.Machine) (files : Files.Tree),
      ((Factory.ofSettings settings).create machine files).1 = .waits ↔
        Box.Mount.checkAll files.isThere settings.sandbox.mounts = .ok () ∧
          Pool.lastId ≤ settings.sandbox.firstBoxId) ∧
    (Pool.lastId ≤ settings.sandbox.firstBoxId → ∀ (acts : List Site.Act) (site : Site Factory Boxed),
      (Site.start (Factory.ofSettings settings)).run? Backend.boxes acts = some site → site.members = []) := by
  have positive := Settings.boxCount_of_check settings valid
  have empty : (Factory.ofSettings settings).pool.free = [] ↔ Pool.lastId ≤ settings.sandbox.firstBoxId :=
    new_free_iff settings.sandbox.firstBoxId settings.sandbox.boxCount
  refine ⟨fun id listed => ?_, Box.Sharing.new_nodup _ _, ?_, fun machine files => ?_, fun above acts site ran => ?_⟩
  · have range := (Box.Sharing.mem_new_iff settings.sandbox.firstBoxId settings.sandbox.boxCount id).mp listed
    omega
  · rw [ne_eq, empty, Nat.not_le]
  · rw [create_waits_iff machine (Factory.ofSettings settings) rfl files, empty]
    rfl
  · exact (idle_forever _ (empty.mpr above) acts site ran).2

def boxesFrom (first : Nat) : Settings :=
  { Settings.defaults with sandbox := { SandboxSettings.defaults with firstBoxId := first, boxCount := 8 } }

theorem fresh_pool_nonempty_below_last :
    (boxesFrom 0xfffffffe).check = .ok () ∧ (Factory.ofSettings (boxesFrom 0xfffffffe)).pool.free = [0xfffffffe] ∧
      ((Factory.ofSettings (boxesFrom 0xfffffffe)).create .idle .empty).1 ≠ .waits := by
  have valid : (boxesFrom 0xfffffffe).check = .ok () := by decide +kernel
  have waits := (fresh_pool_nonempty_iff (boxesFrom 0xfffffffe) valid).2.2.2.1 .idle .empty
  refine ⟨valid, by decide +kernel, fun waiting => ?_⟩
  have above := (waits.mp waiting).2
  exact absurd above (by decide)

theorem no_box_at_last_id :
    (boxesFrom 0xffffffff).check = .ok () ∧ (Factory.ofSettings (boxesFrom 0xffffffff)).pool.free = [] ∧
      ((Factory.ofSettings (boxesFrom 0xffffffff)).create .idle .empty).1 = .waits := by
  refine ⟨by decide +kernel, by decide +kernel, ?_⟩
  exact (create_waits_iff .idle (Factory.ofSettings (boxesFrom 0xffffffff)) rfl .empty).mpr
    ⟨rfl, by decide +kernel⟩

end First
end Context.Boxed
end SnippetRunner

import SnippetRunner.Proofs.Teardown.FreeBoxes

/-!
IDs, permits and the count of a factory, side by side. There is a permit for each free ID; an ID is free, with
a context that is being made, or kept by a context. When no operation is under way the contexts that keep an
ID are the live ones and those that were dropped without having been destroyed.
-/

namespace SnippetRunner.Context

namespace Member
variable {φ κ : Type} (backend : Backend φ κ) {member : Member κ}

/-- The context was let go of and no call of destroy had answered that all is well. -/
def isForsaken (member : Member κ) : Bool :=
  member.dropped && !member.shared.answers.any Except.isOk

theorem Kept.forsaken_eq (kept : Kept backend member) :
    member.isForsaken = (member.dropped && !(backend.standing member.context).destroyed) := by
  cases kept with
  | present there unswept disposal sound => simp [isForsaken, there]
  | destroyed gone unswept uncounted removed once answered closed =>
      have well : member.shared.answers.any Except.isOk = true := List.any_eq_true.mpr ⟨_, answered, rfl⟩
      simp [isForsaken, well, closed]
  | forsaken gone uncounted unremoved unanswered live =>
      have ungone : member.shared.answers.any Except.isOk = false := by
        refine List.any_eq_false.mpr fun answer found well => ?_
        cases answer with
        | error fault => cases well
        | ok _ => exact unanswered found
      simp [isForsaken, ungone, live]

end Member

namespace Boxed

section Permits
variable {pool after : Box.Pool}

/-- There is a permit for each free ID. -/
def Covered (pool : Box.Pool) : Prop :=
  pool.permits = pool.free.length

theorem Covered.reserve {factory after : Factory} {files : Files.Tree} {number : Nat}
    (covered : Covered factory.pool) (reserved : factory.reserve files = .reserved number after) :
    Covered after.pool := by
  rw [reserve_gives factory after files number reserved] at covered
  unfold Covered at covered ⊢
  simpa using covered

theorem Covered.giveBack (covered : Covered pool) (id : Nat) : Covered (pool.giveBack id) := by
  unfold Covered at covered ⊢
  simp [Box.Pool.giveBack, Box.Pool.push, Box.Pool.release, covered]

theorem Covered.make (world : World) (factory : Factory) (id : Nat) (covered : Covered factory.pool) :
    Covered (factory.make world.machine id world.files).2.1.pool := by
  rcases make_cases world factory id with ⟨_, _, pool, _⟩ | ⟨_, _, pool, _⟩
  · rwa [pool]
  · rw [pool]
    exact covered.giveBack id

theorem release_pool (factory : Factory) (before after : Boxed) :
    (factory.release before after).pool = factory.pool ∨
      ∃ id, (factory.release before after).pool = factory.pool.giveBack id := by
  unfold Factory.release
  cases before.lease <;> cases after.lease <;> cases after.destroyed <;> simp

theorem Covered.release (factory : Factory) (before after : Boxed) (covered : Covered factory.pool) :
    Covered (factory.release before after).pool := by
  rcases release_pool factory before after with same | ⟨id, given⟩
  · rwa [same]
  · rw [given]
    exact covered.giveBack id

end Permits

section Leases
variable {old new : Member Boxed} {act : Member.Act}

/-- A destroyed context holds its lease no longer than until the call that destroyed it gives it back. -/
def Returned (member : Member Boxed) : Prop :=
  member.context.destroyed = true → member.shared.lock ≠ some .returning → member.context.lease = none

theorem remove_keeps (world : World) (context : Boxed) :
    (Backend.boxes.remove world.machine context world.files).2.1.lease = context.lease ∧
      (Backend.boxes.remove world.machine context world.files).2.1.destroyed = context.destroyed := by
  have kept : (Backend.boxes.remove world.machine context world.files).2.1 =
      { context with box := (context.box.cleanup world.machine world.files).2.1 } :=
    Backend.box_remove_keeps world.machine context world.files
  rw [kept]
  exact ⟨rfl, rfl⟩

theorem Returned.shared (returned : Returned old) (shared : Shared Boxed) (act : Shared.Act)
    (moved : Shared.Moved Backend.boxes old.shared act shared) : Returned { old with shared } := by
  have early (phase : Shared.Phase) (held : old.shared.lock = some phase) (other : phase ≠ .returning)
      (destroyed : old.context.destroyed = true) : old.context.lease = none :=
    returned destroyed (by rw [held]; exact fun same => other (Option.some.inj same))
  intro destroyed unheld
  cases moved with
  | goOn world worker left on => exact returned destroyed unheld
  | mark world left => exact returned destroyed unheld
  | launch world ending left allowed => exact returned destroyed unheld
  | still world left => exact returned destroyed unheld
  | gone world left empty => exact returned destroyed unheld
  | returned world ending left there past => exact returned destroyed unheld
  | finish index child there running => exact returned destroyed unheld
  | call => exact returned destroyed unheld
  | enter others free callers => exact returned destroyed (by simp [free])
  | idle world held closed => exact early _ held nofun destroyed
  | look world held live => exact early _ held nofun destroyed
  | stop world held => exact early _ held nofun destroyed
  | reap world child held => exact early _ held nofun destroyed
  | removed world context held answered left =>
      subst left
      obtain ⟨lease, same⟩ := remove_keeps world old.context
      exact lease.trans (early _ held nofun (same.symm.trans destroyed))
  | kept world fault held answered => exact early _ held nofun destroyed
  | close world held => exact absurd rfl unheld
  | handBack world held => rfl
  | uncount world held => exact early _ held nofun destroyed

theorem Returned.step (returned : Returned old) (moved : Member.Moved Backend.boxes old act new) :
    Returned new := by
  cases moved with
  | use act shared there moved => exact returned.shared shared act moved
  | drop there free => exact fun _ _ => rfl
  | sweep world gone live unswept =>
      intro destroyed unheld
      have closed : old.context.destroyed = true := (remove_keeps world old.context).2.symm.trans destroyed
      exact absurd closed (Bool.eq_false_iff.mp live)

/-- A context that no call is under way for keeps its ID until it is destroyed. -/
theorem Returned.keeps_eq {member : Member Boxed} (returned : Returned member) (free : member.shared.lock = none) :
    keeps member.context = if member.context.destroyed then none else some member.context.box.id := by
  unfold keeps
  split
  · next destroyed => exact returned destroyed (by simp [free])
  · rfl

end Leases

section Balance
variable {before after site : Site Factory Boxed} {act : Site.Act} {log : Log} {initial : List Nat}

/-- No operation is under way: nothing is being made, and nobody holds the lock of a context. -/
def IsQuiet (site : Site Factory Boxed) : Prop :=
  site.making = [] ∧ ∀ member ∈ site.members, member.shared.lock = none

/-- What every step keeps: the IDs are those of the beginning, each free one has its permit, and no context that
is destroyed holds a lease. -/
structure Stocked (initial : List Nat) (site : Site Factory Boxed) : Prop where
  conserved : (ids site).Perm initial
  covered : Covered site.factory.pool
  returned : ∀ member ∈ site.members, Returned member

theorem stocked_start (settings : Settings) :
    Stocked (Factory.ofSettings settings).pool.free (Site.start (Factory.ofSettings settings)) where
  conserved := by simp [ids, kept, Site.start]
  covered := rfl
  returned _ none := by cases none

theorem Stocked.step (stocked : Stocked initial before) (sound : Sound log before)
    (moved : Site.Moved Backend.boxes before act after) : Stocked initial after := by
  have conserved := (ids_perm sound.holding moved).trans stocked.conserved
  cases moved with
  | reserved world number factory found =>
      exact ⟨conserved, stocked.covered.reserve (reserved_of_backend _ _ _ _ found), stocked.returned⟩
  | refused index image world number fault there answered =>
      exact ⟨conserved, stocked.covered.make world _ number, stocked.returned⟩
  | made index image world number context there answered =>
      refine ⟨conserved, stocked.covered.make world _ number, fun member found => ?_⟩
      rcases List.mem_append.mp found with old | new
      · exact stocked.returned member old
      · rcases make_cases world before.factory number with ⟨path, made, _, _⟩ | ⟨fault, refused, _, _⟩
        · cases answered.symm.trans made
          cases List.mem_singleton.mp new
          exact fun destroyed _ => by cases destroyed
        · cases answered.symm.trans refused
  | member index act old new there moved =>
      refine ⟨conserved, stocked.covered.release _ old.context new.context, fun member found => ?_⟩
      rcases List.mem_or_eq_of_mem_set found with other | rfl
      · exact stocked.returned member other
      · exact (stocked.returned old (List.mem_of_getElem? there)).step moved

theorem stocked_run (settings : Settings) (acts : List Site.Act)
    (ran : (Site.start (Factory.ofSettings settings)).run? Backend.boxes acts = some site) :
    (∃ log, Sound log site) ∧ Stocked (Factory.ofSettings settings).pool.free site := by
  refine Site.run_preserves Backend.boxes
    (fun now => (∃ log, Sound log now) ∧ Stocked (Factory.ofSettings settings).pool.free now)
    (fun act before after kept moved => ?_) acts ⟨⟨[], History.sound_start settings⟩, stocked_start settings⟩ ran
  obtain ⟨⟨log, sound⟩, stocked⟩ := kept
  exact ⟨⟨_, sound_step sound moved⟩, stocked.step sound moved⟩

end Balance

section Creation
variable {site : Site Factory Boxed}

/-- A creation that is refused costs nothing: the IDs that were free are free, in another order perhaps. -/
theorem create_refused (machine : Host.Machine) (factory left : Factory) (files after : Files.Tree) (fault : Fault)
    (refused : factory.create machine files = (.refused fault, left, after)) :
    left.pool.free.Perm factory.pool.free ∧ left.available = factory.available ∧ left.live = factory.live := by
  unfold Factory.create at refused
  split at refused
  · cases refused
  · cases refused
    exact ⟨.refl _, rfl, rfl⟩
  · next id taken reserved =>
      rw [reserve_gives factory taken files id reserved]
      split at refused
      · next cause back later made =>
          cases refused
          have live := Backend.boxes.live_refused machine taken id files fault (congrArg Prod.fst made)
          have live : (taken.make machine id files).2.1.live = taken.live := live
          rcases make_cases ⟨machine, files⟩ taken id with ⟨_, ok, _, _⟩ | ⟨_, _, pool, _⟩
          · simp only [made] at ok
            cases ok
          · simp only [made] at pool live
            refine ⟨?_, ?_, live⟩
            · rw [pool]
              exact List.perm_append_singleton id taken.pool.free
            · show left.pool.permits = taken.pool.permits + 1
              rw [pool]
              rfl
      · cases refused

/-- A creation that nobody disturbs is a reservation and a making with no other step between them; one that
gets no ID changes nothing. -/
theorem create_undisturbed (world : World) (image : Bytes) (idle : site.making = []) (answer : Creation)
    (left : Factory) (after : Files.Tree)
    (created : site.factory.create world.machine world.files = (answer, left, after)) :
    let later := site.run? Backend.boxes [.reserve world, .make 0 image world]
    match answer with
    | .made context => later = some { factory := left, making := [], members := site.members ++ [.new context image] }
    | .refused _ => left = site.factory ∨ later = some { site with factory := left }
    | .waits => left = site.factory ∧ site.step? Backend.boxes (.reserve world) = none := by
  unfold Factory.create at created
  split at created
  · next waiting =>
      cases created
      have none : Backend.boxes.reserve site.factory world.files = none := congrArg Backend.reservedBox? waiting
      exact ⟨rfl, by simp [Site.step?, Site.reserve?, none]⟩
  · cases created
    exact .inl rfl
  · next id taken reserved =>
      have first : Backend.boxes.reserve site.factory world.files = some (id, taken) :=
        congrArg Backend.reservedBox? reserved
      split at created
      · next fault back later answered =>
          cases created
          have second : Backend.boxes.make world.machine taken id world.files = (.error fault, left, after) := answered
          exact .inr (by simp [Site.run?, Site.step?, Site.reserve?, Site.make?, first, second, idle])
      · next context back later answered =>
          cases created
          have second : Backend.boxes.make world.machine taken id world.files = (.ok context, left, after) := answered
          simp [Site.run?, Site.step?, Site.reserve?, Site.make?, first, second, idle]

end Creation

section Quiet
variable {site : Site Factory Boxed} {log : Log} {initial : List Nat}

theorem kept_quiet (stocked : Stocked initial site) (quiet : IsQuiet site) :
    kept site = (site.members.filter fun member => !member.context.destroyed).map (·.context.box.id) := by
  have each : kept site = site.members.filterMap fun member =>
      if member.context.destroyed then none else some member.context.box.id :=
    List.filterMap_congr fun member found => (stocked.returned member found).keeps_eq (quiet.2 member found)
  rw [each]
  induction site.members with
  | nil => rfl
  | cons member rest ih => cases closed : member.context.destroyed <;> simp [closed, ih]

theorem present_sublist (holding : ∀ member ∈ site.members, Holding log member) (stocked : Stocked initial site)
    (quiet : IsQuiet site) :
    ((site.members.filter fun member => !member.isGone).map (·.context.box.id)).Sublist (kept site) := by
  have present : (site.members.filter fun member => !member.isGone) =
      site.members.filter fun member => !(member.dropped || member.context.destroyed) :=
    List.filter_congr fun member found =>
      congrArg (!·) ((holding member found).kept.gone_eq Backend.boxes (quiet.2 member found))
  rw [kept_quiet stocked quiet, present]
  refine (List.monotone_filter_right _ fun member => ?_).map _
  cases member.dropped <;> simp

/-- The contexts that keep an ID are the live ones and the forsaken ones. -/
theorem kept_length (holding : ∀ member ∈ site.members, Holding log member)
    (counts : Site.Sound Backend.boxes site) (stocked : Stocked initial site) (quiet : IsQuiet site) :
    (kept site).length = site.factory.live + site.members.countP Member.isForsaken := by
  have live : site.factory.live =
      site.members.countP fun member => !member.dropped && !member.context.destroyed :=
    counts.count_quiet Backend.boxes quiet.2
  have forsaken : site.members.countP Member.isForsaken =
      site.members.countP fun member => member.dropped && !member.context.destroyed :=
    List.countP_congr fun member found => by
      rw [(holding member found).kept.forsaken_eq Backend.boxes]
      rfl
  rw [kept_quiet stocked quiet, List.length_map, ← List.countP_eq_length_filter, live, forsaken,
    List.countP_eq_countP_filter_add site.members _ fun member => !member.dropped]
  simp only [List.countP_filter, Bool.not_not, Bool.and_comm]

/-- How the IDs of a factory stand. -/
structure Balanced (initial : Nat) (site : Site Factory Boxed) : Prop where
  apart : ((site.members.filter fun member => !member.isGone).map (·.context.box.id)).Nodup
  taken : ∀ member ∈ site.members, member.isGone = false → member.context.box.id ∉ site.factory.pool.free
  available : site.factory.available = site.factory.pool.free.length
  whole : site.factory.available + site.factory.live + site.members.countP Member.isForsaken = initial
  refused (machine : Host.Machine) (files after : Files.Tree) (fault : Fault) (left : Factory) :
    site.factory.create machine files = (.refused fault, left, after) →
      left.pool.free.Perm site.factory.pool.free ∧ left.available = site.factory.available ∧
        left.live = site.factory.live

/-- Whenever no operation is under way, each ID is free or with one context, the permits are those of the free
IDs, and what is free, what is live and what was forsaken add up to the IDs of the beginning; a creation that is
refused leaves all of these as they were. -/
theorem ids_add_up (settings : Settings) (acts : List Site.Act) (site : Site Factory Boxed)
    (ran : (Site.start (Factory.ofSettings settings)).run? Backend.boxes acts = some site)
    (quiet : IsQuiet site) : Balanced (Factory.ofSettings settings).available site := by
  obtain ⟨⟨log, sound⟩, stocked⟩ := stocked_run settings acts ran
  have counts := Site.sound_run Backend.boxes (Factory.ofSettings settings) rfl acts ran
  have present := present_sublist sound.holding stocked quiet
  obtain ⟨_, keptOnce, elsewhere⟩ := List.nodup_append.mp sound.apart
  refine ⟨keptOnce.sublist present, fun member found here free => ?_, stocked.covered, ?_, fun machine files after
    fault left refused => create_refused machine site.factory left files after fault refused⟩
  · have listed : member.context.box.id ∈ kept site :=
      present.subset (List.mem_map_of_mem (List.mem_filter.mpr ⟨found, by simp [here]⟩))
    exact elsewhere _ (List.mem_append_left _ free) _ listed rfl
  · have whole := stocked.conserved.length_eq
    have covered : site.factory.available = site.factory.pool.free.length := stocked.covered
    rw [ids, quiet.1, List.append_nil, List.length_append, kept_length sound.holding counts stocked quiet] at whole
    rw [covered, Nat.add_assoc]
    exact whole

def threeBoxes : Settings :=
  { Settings.defaults with sandbox := { SandboxSettings.defaults with firstBoxId := 40, boxCount := 3 } }

-- One context is destroyed, one is let go of, and one stays.
def destroyedAndForsaken : List Site.Act :=
  let world := History.naming [0x2f, 0x62, 0x0a]
  let make : List Site.Act := [.reserve world, .make 0 [] world]
  let destroy : List Shared.Act := [.call, .enter] ++ List.replicate 7 (.teardown world)
  make ++ make ++ make ++ destroy.map (fun act => .member 0 (.use act)) ++ [.member 1 .drop]

theorem ids_add_up_of_three :
    ∃ site, (Site.start (Factory.ofSettings threeBoxes)).run? Backend.boxes destroyedAndForsaken = some site ∧
      site.factory.pool.free = [40] ∧ site.factory.live = 1 ∧ site.members.countP Member.isForsaken = 1 ∧
      IsQuiet site ∧ Balanced 3 site := by
  have runs : ((Site.start (Factory.ofSettings threeBoxes)).run? Backend.boxes destroyedAndForsaken).map
      (fun site => (site.factory.pool.free, site.factory.live, site.members.countP Member.isForsaken,
        site.making, site.members.all (·.shared.lock.isNone))) = some ([40], 1, 1, [], true) := by
    decide +kernel
  obtain ⟨site, ran, same⟩ := Option.map_eq_some_iff.mp runs
  simp only [Prod.mk.injEq] at same
  obtain ⟨free, live, forsaken, making, locks⟩ := same
  have quiet : IsQuiet site :=
    ⟨making, fun member found => Option.isNone_iff_eq_none.mp (List.all_eq_true.mp locks member found)⟩
  exact ⟨site, ran, free, live, forsaken, quiet, ids_add_up threeBoxes _ site ran quiet⟩

end Quiet
end Boxed
end SnippetRunner.Context

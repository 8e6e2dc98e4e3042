import Mathlib.Data.List.Perm.Basic
import SnippetRunner.Proofs.BoxSharing
import SnippetRunner.Proofs.Teardown.LiveCount

/-!
Box IDs and the boxes the keeper has set up. An ID is in one place: free, with a context that is being made, or
with a context. What the keeper did well is logged, and a free ID ought to be one whose box was taken away
after it was last set up. The exceptions are IDs whose box was set up at a place that is not there.
-/

namespace SnippetRunner.Context.Boxed
open Box (agreed placed ask)

section Logs

/-- What the keeper did well. -/
inductive Event where
  -- whether the place it named is there
  | setUp (id : Nat) (there : Bool)
  | takenAway (id : Nat)
  deriving DecidableEq

def Event.id : Event → Nat
  | .setUp id _ => id
  | .takenAway id => id

def Event.isSetup : Event → Bool
  | .setUp _ _ => true
  | .takenAway _ => false

-- The last event comes first.
abbrev Log := List Event

def last? (log : Log) (id : Nat) : Option Event :=
  log.find? fun event => event.id == id

/-- A box with this ID is set up: nothing took it away after it was last set up. -/
def isUp (log : Log) (id : Nat) : Bool :=
  (last? log id).any Event.isSetup

/-- If the box is up, then at a place that is not there. -/
def Calm (log : Log) (id : Nat) : Prop :=
  last? log id ≠ some (.setUp id true)

theorem last_id (log : Log) (id : Nat) (event : Event) (last : last? log id = some event) : event.id = id := by
  simpa using List.find?_some last

theorem calm_append (new log : Log) (id : Nat) (apart : ∀ event ∈ new, event.id ≠ id) :
    Calm (new ++ log) id ↔ Calm log id := by
  have skipped : new.find? (fun event => event.id == id) = none :=
    List.find?_eq_none.mpr fun event member => by simpa using apart event member
  rw [Calm, Calm, last?, last?, List.find?_append, skipped, Option.none_or]

theorem calm_taken (log : Log) (id : Nat) : Calm (.takenAway id :: log) id := by
  simp [Calm, last?, Event.id]

theorem calm_astray (log : Log) (id : Nat) : Calm (.setUp id false :: log) id := by
  simp [Calm, last?, Event.id]

theorem up_astray (log : Log) (id : Nat) : isUp (.setUp id false :: log) id = true := by
  simp [isUp, last?, Event.id, Event.isSetup]

/-- Without boxes at places that are not there, a calm ID has no box. -/
theorem Calm.down {log : Log} {id : Nat} (calm : Calm log id) (none : ∀ id, .setUp id false ∉ log) :
    isUp log id = false := by
  cases last : last? log id with
  | none => simp [isUp, last]
  | some event =>
      have same := last_id log id event last
      cases event with
      | takenAway other => simp [isUp, last, Event.isSetup]
      | setUp other there =>
          cases same
          cases there with
          | true => exact absurd last calm
          | false => exact absurd (List.mem_of_find?_eq_some last) (none _)

end Logs

section Asking

def setupEvents (world : World) (factory : Factory) (id : Nat) : Log :=
  let answer := ask world.machine world.files (Box.setupCommand factory.keeper id factory.cgroup)
  if agreed answer then [.setUp id (placed answer)] else []

def removalEvents (world : World) (box : Box) : Log :=
  if box.initialized && agreed (ask world.machine world.files box.cleanupCommand) then [.takenAway box.id] else []

def memberEvents (member : Member Boxed) : Member.Act → Log
  | .use (.teardown world) =>
      if member.shared.lock = some .removing then removalEvents world member.context.box else []
  | .use _ => []
  | .drop => []
  | .sweep world => removalEvents world member.context.box

/-- What the keeper does well in a step. -/
def events (site : Site Factory Boxed) : Site.Act → Log
  | .reserve _ => []
  | .make index _ world => site.making[index]?.elim [] (setupEvents world site.factory)
  | .member index act => site.members[index]?.elim [] fun member => memberEvents member act

/-- A context is made when the keeper ended well and the place it named is there. -/
theorem make_cases (world : World) (factory : Factory) (id : Nat) :
    (∃ path, (factory.make world.machine id world.files).1 = .ok
        { box := { id, path, keeper := factory.keeper, initialized := true, cgroup := factory.cgroup }
          wallTime := factory.wallTime, mounts := factory.mounts, slot := .empty, loaded := false
          destroyed := false, lease := some id, counted := true } ∧
      (factory.make world.machine id world.files).2.1.pool = factory.pool ∧
      setupEvents world factory id = [.setUp id true]) ∨
    ∃ fault, (factory.make world.machine id world.files).1 = .error fault ∧
      (factory.make world.machine id world.files).2.1.pool = factory.pool.giveBack id ∧
      (setupEvents world factory id = [] ∨ setupEvents world factory id = [.setUp id false]) := by
  unfold setupEvents Factory.make
  cases good : agreed (ask world.machine world.files (Box.setupCommand factory.keeper id factory.cgroup)) &&
      placed (ask world.machine world.files (Box.setupCommand factory.keeper id factory.cgroup)) with
  | true =>
      obtain ⟨ended, found⟩ := Bool.and_eq_true_iff.mp good
      obtain ⟨path, after, made⟩ :=
        Box.setup_placed world.machine factory.keeper id factory.cgroup world.files ended found
      exact .inl ⟨path, by simp [made, ended, found]⟩
  | false =>
      obtain ⟨fault, after, refused⟩ :=
        Box.setup_refused world.machine factory.keeper id factory.cgroup world.files good
      refine .inr ⟨.create fault.message, by simp [refused], by simp [refused], ?_⟩
      cases ended : agreed (ask world.machine world.files (Box.setupCommand factory.keeper id factory.cgroup)) with
      | false => exact .inl (by simp [ended])
      | true => exact .inr (by simp_all)

/-- A box is left alone, or the keeper takes it away. -/
inductive Swept (before : Box) : Box → Log → Prop where
  | alone : Swept before before []
  | away (there : before.initialized = true) :
      Swept before { before with initialized := false } [.takenAway before.id]

theorem swept_cleanup (world : World) (box : Box) :
    Swept box (box.cleanup world.machine world.files).2.1 (removalEvents world box) := by
  unfold removalEvents
  cases there : box.initialized with
  | false =>
      rw [Box.cleanup_gone world.machine box world.files there]
      exact .alone
  | true =>
      cases ended : agreed (ask world.machine world.files box.cleanupCommand) with
      | false =>
          obtain ⟨fault, after, refused⟩ := Box.cleanup_refused world.machine box world.files there ended
          rw [refused]
          exact .alone
      | true =>
          obtain ⟨after, cleaned⟩ := Box.cleanup_agreed world.machine box world.files there ended
          rw [cleaned]
          exact .away there

theorem cleanup_ok (machine : Host.Machine) (box : Box) (files : Files.Tree)
    (ok : (box.cleanup machine files).1 = .ok ()) : (box.cleanup machine files).2.1.initialized = false := by
  cases there : box.initialized with
  | false => rw [Box.cleanup_gone machine box files there, there]
  | true =>
      cases ended : agreed (ask machine files box.cleanupCommand) with
      | false =>
          obtain ⟨fault, after, refused⟩ := Box.cleanup_refused machine box files there ended
          rw [refused] at ok
          cases ok
      | true =>
          obtain ⟨after, cleaned⟩ := Box.cleanup_agreed machine box files there ended
          rw [cleaned]

end Asking

section Holdings
variable {old new : Member Boxed} {act : Member.Act}

/-- The ID a context keeps from others: the leased one, or for good if its box was not taken away. -/
def keeps (context : Boxed) : Option Nat :=
  if context.destroyed then context.lease else some context.box.id

/-- The ID the factory gets back when a context changes. -/
def handed (before after : Boxed) : Option Nat :=
  match before.lease, after.lease, after.destroyed with
  | some id, none, true => some id
  | _, _, _ => none

theorem release_free (factory : Factory) (before after : Boxed) :
    (factory.release before after).pool.free = factory.pool.free ++ (handed before after).toList := by
  unfold Factory.release handed
  cases before.lease <;> cases after.lease <;> cases after.destroyed <;>
    simp [Box.Pool.giveBack, Box.Pool.push, Box.Pool.release]

theorem handed_destroyed (before after : Boxed) (id : Nat) (given : id ∈ handed before after) :
    after.destroyed = true := by
  unfold handed at given
  split at given
  · next closed => exact closed
  · cases given

/-- The box of the context is gone, or the context is about to be destroyed because it is. -/
def isClosing (member : Member Boxed) : Prop :=
  member.context.destroyed = true ∨ member.shared.lock = some .closing

/-- What a step makes of the box of a context, of its lease and of its end. -/
structure Carried (old new : Member Boxed) (log : Log) : Prop where
  box : Swept old.context.box new.context.box log
  lease : new.context.lease = old.context.lease ∨
    new.context.lease = none ∧ (new.dropped = true ∨ new.context.destroyed = true)
  destroyed : old.context.destroyed = true → new.context.destroyed = true
  opened : new.context.destroyed = true → old.context.destroyed = true ∨ old.dropped = false
  dropped : old.dropped = true → new.dropped = true
  closing : isClosing new → isClosing old ∨ new.context.box.initialized = false

theorem no_removal (member : Member Boxed) (world : World) (phase : Shared.Phase)
    (held : member.shared.lock = some phase) (other : phase ≠ .removing) :
    memberEvents member (.use (.teardown world)) = [] := by
  simp [memberEvents, held, other]

theorem a_removal (member : Member Boxed) (world : World) (held : member.shared.lock = some .removing) :
    memberEvents member (.use (.teardown world)) = removalEvents world member.context.box := by
  simp [memberEvents, held]

-- A step that is not about the box, and does not bring the lock to its closing.
theorem carried_apart (old : Member Boxed) (shared : Shared Boxed) (box : shared.context.box = old.context.box)
    (lease : shared.context.lease = old.context.lease) (destroyed : shared.context.destroyed = old.context.destroyed)
    (lock : shared.lock = some .closing → old.shared.lock = some .closing) : Carried old { old with shared } [] where
  box := by
    show Swept old.context.box shared.context.box []
    rw [box]
    exact .alone
  lease := .inl lease
  destroyed was := destroyed.trans was
  opened now := .inl (destroyed.symm.trans now)
  dropped := id
  closing := by
    rintro (closed | held)
    · exact .inl (.inl (destroyed.symm.trans closed))
    · exact .inl (.inr (lock held))

theorem remove_ok (world : World) (context : Boxed)
    (ok : (context.remove world.machine world.files).1 = .ok ()) :
    (context.box.cleanup world.machine world.files).1 = .ok () := by
  rw [Backend.box_remove_answer] at ok
  cases cleaned : (context.box.cleanup world.machine world.files).1 with
  | ok _ => rfl
  | error fault =>
      rw [cleaned] at ok
      cases ok

-- A removal leaves all of the context but its box.
theorem carried_removed (old new : Member Boxed) (world : World)
    (context : new.context =
      { old.context with box := (old.context.box.cleanup world.machine world.files).2.1 })
    (dropped : new.dropped = old.dropped)
    (closing : new.shared.lock = some .closing → old.shared.lock = some .closing ∨
      (old.context.box.cleanup world.machine world.files).2.1.initialized = false) :
    Carried old new (removalEvents world old.context.box) where
  box := by
    rw [context]
    exact swept_cleanup world old.context.box
  lease := .inl (by rw [context])
  destroyed was := by rwa [context]
  opened now := .inl (by rwa [context] at now)
  dropped was := dropped.trans was
  closing := by
    rintro (closed | held)
    · rw [context] at closed
      exact .inl (.inl closed)
    · rw [context]
      exact (closing held).imp .inr id

theorem carried_shared (shared : Shared Boxed) (act : Shared.Act) (there : old.dropped = false)
    (kept : Member.Kept Backend.boxes old) (moved : Shared.Moved Backend.boxes old.shared act shared) :
    Carried old { old with shared } (memberEvents old (.use act)) := by
  cases moved with
  | goOn world worker left on => exact carried_apart old _ rfl rfl rfl id
  | mark world left => exact carried_apart old _ rfl rfl rfl id
  | launch world ending left allowed => exact carried_apart old _ rfl rfl rfl id
  | still world left => exact carried_apart old _ rfl rfl rfl id
  | gone world left empty => exact carried_apart old _ rfl rfl rfl id
  | returned world ending left there past => exact carried_apart old _ rfl rfl rfl id
  | finish index child there running => exact carried_apart old _ rfl rfl rfl id
  | call => exact carried_apart old _ rfl rfl rfl id
  | enter others free callers => exact carried_apart old _ rfl rfl rfl nofun
  | idle world held destroyed =>
      rw [no_removal old world _ held nofun]
      exact carried_apart old _ rfl rfl rfl nofun
  | look world held live =>
      rw [no_removal old world _ held nofun]
      exact carried_apart old _ rfl rfl rfl nofun
  | stop world held =>
      rw [no_removal old world _ held nofun]
      exact carried_apart old _ rfl rfl rfl nofun
  | reap world child held =>
      rw [no_removal old world _ held nofun]
      exact carried_apart old _ rfl rfl rfl nofun
  | removed world context held answered left =>
      rw [a_removal old world held]
      have gone : (old.context.box.cleanup world.machine world.files).2.1.initialized = false :=
        cleanup_ok _ _ _ (remove_ok world old.context answered)
      subst left
      exact carried_removed old _ world (Backend.box_remove_keeps _ _ _) rfl fun _ => .inr gone
  | kept world fault held answered =>
      rw [a_removal old world held]
      have same := Backend.boxes.remove_failed world.machine old.context world.files fault answered
      exact carried_removed old _ world (same.symm.trans (Backend.box_remove_keeps _ _ _)) rfl nofun
  | close world held =>
      rw [no_removal old world _ held nofun]
      exact ⟨.alone, .inl rfl, fun _ => rfl, fun _ => .inr there, id, fun _ => .inl (.inr held)⟩
  | handBack world held =>
      rw [no_removal old world _ held nofun]
      have closed : old.context.destroyed = true := by
        cases kept with
        | present _ _ disposal _ => exact (disposal.going_of_late Backend.boxes _ held rfl).2.2.2.2.mpr nofun
        | destroyed gone _ _ _ _ _ _ =>
            rw [there] at gone
            cases gone
        | forsaken gone _ _ _ _ =>
            rw [there] at gone
            cases gone
      exact ⟨.alone, .inr ⟨rfl, .inr closed⟩, id, .inl, id, fun _ => .inl (.inl closed)⟩
  | uncount world held =>
      rw [no_removal old world _ held nofun]
      exact carried_apart old _ rfl rfl rfl nofun

theorem carried (kept : Member.Kept Backend.boxes old) (moved : Member.Moved Backend.boxes old act new) :
    Carried old new (memberEvents old act) := by
  cases moved with
  | use act shared there moved => exact carried_shared shared act there kept moved
  | drop there free => exact ⟨.alone, .inr ⟨rfl, .inl rfl⟩, id, .inl, fun _ => rfl, .inl⟩
  | sweep world gone live unswept =>
      exact carried_removed old _ world (Backend.box_remove_keeps _ _ _) rfl .inl

/-- A context keeps its ID until the factory gets it back, which is when its box is gone. -/
structure Holding (log : Log) (member : Member Boxed) : Prop where
  kept : Member.Kept Backend.boxes member
  held : member.dropped = false → member.context.destroyed = false →
    member.context.lease = some member.context.box.id
  cleaned : isClosing member → member.context.box.initialized = false
  calm : ∀ id ∈ keeps member.context, member.context.box.initialized = false → Calm log id

section Step
variable {log : Log}

theorem Swept.same_id {before after : Box} (swept : Swept before after log) : after.id = before.id := by
  cases swept <;> rfl

theorem Swept.events_own {before after : Box} (swept : Swept before after log) :
    ∀ event ∈ log, before.initialized = true ∧ event = .takenAway before.id := by
  cases swept with
  | alone => exact nofun
  | away there => exact fun event member => ⟨there, List.mem_singleton.mp member⟩

theorem Swept.gone {before after : Box} (swept : Swept before after log) (gone : before.initialized = false) :
    after.initialized = false := by
  cases swept with
  | alone => exact gone
  | away there => rfl

theorem Swept.calm {before after : Box} {events : Log} {id : Nat} (swept : Swept before after events)
    (gone : after.initialized = false) (old : before.initialized = false → Calm log id)
    (mine : before.initialized = true → id = before.id) : Calm (events ++ log) id := by
  cases swept with
  | alone => exact old gone
  | away there =>
      cases mine there
      exact calm_taken log before.id

/-- What a context kept it keeps, or the factory gets it back. -/
theorem Holding.handed_or_kept (holding : Holding log old) (carried : Carried old new (memberEvents old act)) :
    (handed old.context new.context).toList ++ (keeps new.context).toList = (keeps old.context).toList := by
  have same := carried.box.same_id
  have opening : old.context.destroyed = false → new.context.destroyed = true →
      old.context.lease = some old.context.box.id := fun live closed =>
    holding.held ((carried.opened closed).resolve_left (by simp [live])) live
  have mono := carried.destroyed
  unfold handed keeps
  rcases carried.lease with lease | ⟨lease, _⟩ <;> cases was : old.context.destroyed <;>
    cases now : new.context.destroyed <;> cases leased : old.context.lease <;> simp_all

theorem Holding.keeps_box (holding : Holding log old) (there : old.context.box.initialized = true) :
    keeps old.context = some old.context.box.id := by
  have live : old.context.destroyed = false :=
    Bool.eq_false_iff.mpr fun closed => by simp [holding.cleaned (.inl closed)] at there
  simp [keeps, live]

/-- Once the box is gone, the ID that was kept is calm. -/
theorem Holding.calm_after (holding : Holding log old) {events : Log}
    (swept : Swept old.context.box new.context.box events) (id : Nat) (mine : id ∈ keeps old.context)
    (gone : new.context.box.initialized = false) : Calm (events ++ log) id := by
  refine swept.calm gone (holding.calm id mine) fun there => ?_
  rw [holding.keeps_box there] at mine
  exact (Option.some.inj mine).symm

theorem Holding.step (holding : Holding log old) (moved : Member.Moved Backend.boxes old act new) :
    Holding (memberEvents old act ++ log) new := by
  have carried := carried holding.kept moved
  have split := holding.handed_or_kept carried
  have calm := holding.calm_after carried.box
  obtain ⟨kept, held, cleaned, _⟩ := holding
  refine ⟨kept.step Backend.boxes moved, fun present live => ?_, fun closing => ?_, fun id mine gone => ?_⟩
  · have was : old.context.destroyed = false :=
      Bool.eq_false_iff.mpr fun closed => by simp [carried.destroyed closed] at live
    have there : old.dropped = false :=
      Bool.eq_false_iff.mpr fun left => by simp [carried.dropped left] at present
    rcases carried.lease with same | ⟨_, left | closed⟩
    · rw [same, held there was, carried.box.same_id]
    · rw [present] at left
      cases left
    · rw [live] at closed
      cases closed
  · rcases carried.closing closing with was | now
    · exact carried.box.gone (cleaned was)
    · exact now
  · have was : id ∈ keeps old.context := by
      have found : id ∈ (keeps old.context).toList := by
        rw [← split]
        exact List.mem_append_right _ (Option.mem_toList.mpr mine)
      exact Option.mem_toList.mp found
    exact calm id was gone

theorem Holding.others (holding : Holding log old) (events : Log)
    (apart : ∀ event ∈ events, event.id ∉ keeps old.context) : Holding (events ++ log) old where
  kept := holding.kept
  held := holding.held
  cleaned := holding.cleaned
  calm id mine gone := (calm_append events log id fun event member same =>
    apart event member (same ▸ mine)).mpr (holding.calm id mine gone)

theorem Holding.events_mine (holding : Holding log old) (moved : Member.Moved Backend.boxes old act new) :
    ∀ event ∈ memberEvents old act, event.id ∈ keeps old.context := by
  intro event member
  obtain ⟨there, same⟩ := (carried holding.kept moved).box.events_own event member
  rw [holding.keeps_box there, same]
  rfl

end Step
end Holdings

section Sites
variable {before after site : Site Factory Boxed} {act : Site.Act} {log : Log}

def kept (site : Site Factory Boxed) : List Nat :=
  site.members.filterMap fun member => keeps member.context

/-- All IDs there are: free, with contexts that are being made, and with contexts. -/
def ids (site : Site Factory Boxed) : List Nat :=
  site.factory.pool.free ++ site.making ++ kept site

/-- Each ID is in one place, and one that may be set up again has no box, except at a place that is not there. -/
structure Sound (log : Log) (site : Site Factory Boxed) : Prop where
  apart : (ids site).Nodup
  calm : ∀ id ∈ site.factory.pool.free ++ site.making, Calm log id
  holding : ∀ member ∈ site.members, Holding log member

/-- A lease takes the first free ID and one permit. -/
theorem lease_takes (pool after : Box.Pool) (id : Nat) (leased : pool.lease = .leased id after) :
    pool = ⟨id :: after.free, after.permits + 1⟩ := by
  unfold Box.Pool.lease at leased
  cases acquired : pool.acquire? with
  | none =>
      rw [acquired] at leased
      cases leased
  | some permitted =>
      have taken : pool = ⟨permitted.free, permitted.permits + 1⟩ := by
        unfold Box.Pool.acquire? at acquired
        split at acquired
        · cases acquired
        · next available =>
            cases acquired
            have same : pool.permits - 1 + 1 = pool.permits := by omega
            simp only [same]
      rw [acquired] at leased
      cases free : permitted.free with
      | nil =>
          simp only [Box.Pool.pop?, free] at leased
          cases leased
      | cons first rest =>
          simp only [Box.Pool.pop?, free] at leased
          cases leased
          rw [taken, free]

/-- All that a factory gives away for a reservation. -/
theorem reserve_gives (factory after : Factory) (files : Files.Tree) (number : Nat)
    (found : factory.reserve files = .reserved number after) :
    factory = { after with pool := ⟨number :: after.pool.free, after.pool.permits + 1⟩ } := by
  unfold Factory.reserve at found
  split at found
  · cases found
  · split at found
    · cases found
    · cases found
    · next id pool leased =>
        cases found
        rw [← lease_takes factory.pool pool number leased]

theorem reserved_of_backend (factory after : Factory) (files : Files.Tree) (number : Nat)
    (found : Backend.boxes.reserve factory files = some (number, after)) :
    factory.reserve files = .reserved number after := by
  have found : Backend.reservedBox? (factory.reserve files) = some (number, after) := found
  cases reserved : factory.reserve files with
  | reserved id left =>
      rw [reserved] at found
      cases found
      rfl
  | refused fault =>
      rw [reserved] at found
      cases found
  | waits =>
      rw [reserved] at found
      cases found

theorem reserve_takes (factory after : Factory) (files : Files.Tree) (number : Nat)
    (found : Backend.boxes.reserve factory files = some (number, after)) :
    factory.pool.free = number :: after.pool.free := by
  rw [reserve_gives factory after files number (reserved_of_backend factory after files number found)]

theorem making_perm (making : List Nat) (index number : Nat) (there : making[index]? = some number) :
    making.Perm (number :: making.eraseIdx index) := by
  obtain ⟨bound, rfl⟩ := List.getElem?_eq_some_iff.mp there
  exact (List.getElem_cons_eraseIdx_perm bound).symm

-- Where one ID is, in numbers.
theorem count_ids (site : Site Factory Boxed) (id : Nat) : (ids site).count id =
    site.factory.pool.free.count id + site.making.count id + (kept site).count id := by
  rw [ids, List.count_append, List.count_append]

theorem kept_replace (index : Nat) (old new : Member Boxed) (there : before.members[index]? = some old) :
    ∃ front back, before.members = front ++ old :: back ∧
      (before.replace Backend.boxes index old new).members = front ++ new :: back := by
  obtain ⟨front, back, here, replaced⟩ := Box.Sharing.split_at before.members index old there
  exact ⟨front, back, here, replaced new⟩

theorem kept_split (front back : List (Member Boxed)) (member : Member Boxed) :
    (front ++ member :: back).filterMap (fun member => keeps member.context) =
      front.filterMap (fun member => keeps member.context) ++ (keeps member.context).toList ++
        back.filterMap fun member => keeps member.context := by
  cases found : keeps member.context <;> simp [found]

theorem ids_perm (holding : ∀ member ∈ before.members, Holding log member)
    (moved : Site.Moved Backend.boxes before act after) : (ids after).Perm (ids before) := by
  refine List.perm_iff_count.mpr fun id => ?_
  rw [count_ids, count_ids]
  cases moved with
  | reserved world number factory found =>
      simp only [reserve_takes _ _ _ _ found, kept, List.count_append, List.count_cons, List.count_nil]
      omega
  | refused index image world number fault there answered =>
      have making := (making_perm _ _ _ there).count_eq id
      rcases make_cases world before.factory number with ⟨path, made, _⟩ | ⟨_, _, pool, _⟩
      · cases answered.symm.trans made
      · have pool : (Backend.boxes.make world.machine before.factory number world.files).2.1.pool =
            before.factory.pool.giveBack number := pool
        simp only [pool, making, kept, Box.Pool.giveBack, Box.Pool.push, Box.Pool.release, List.count_append,
          List.count_cons, List.count_nil]
        omega
  | made index image world number context there answered =>
      have making := (making_perm _ _ _ there).count_eq id
      rcases make_cases world before.factory number with ⟨path, made, pool, _⟩ | ⟨fault, refused, _⟩
      · cases answered.symm.trans made
        have pool : (Backend.boxes.make world.machine before.factory number world.files).2.1.pool =
            before.factory.pool := pool
        simp [pool, making, kept, keeps, Member.new, Shared.new, List.count_cons]
        omega
      · cases answered.symm.trans refused
  | member index act old new there moved =>
      have here := holding old (List.mem_of_getElem? there)
      have split := congrArg (List.count id) (here.handed_or_kept (carried here.kept moved))
      obtain ⟨front, back, members, replaced⟩ := kept_replace index old new there
      have free : (before.replace Backend.boxes index old new).factory.pool.free =
          before.factory.pool.free ++ (handed old.context new.context).toList := release_free _ _ _
      have making : (before.replace Backend.boxes index old new).making = before.making := rfl
      simp only [kept, members, replaced, kept_split, free, making, List.count_append] at split ⊢
      omega

theorem setup_events_own (world : World) (factory : Factory) (id : Nat) :
    ∀ event ∈ setupEvents world factory id, event.id = id := by
  intro event member
  simp only [setupEvents] at member
  split at member
  · rw [List.mem_singleton.mp member]
    rfl
  · cases member

/-- An ID with a context that is being made is nowhere else. -/
theorem apart_making (apart : (ids site).Nodup) (index number : Nat) (there : site.making[index]? = some number) :
    (∀ id ∈ site.factory.pool.free ++ site.making.eraseIdx index, id ≠ number) ∧
      ∀ member ∈ site.members, number ∉ keeps member.context := by
  have front : (ids site).Perm (number :: (site.factory.pool.free ++ site.making.eraseIdx index ++ kept site)) := by
    have making := ((making_perm _ _ _ there).append_left site.factory.pool.free).append_right (kept site)
    exact making.trans (by simp)
  obtain ⟨alone, _⟩ := List.nodup_cons.mp (front.nodup_iff.mp apart)
  refine ⟨fun id found same => alone (List.mem_append_left _ (same ▸ found)), fun member found mine => ?_⟩
  exact alone (List.mem_append_right _ (List.mem_filterMap.mpr ⟨member, found, mine⟩))

/-- An ID that a context keeps is nowhere else. -/
theorem apart_member (apart : (ids site).Nodup) (front back : List (Member Boxed)) (old : Member Boxed)
    (members : site.members = front ++ old :: back) (id : Nat) (mine : id ∈ keeps old.context) :
    id ∉ site.factory.pool.free ++ site.making ∧ ∀ member ∈ front ++ back, id ∉ keeps member.context := by
  have single : (keeps old.context).toList = [id] := by rw [Option.mem_def.mp mine]; rfl
  have first : (ids site).Perm (id :: (site.factory.pool.free ++ site.making ++
      (front ++ back).filterMap fun member => keeps member.context)) := by
    rw [ids, kept, members, kept_split, single, List.filterMap_append]
    refine List.perm_iff_count.mpr fun other => ?_
    simp only [List.count_append, List.count_cons, List.count_nil]
    omega
  obtain ⟨alone, _⟩ := List.nodup_cons.mp (first.nodup_iff.mp apart)
  refine ⟨fun found => alone (List.mem_append_left _ found), fun member found mine => ?_⟩
  exact alone (List.mem_append_right _ (List.mem_filterMap.mpr ⟨member, found, mine⟩))

-- What happens to an ID that is being made does not concern those of others.
theorem others_calm (sound : Sound log before) (index number : Nat) (there : before.making[index]? = some number)
    (events : Log) (own : ∀ event ∈ events, event.id = number) :
    (∀ id ∈ before.factory.pool.free ++ before.making.eraseIdx index, Calm (events ++ log) id) ∧
      ∀ member ∈ before.members, Holding (events ++ log) member := by
  obtain ⟨apart, alone⟩ := apart_making sound.apart index number there
  refine ⟨fun id found => ?_, fun member found => ?_⟩
  · refine (calm_append events log id fun event happened same => ?_).mpr (sound.calm id ?_)
    · exact apart id found (same.symm.trans (own event happened))
    · rcases List.mem_append.mp found with free | making
      · exact List.mem_append_left _ free
      · exact List.mem_append_right _ (List.mem_of_mem_eraseIdx making)
  · exact (sound.holding member found).others events fun event happened mine =>
      alone member found (own event happened ▸ mine)

theorem sound_refused (sound : Sound log before) (index : Nat) (image : Bytes) (world : World) (number : Nat)
    (fault : Fault) (there : before.making[index]? = some number)
    (answered : (Backend.boxes.make world.machine before.factory number world.files).1 = .error fault) :
    (∀ id ∈ (Backend.boxes.make world.machine before.factory number world.files).2.1.pool.free ++
        before.making.eraseIdx index, Calm (events before (.make index image world) ++ log) id) ∧
      ∀ member ∈ before.members, Holding (events before (.make index image world) ++ log) member := by
  have happened : events before (.make index image world) = setupEvents world before.factory number := by
    simp [events, there]
  rw [happened]
  obtain ⟨others, holding⟩ := others_calm sound index number there _ (setup_events_own world before.factory number)
  refine ⟨fun id found => ?_, holding⟩
  rcases make_cases world before.factory number with ⟨path, made, _⟩ | ⟨_, _, pool, astray⟩
  · cases answered.symm.trans made
  · have back : id ∈ before.factory.pool.free ++ before.making.eraseIdx index ∨ id = number := by
      have pool : (Backend.boxes.make world.machine before.factory number world.files).2.1.pool =
          before.factory.pool.giveBack number := pool
      simp only [pool, Box.Pool.giveBack, Box.Pool.push, Box.Pool.release, List.mem_append,
        List.mem_singleton] at found ⊢
      tauto
    rcases back with other | rfl
    · exact others id other
    · rcases astray with none | astray
      · rw [none]
        exact sound.calm id (List.mem_append_right _ (List.mem_of_getElem? there))
      · rw [astray]
        exact calm_astray log id

theorem sound_made (sound : Sound log before) (index : Nat) (image : Bytes) (world : World) (number : Nat)
    (context : Boxed) (there : before.making[index]? = some number)
    (answered : (Backend.boxes.make world.machine before.factory number world.files).1 = .ok context) :
    (∀ id ∈ (Backend.boxes.make world.machine before.factory number world.files).2.1.pool.free ++
        before.making.eraseIdx index, Calm (events before (.make index image world) ++ log) id) ∧
      ∀ member ∈ before.members ++ [.new context image],
        Holding (events before (.make index image world) ++ log) member := by
  have happened : events before (.make index image world) = setupEvents world before.factory number := by
    simp [events, there]
  rw [happened]
  obtain ⟨others, holding⟩ := others_calm sound index number there _ (setup_events_own world before.factory number)
  rcases make_cases world before.factory number with ⟨path, made, pool, _⟩ | ⟨fault, refused, _⟩
  · cases answered.symm.trans made
    have pool : (Backend.boxes.make world.machine before.factory number world.files).2.1.pool =
        before.factory.pool := pool
    refine ⟨by rwa [pool], fun member found => ?_⟩
    rcases List.mem_append.mp found with old | new
    · exact holding member old
    · cases List.mem_singleton.mp new
      refine ⟨Member.kept_new Backend.boxes _ image rfl, fun _ _ => rfl, ?_, fun id mine gone => by cases gone⟩
      rintro (closed | held)
      · cases closed
      · cases held
  · cases answered.symm.trans refused

theorem sound_member (sound : Sound log before) (index : Nat) (act : Member.Act) (old new : Member Boxed)
    (there : before.members[index]? = some old) (moved : Member.Moved Backend.boxes old act new) :
    (∀ id ∈ (before.replace Backend.boxes index old new).factory.pool.free ++ before.making,
        Calm (events before (.member index act) ++ log) id) ∧
      ∀ member ∈ (before.replace Backend.boxes index old new).members,
        Holding (events before (.member index act) ++ log) member := by
  have happened : events before (.member index act) = memberEvents old act := by simp [events, there]
  rw [happened]
  have here := sound.holding old (List.mem_of_getElem? there)
  have carried := carried here.kept moved
  have mine := here.events_mine moved
  obtain ⟨front, back, members, replaced⟩ := kept_replace index old new there
  refine ⟨fun id found => ?_, fun member found => ?_⟩
  · have free : (before.replace Backend.boxes index old new).factory.pool.free =
        before.factory.pool.free ++ (handed old.context new.context).toList := release_free _ _ _
    have place : id ∈ before.factory.pool.free ++ before.making ∨ id ∈ handed old.context new.context := by
      simp only [free, List.mem_append, Option.mem_toList] at found ⊢
      tauto
    rcases place with other | given
    · refine (calm_append _ log id fun event happened same => ?_).mpr (sound.calm id other)
      exact (apart_member sound.apart front back old members id (same ▸ mine event happened)).1 other
    · have was : id ∈ (keeps old.context).toList := by
        rw [← here.handed_or_kept carried]
        exact List.mem_append_left _ (Option.mem_toList.mpr given)
      have gone := (here.step moved).cleaned (.inl (handed_destroyed _ _ id given))
      exact here.calm_after carried.box id (Option.mem_toList.mp was) gone
  · rw [replaced] at found
    have place : member ∈ front ++ back ∨ member = new := by
      simp only [List.mem_append, List.mem_cons] at found ⊢
      tauto
    rcases place with other | rfl
    · have known : member ∈ before.members := by
        rw [members]
        simp only [List.mem_append, List.mem_cons] at other ⊢
        tauto
      exact (sound.holding member known).others _ fun event happened =>
        (apart_member sound.apart front back old members event.id (mine event happened)).2 member other
    · exact here.step moved

theorem sound_step (sound : Sound log before) (moved : Site.Moved Backend.boxes before act after) :
    Sound (events before act ++ log) after := by
  have apart := (ids_perm sound.holding moved).nodup_iff.mpr sound.apart
  cases moved with
  | reserved world number factory found =>
      refine ⟨apart, fun id place => sound.calm id ?_, sound.holding⟩
      rw [reserve_takes _ _ _ _ found]
      simp only [List.mem_append, List.mem_cons, List.not_mem_nil, or_false] at place ⊢
      tauto
  | refused index image world number fault there answered =>
      obtain ⟨calm, holding⟩ := sound_refused sound index image world number fault there answered
      exact ⟨apart, calm, holding⟩
  | made index image world number context there answered =>
      obtain ⟨calm, holding⟩ := sound_made sound index image world number context there answered
      exact ⟨apart, calm, holding⟩
  | member index act old new there moved =>
      obtain ⟨calm, holding⟩ := sound_member sound index act old new there moved
      exact ⟨apart, calm, holding⟩

end Sites

/-- A factory with its contexts, and what the keeper did well for them. -/
structure History where
  site : Site Factory Boxed
  log : Log

namespace History
variable {before after history : History}

section Steps

def start (settings : Settings) : History :=
  { site := .start (.ofSettings settings), log := [] }

def step? (history : History) (act : Site.Act) : Option History :=
  (history.site.step? Backend.boxes act).map fun site =>
    { site, log := events history.site act ++ history.log }

def run? (history : History) : List Site.Act → Option History
  | [] => some history
  | act :: rest => (history.step? act).bind fun history => history.run? rest

/-- No free ID has a box: after the keeper last set it up it has taken it away. -/
def FreeAreDown (history : History) : Prop :=
  ∀ id ∈ history.site.factory.pool.free, isUp history.log id = false

end Steps

theorem step_moved (act : Site.Act) (taken : before.step? act = some after) :
    Site.Moved Backend.boxes before.site act after.site ∧ after.log = events before.site act ++ before.log := by
  obtain ⟨site, stepped, rfl⟩ := Option.map_eq_some_iff.mp taken
  exact ⟨Site.step_moved Backend.boxes act stepped, rfl⟩

theorem stepwise : Stepwise step? run? :=
  ⟨fun _ => rfl, fun _ _ _ => rfl⟩

theorem sound_start (settings : Settings) : Sound [] (Site.start (Factory.ofSettings settings)) where
  apart := by
    have whole : ids (Site.start (Factory.ofSettings settings)) = (Factory.ofSettings settings).pool.free := by
      simp [ids, kept, Site.start]
    rw [whole]
    exact Box.Sharing.new_nodup settings.sandbox.firstBoxId settings.sandbox.boxCount
  calm id _ := by simp [Calm, last?]
  holding _ none := by cases none

theorem sound_run (settings : Settings) (acts : List Site.Act)
    (ran : (start settings).run? acts = some history) : Sound history.log history.site := by
  refine stepwise.preserves (fun now => Sound now.log now.site) (fun act before after sound taken => ?_) acts ?_ ran
  · obtain ⟨moved, log⟩ := step_moved act taken
    rw [log]
    exact sound_step sound moved
  · exact sound_start settings

/-- What was done stays in the log. -/
theorem log_grows (acts : List Site.Act) (event : Event) (member : event ∈ before.log)
    (ran : before.run? acts = some after) : event ∈ after.log := by
  refine stepwise.preserves (fun now => event ∈ now.log) (fun act before after old taken => ?_) acts member ran
  rw [(step_moved act taken).2]
  exact List.mem_append_right _ old

theorem astray_of_setup (world : World) (factory : Factory) (id other : Nat)
    (astray : .setUp other false ∈ setupEvents world factory id) :
    other = id ∧ setupEvents world factory id = [.setUp id false] ∧
      (factory.make world.machine id world.files).2.1.pool = factory.pool.giveBack id := by
  rcases make_cases world factory id with ⟨path, _, _, events⟩ | ⟨fault, _, pool, events | events⟩
  · rw [events] at astray
    cases List.mem_singleton.mp astray
  · rw [events] at astray
    cases astray
  · rw [events] at astray
    cases List.mem_singleton.mp astray
    exact ⟨rfl, events, pool⟩

/-- A box that is set up at a place that is not there is left standing, and its ID is free at once. -/
theorem astray_is_free (act : Site.Act) (sound : Sound before.log before.site) (taken : before.step? act = some after)
    (id : Nat) (astray : .setUp id false ∈ events before.site act) : ¬ after.FreeAreDown := by
  obtain ⟨moved, log⟩ := step_moved act taken
  have setup (index number : Nat) (image : Bytes) (world : World)
      (there : before.site.making[index]? = some number)
      (happened : act = .make index image world)
      (factory : after.site.factory = (before.site.factory.make world.machine number world.files).2.1) :
      ¬ after.FreeAreDown := by
    subst happened
    have happened : events before.site (.make index image world) =
        setupEvents world before.site.factory number := by simp [events, there]
    rw [happened] at astray log
    obtain ⟨rfl, only, pool⟩ := astray_of_setup world before.site.factory number id astray
    have free : id ∈ after.site.factory.pool.free := by
      simp [factory, pool, Box.Pool.giveBack, Box.Pool.push, Box.Pool.release]
    intro down
    have up := down id free
    rw [log, only, List.singleton_append, up_astray] at up
    cases up
  generalize reached : after.site = site at moved
  cases moved with
  | reserved world number factory found => cases astray
  | refused index image world number fault there answered =>
      exact setup index number image world there rfl (by rw [reached]; rfl)
  | made index image world number context there answered =>
      exact setup index number image world there rfl (by rw [reached]; rfl)
  | member index act old new there moved =>
      have happened : events before.site (.member index act) = memberEvents old act := by simp [events, there]
      rw [happened] at astray
      have here := sound.holding old (List.mem_of_getElem? there)
      cases ((carried here.kept moved).box.events_own _ astray).2

/-- If the free IDs are down at every moment of a run, nothing was set up at a place that is not there. -/
theorem no_astray_of_down (acts : List Site.Act) (sound : Sound before.log before.site)
    (ran : before.run? acts = some after)
    (down : ∀ count now, before.run? (acts.take count) = some now → now.FreeAreDown) (id : Nat)
    (astray : .setUp id false ∈ after.log) : .setUp id false ∈ before.log := by
  induction acts generalizing before with
  | nil =>
      cases ran
      exact astray
  | cons act rest ih =>
      obtain ⟨middle, taken, later⟩ := Option.bind_eq_some_iff.mp ran
      obtain ⟨moved, log⟩ := step_moved act taken
      have first : before.run? ((act :: rest).take 1) = some middle := by
        rw [List.take_succ_cons, List.take_zero, run?, taken]
        rfl
      have onward (count : Nat) (now : History) (reached : middle.run? (rest.take count) = some now) :
          now.FreeAreDown := by
        refine down (count + 1) now ?_
        rw [List.take_succ_cons, run?, taken]
        exact reached
      have stepped : Sound middle.log middle.site := by
        rw [log]
        exact sound_step sound moved
      have inMiddle := ih stepped later onward
      rw [log] at inMiddle
      rcases List.mem_append.mp inMiddle with new | old
      · exact absurd (down 1 middle first) (astray_is_free act sound taken id new)
      · exact old

theorem down_of_sound (sound : Sound history.log history.site) (none : ∀ id, .setUp id false ∉ history.log) :
    history.FreeAreDown :=
  fun id free => (sound.calm id (List.mem_append_left _ free)).down none

theorem live_of_unremoved {member : Member Boxed} (kept : Member.Kept Backend.boxes member)
    (unremoved : .ok () ∉ member.shared.removals) : member.context.destroyed = false := by
  cases kept with
  | present _ _ disposal _ =>
      cases disposal with
      | intact _ _ live _ _ _ => exact live
      | going removed _ _ _ _ _ _ _ => exact absurd removed unremoved
      | gone removed _ _ _ _ _ => exact absurd removed unremoved
  | destroyed _ _ _ removed _ _ _ => exact absurd removed unremoved
  | forsaken _ _ _ _ live => exact live

/-- The free IDs of a factory are down at every moment of a run if and only if the keeper never set up a box at
a place that is not there; and the ID of a context whose box no call of destroy could take away is neither free
nor with a context that is being made. -/
theorem free_ids_down_iff (settings : Settings) (acts : List Site.Act) (history : History)
    (ran : (start settings).run? acts = some history) :
    ((∀ count now, (start settings).run? (acts.take count) = some now → now.FreeAreDown) ↔
      ∀ id, .setUp id false ∉ history.log) ∧
    ∀ member ∈ history.site.members, .ok () ∉ member.shared.removals →
      member.context.box.id ∉ history.site.factory.pool.free ∧
        member.context.box.id ∉ history.site.making := by
  constructor
  · constructor
    · intro down id astray
      cases no_astray_of_down acts (sound_start settings) ran down id astray
    · intro none count now reached
      have whole : ((start settings).run? (acts.take count)).bind (·.run? (acts.drop count)) = some history := by
        rwa [← stepwise.append, List.take_append_drop]
      obtain ⟨middle, same, onward⟩ := Option.bind_eq_some_iff.mp whole
      cases reached.symm.trans same
      exact down_of_sound (sound_run settings _ reached) fun id astray => none id (log_grows _ _ astray onward)
  · intro member found unremoved
    have sound := sound_run settings acts ran
    have keeping : keeps member.context = some member.context.box.id := by
      simp [keeps, live_of_unremoved (sound.holding member found).kept unremoved]
    obtain ⟨index, there⟩ := List.mem_iff_getElem?.mp found
    obtain ⟨front, back, members, _⟩ := kept_replace index member member there
    have apart := (apart_member sound.apart front back member members _ (Option.mem_def.mpr keeping)).1
    exact ⟨fun free => apart (List.mem_append_left _ free), fun making => apart (List.mem_append_right _ making)⟩

-- A keeper of boxes that names a place, and a directory for it to be found in.
def naming (place : Bytes) : World where
  machine := { search := ["/b"], program? := fun _ => some fun _ files => ⟨files, place, [], .exit 0⟩ }
  files := ⟨[(["b"], .directory), (["b", "isolate"], .file [] Files.programMode)], []⟩

def oneBox : Settings :=
  { Settings.defaults with sandbox := { SandboxSettings.defaults with firstBoxId := 40, boxCount := 1 } }

-- A context is made and destroyed.
def madeAndDestroyed : List Site.Act :=
  let world := naming [0x2f, 0x62, 0x0a]
  let destroy : List Shared.Act := [.call, .enter] ++ List.replicate 7 (.teardown world)
  [.reserve world, .make 0 [] world] ++ destroy.map fun act => .member 0 (.use act)

theorem free_ids_down_after_destroy :
    ∃ history, (start oneBox).run? madeAndDestroyed = some history ∧
      history.site.factory.pool.free = [40] ∧ history.log = [.takenAway 40, .setUp 40 true] ∧
      ∀ count now, (start oneBox).run? (madeAndDestroyed.take count) = some now → now.FreeAreDown := by
  have runs : ((start oneBox).run? madeAndDestroyed).map
      (fun history => (history.site.factory.pool.free, history.log)) =
        some ([40], [.takenAway 40, .setUp 40 true]) := by decide +kernel
  obtain ⟨history, ran, same⟩ := Option.map_eq_some_iff.mp runs
  obtain ⟨free, log⟩ := Prod.mk.inj same
  exact ⟨history, ran, free, log, (free_ids_down_iff oneBox _ history ran).1.mpr (by simp [log])⟩

-- The keeper ends well, but there is nothing at the place it names.
def misplaced : List Site.Act :=
  let world := naming [0x2f, 0x6e, 0x0a]
  [.reserve world, .make 0 [] world]

theorem misplaced_box_is_left_up :
    ∃ history, (start oneBox).run? misplaced = some history ∧ history.log = [.setUp 40 false] ∧
      ¬ history.FreeAreDown := by
  have runs : ((start oneBox).run? misplaced).map
      (fun history => (history.site.factory.pool.free, history.log)) =
        some ([40], [.setUp 40 false]) := by decide +kernel
  obtain ⟨history, ran, same⟩ := Option.map_eq_some_iff.mp runs
  obtain ⟨free, log⟩ := Prod.mk.inj same
  refine ⟨history, ran, log, fun down => ?_⟩
  have up := down 40 (by simp [free])
  rw [log] at up
  cases up

end History
end SnippetRunner.Context.Boxed

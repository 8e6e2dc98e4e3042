import SnippetRunner.Proofs.Teardown.OneProgram
import SnippetRunner.Proofs.Teardown.Site

/-!
What destroying contexts comes to. A removal succeeds once and is not tried again; calls of destroy that come
later do nothing; a call that fails leaves all as it was, for a later call to succeed. The factory stops
counting a context once, when it is destroyed or else when it is let go of, so the count is that of the contexts
that are neither.
-/

namespace SnippetRunner.Context
open Run (Slot)
variable {φ κ : Type} (backend : Backend φ κ)

namespace Shared

section Disposal

/-- The removal has succeeded, and the call has not answered yet. -/
def Phase.isLate : Phase → Bool
  | .closing => true
  | .returning => true
  | .uncounting => true
  | _ => false

/-- How far the disposal of a context has come. -/
inductive Disposal (made : κ) (shared : Shared κ) : Prop where
  | intact (unremoved : .ok () ∉ shared.removals) (unanswered : .ok () ∉ shared.answers)
      (live : (shared.standing backend).destroyed = false)
      (counted : (shared.standing backend).counted = true)
      (same : shared.context = backend.restand made (shared.standing backend))
      (early : ∀ phase ∈ shared.lock, phase.isLate = false)
  | going (removed : .ok () ∈ shared.removals) (once : .ok () ∉ shared.removals.tail)
      (unanswered : .ok () ∉ shared.answers)
      (counted : (shared.standing backend).counted = true) (phase : Phase) (held : shared.lock = some phase)
      (late : phase.isLate = true)
      (closed : (shared.standing backend).destroyed = true ↔ phase ≠ .closing)
  | gone (removed : .ok () ∈ shared.removals) (once : .ok () ∉ shared.removals.tail)
      (answered : .ok () ∈ shared.answers)
      (destroyed : (shared.standing backend).destroyed = true)
      (uncounted : (shared.standing backend).counted = false)
      (idle : ∀ phase ∈ shared.lock, phase = .looking)

end Disposal

section Steps
variable {made : κ} {act : Act} {before after : Shared κ}

/-- Acts of others than callers of destroy. -/
def Act.isTeardown : Act → Bool
  | .enter => true
  | .teardown _ => true
  | _ => false

/-- Others than callers of destroy change the slot and the mark of the load, and nothing that calls of destroy
look at. -/
theorem Moved.others_keep (moved : Moved backend before act after) (other : act.isTeardown = false) :
    (∃ slot loaded, after.context = backend.restand before.context
      { before.standing backend with slot, loaded }) ∧
    after.lock = before.lock ∧ after.removals = before.removals ∧ after.answers = before.answers := by
  have unchanged : ∃ slot loaded, before.context =
      backend.restand before.context { before.standing backend with slot, loaded } :=
    ⟨(before.standing backend).slot, (before.standing backend).loaded, (backend.restand_standing _).symm⟩
  cases moved with
  | goOn world worker left on => exact ⟨unchanged, rfl, rfl, rfl⟩
  | mark world left => exact ⟨⟨_, true, rfl⟩, rfl, rfl, rfl⟩
  | launch world ending left allowed => exact ⟨⟨_, _, rfl⟩, rfl, rfl, rfl⟩
  | still world left => exact ⟨unchanged, rfl, rfl, rfl⟩
  | gone world left empty => exact ⟨unchanged, rfl, rfl, rfl⟩
  | returned world ending left there past => exact ⟨⟨_, _, rfl⟩, rfl, rfl, rfl⟩
  | finish index child there running => exact ⟨unchanged, rfl, rfl, rfl⟩
  | call => exact ⟨unchanged, rfl, rfl, rfl⟩
  | enter others free callers => cases other
  | idle world held destroyed => cases other
  | look world held live => cases other
  | stop world held => cases other
  | reap world child held => cases other
  | removed world context held answered left => cases other
  | kept world fault held answered => cases other
  | close world held => cases other
  | handBack world held => cases other
  | uncount world held => cases other

theorem Disposal.kept_by_others (disposal : Disposal backend made before)
    (moved : Moved backend before act after) (other : act.isTeardown = false) : Disposal backend made after := by
  obtain ⟨⟨slot, loaded, context⟩, lock, removals, answers⟩ := moved.others_keep backend other
  cases disposal with
  | intact unremoved unanswered live counted same early =>
      refine .intact (by rwa [removals]) (by rwa [answers]) (by simpa [context] using live)
        (by simpa [context] using counted) ?_ (by rwa [lock])
      rw [standing, context]
      exact backend.restand_of_same same _
  | going removed once unanswered counted phase held late closed =>
      exact .going (by rwa [removals]) (by rwa [removals]) (by rwa [answers]) (by simpa [context] using counted)
        phase (by rwa [lock]) late (by simpa [context] using closed)
  | gone removed once answered destroyed uncounted idle =>
      exact .gone (by rwa [removals]) (by rwa [removals]) (by rwa [answers]) (by simpa [context] using destroyed)
        (by simpa [context] using uncounted) (by rwa [lock])

/-- A step of a call of destroy before its removal leaves what is to be removed as it was. -/
theorem Disposal.intact_of_early (disposal : Disposal backend made before) (phase : Phase)
    (held : before.lock = some phase) (early : phase.isLate = false) (other : phase ≠ .looking) :
    .ok () ∉ before.removals ∧ .ok () ∉ before.answers ∧ (before.standing backend).destroyed = false ∧
      (before.standing backend).counted = true ∧
      before.context = backend.restand made (before.standing backend) := by
  cases disposal with
  | intact unremoved unanswered live counted same _ => exact ⟨unremoved, unanswered, live, counted, same⟩
  | going _ _ _ _ found here late _ =>
      rw [held] at here
      cases here
      rw [early] at late
      cases late
  | gone _ _ _ _ _ idle => exact absurd (idle phase held) other

theorem Disposal.going_of_late (disposal : Disposal backend made before) (phase : Phase)
    (held : before.lock = some phase) (late : phase.isLate = true) :
    .ok () ∈ before.removals ∧ .ok () ∉ before.removals.tail ∧ .ok () ∉ before.answers ∧
      (before.standing backend).counted = true ∧ ((before.standing backend).destroyed = true ↔ phase ≠ .closing) := by
  cases disposal with
  | intact _ _ _ _ _ early =>
      rw [early phase held] at late
      cases late
  | going removed once unanswered counted found here _ closed =>
      rw [held] at here
      cases here
      exact ⟨removed, once, unanswered, counted, closed⟩
  | gone _ _ _ _ _ idle =>
      rw [idle phase held] at late
      cases late

theorem Disposal.step (disposal : Disposal backend made before) (moved : Moved backend before act after) :
    Disposal backend made after := by
  cases other : act.isTeardown with
  | false => exact disposal.kept_by_others backend moved other
  | true =>
      cases moved with
      | enter others free callers =>
          cases disposal with
          | intact unremoved unanswered live counted same _ =>
              exact .intact unremoved unanswered live counted same (by simp [Phase.isLate])
          | going _ _ _ _ _ here _ _ =>
              rw [free] at here
              cases here
          | gone removed once answered destroyed uncounted _ =>
              exact .gone removed once answered destroyed uncounted (by simp)
      | idle world held destroyed =>
          cases disposal with
          | intact _ _ live _ _ _ =>
              rw [destroyed] at live
              cases live
          | going _ _ _ _ _ here late _ =>
              rw [held] at here
              cases here
              cases late
          | gone removed once _ destroyed uncounted _ =>
              exact .gone removed once (List.mem_cons_self ..) destroyed uncounted (by simp [Shared.answer])
      | look world held live =>
          cases disposal with
          | intact unremoved unanswered live counted same _ =>
              exact .intact unremoved unanswered live counted same (by simp [Phase.isLate])
          | going _ _ _ _ _ here late _ =>
              rw [held] at here
              cases here
              cases late
          | gone _ _ _ destroyed _ _ =>
              rw [destroyed] at live
              cases live
      | stop world held =>
          obtain ⟨unremoved, unanswered, live, counted, same⟩ :=
            disposal.intact_of_early backend _ held rfl (by simp)
          exact .intact unremoved unanswered (by simpa [Standing.stopped] using live)
            (by simpa [Standing.stopped] using counted) (backend.restand_of_same same _)
            (by simp [Phase.isLate, Shared.stop])
      | reap world child held =>
          obtain ⟨unremoved, unanswered, live, counted, same⟩ :=
            disposal.intact_of_early backend _ held rfl (by simp)
          exact .intact unremoved unanswered live counted same (by simp [Phase.isLate, Shared.reap])
      | removed world context held answered left =>
          obtain ⟨unremoved, unanswered, live, counted, same⟩ :=
            disposal.intact_of_early backend _ held rfl (by simp)
          subst left
          exact .going (List.mem_cons_self ..) unremoved unanswered (by simpa using counted) .closing rfl rfl
            (by simpa using live)
      | kept world fault held answered =>
          obtain ⟨unremoved, unanswered, live, counted, same⟩ :=
            disposal.intact_of_early backend _ held rfl (by simp)
          exact .intact (by simpa [Shared.answer] using unremoved) (by simpa [Shared.answer] using unanswered)
            live counted same (by simp [Shared.answer])
      | close world held =>
          obtain ⟨removed, once, unanswered, counted, closed⟩ := disposal.going_of_late backend _ held rfl
          exact .going removed once unanswered (by simpa using counted) .returning rfl rfl (by simp)
      | handBack world held =>
          obtain ⟨removed, once, unanswered, counted, closed⟩ := disposal.going_of_late backend _ held rfl
          have destroyed : (before.standing backend).destroyed = true := closed.mpr (by simp)
          exact .going removed once unanswered (by simpa using counted) .uncounting rfl rfl (by simpa using destroyed)
      | uncount world held =>
          obtain ⟨removed, once, unanswered, counted, closed⟩ := disposal.going_of_late backend _ held rfl
          have destroyed : (before.standing backend).destroyed = true := closed.mpr (by simp)
          exact .gone removed once (List.mem_cons_self ..) (by simpa using destroyed) (by simp)
            (by simp [Shared.answer])
      | _ => cases other

theorem Disposal.new (context : κ) (image : Bytes) (fresh : backend.standing context = .fresh) :
    Disposal backend context (new context image) := by
  have same : context = backend.restand context (backend.standing context) := (backend.restand_standing _).symm
  have live : (backend.standing context).destroyed = false := by rw [fresh]; rfl
  have counted : (backend.standing context).counted = true := by rw [fresh]; rfl
  exact .intact List.not_mem_nil List.not_mem_nil live counted same (by simp [Shared.new])

/-- Nothing counts a context again. -/
theorem Moved.counted_before (moved : Moved backend before act after)
    (counted : (after.standing backend).counted = true) : (before.standing backend).counted = true := by
  cases moved with
  | removed world context held answered left =>
      subst left
      simpa using counted
  | uncount world held => simp [Shared.answer] at counted
  | _ => simpa [Standing.stopped] using counted

theorem Moved.unremoved_before (moved : Moved backend before act after)
    (unremoved : .ok () ∉ after.removals) : .ok () ∉ before.removals := by
  cases moved with
  | removed world context held answered left => exact absurd (List.mem_cons_self ..) unremoved
  | kept world fault held answered => exact fun ok => unremoved (List.mem_cons_of_mem _ ok)
  | _ => exact unremoved

end Steps

section Settled
variable {act : Act} {first before after : Shared κ}

/-- What has been destroyed is as it was but for a load that was under way, and calls of destroy have answered
that all is well. -/
structure SameSince (first now : Shared κ) : Prop where
  removals : now.removals = first.removals
  answers : ∃ more, now.answers = List.replicate more (.ok ()) ++ first.answers
  context : ∃ loaded, now.context = backend.restand first.context { backend.standing first.context with loaded }

structure Settled (first now : Shared κ) : Prop extends SameSince backend first now where
  halted : Halted backend now
  destroyed : (now.standing backend).destroyed = true
  idle : ∀ phase ∈ now.lock, phase = .looking

theorem Settled.step (settled : Settled backend first before) (moved : Moved backend before act after) :
    Settled backend first after := by
  have halted := moved.halted_stays backend settled.halted
  have destroyed := moved.destroyed_stays backend settled.destroyed
  obtain ⟨⟨removals, ⟨more, answers⟩, ⟨loaded, context⟩⟩, ⟨terminated, empty, past⟩, live, idle⟩ := settled
  cases moved with
  | mark world left =>
      refine ⟨⟨removals, ⟨more, answers⟩, ⟨true, ?_⟩⟩, halted, destroyed, idle⟩
      show backend.mark before.context = _
      rw [Backend.mark, context, backend.restand_restand, backend.standing_restand]
  | launch world ending left allowed =>
      rw [terminated] at allowed
      cases allowed
  | returned world ending left there ended =>
      rw [empty] at there
      cases there
  | enter others free callers =>
      exact ⟨⟨removals, ⟨more, answers⟩, ⟨loaded, context⟩⟩, halted, destroyed, by simp⟩
  | idle world held _ =>
      have next : .ok () :: before.answers = List.replicate (more + 1) (.ok ()) ++ first.answers := by
        rw [answers]
        rfl
      exact ⟨⟨removals, ⟨more + 1, next⟩, ⟨loaded, context⟩⟩, halted, destroyed, by simp [Shared.answer]⟩
  | look world held open_ =>
      rw [live] at open_
      cases open_
  | stop world held => cases idle _ held
  | reap world child held => cases idle _ held
  | removed world context held answered left => cases idle _ held
  | kept world fault held answered => cases idle _ held
  | close world held => cases idle _ held
  | handBack world held => cases idle _ held
  | uncount world held => cases idle _ held
  | goOn world worker left on => exact ⟨⟨removals, ⟨more, answers⟩, ⟨loaded, context⟩⟩, halted, destroyed, idle⟩
  | still world left => exact ⟨⟨removals, ⟨more, answers⟩, ⟨loaded, context⟩⟩, halted, destroyed, idle⟩
  | gone world left gone => exact ⟨⟨removals, ⟨more, answers⟩, ⟨loaded, context⟩⟩, halted, destroyed, idle⟩
  | finish index child there running =>
      exact ⟨⟨removals, ⟨more, answers⟩, ⟨loaded, context⟩⟩, halted, destroyed, idle⟩
  | call => exact ⟨⟨removals, ⟨more, answers⟩, ⟨loaded, context⟩⟩, halted, destroyed, idle⟩

theorem Settled.run (settled : Settled backend first before) (acts : List Act)
    (ran : before.run? backend acts = some after) : Settled backend first after :=
  run_preserves backend (Settled backend first) (fun _ _ _ stays moved => stays.step backend moved) acts settled ran

theorem Disposal.settled {made : κ} {shared : Shared κ} (disposal : Disposal backend made shared)
    (sound : Sound backend shared) (answered : .ok () ∈ shared.answers) : Settled backend shared shared := by
  cases disposal with
  | intact _ unanswered _ _ _ _ => exact absurd answered unanswered
  | going _ _ unanswered _ _ _ _ _ => exact absurd answered unanswered
  | gone _ _ _ destroyed _ idle =>
      have same : shared.context = backend.restand shared.context
          { backend.standing shared.context with loaded := (backend.standing shared.context).loaded } :=
        (backend.restand_standing _).symm
      exact ⟨⟨rfl, ⟨0, rfl⟩, ⟨_, same⟩⟩, sound.answered answered, destroyed, idle⟩

/-- A call of destroy that finds the lock free and its removal possible answers that all is well. -/
theorem destroy_can_succeed (shared : Shared κ) (world : World) (free : shared.lock = none)
    (removable : (backend.remove world.machine (backend.stop shared.context) world.files).1 = .ok ()) :
    ∃ acts later, shared.run? backend acts = some later ∧ .ok () ∈ later.answers := by
  obtain ⟨acts, later, ran, _, _, answers⟩ := destroy_undisturbed backend shared world free
  have ok : (backend.destroy world.machine shared.context world.files).1 = .ok () := by
    rcases removed : backend.remove world.machine (backend.stop shared.context) world.files with ⟨_ | _, left, after⟩
    · rw [removed] at removable
      cases removable
    · cases destroyed : (backend.standing shared.context).destroyed <;> simp [Backend.destroy, destroyed, removed]
  exact ⟨acts, later, ran, by rw [answers, ok]; exact List.mem_cons_self ..⟩

end Settled
end Shared

namespace Member

section Order
variable {act : Act} {before after member : Member κ}

/-- How a context stands with those who dispose of it. -/
inductive Kept (member : Member κ) : Prop where
  | present (there : member.dropped = false) (unswept : member.swept = none)
      (disposal : Shared.Disposal backend member.made member.shared)
      (sound : Shared.Sound backend member.shared)
  | destroyed (gone : member.dropped = true) (unswept : member.swept = none)
      (uncounted : (backend.standing member.context).counted = false)
      (removed : .ok () ∈ member.shared.removals) (once : .ok () ∉ member.shared.removals.tail)
      (answered : .ok () ∈ member.shared.answers)
      (closed : (backend.standing member.context).destroyed = true)
  | forsaken (gone : member.dropped = true)
      (uncounted : (backend.standing member.context).counted = false)
      (unremoved : .ok () ∉ member.shared.removals) (unanswered : .ok () ∉ member.shared.answers)
      (live : (backend.standing member.context).destroyed = false)

theorem kept_new (context : κ) (image : Bytes) (fresh : backend.standing context = .fresh) :
    Kept backend (new context image) :=
  .present rfl rfl (.new backend context image fresh) (Shared.sound_new backend fresh)

theorem Kept.step (kept : Kept backend before) (moved : Moved backend before act after) : Kept backend after := by
  cases moved with
  | use act shared there moved =>
      cases kept with
      | present _ unswept disposal sound =>
          exact .present there unswept (disposal.step backend moved) (Shared.sound_step backend act _ _ sound moved)
      | destroyed gone _ _ _ _ _ _ =>
          rw [there] at gone
          cases gone
      | forsaken gone _ _ _ _ =>
          rw [there] at gone
          cases gone
  | drop there free =>
      cases kept with
      | present _ unswept disposal sound =>
          cases disposal with
          | intact unremoved unanswered live counted same early =>
              exact .forsaken rfl (by simp [withContext, Standing.forgone]) unremoved unanswered
                (by simpa [withContext, Standing.forgone, Standing.stopped] using live)
          | going _ _ _ _ phase held _ _ =>
              rw [free] at held
              cases held
          | gone removed once answered destroyed uncounted idle =>
              exact .destroyed rfl unswept (by simp [withContext, Standing.forgone]) removed once answered
                (by simpa [withContext, Standing.forgone, Standing.stopped] using destroyed)
      | destroyed gone _ _ _ _ _ _ =>
          rw [there] at gone
          cases gone
      | forsaken gone _ _ _ _ =>
          rw [there] at gone
          cases gone
  | sweep world gone live unswept =>
      cases kept with
      | present there _ _ _ =>
          rw [there] at gone
          cases gone
      | destroyed _ _ _ _ _ _ closed =>
          rw [live] at closed
          cases closed
      | forsaken _ uncounted unremoved unanswered _ =>
          exact .forsaken gone (by simpa [withContext] using uncounted) unremoved unanswered
            (by simpa [withContext] using live)

theorem Moved.counted_before (moved : Moved backend before act after)
    (counted : (backend.standing after.context).counted = true) :
    (backend.standing before.context).counted = true := by
  cases moved with
  | use act shared there moved => exact moved.counted_before backend counted
  | drop there free => simp [withContext, Standing.forgone] at counted
  | sweep world gone live unswept => simpa [withContext] using counted

/-- The factory has stopped counting the context: it was destroyed, or else let go of. -/
def isGone (member : Member κ) : Bool :=
  member.dropped || member.shared.answers.any Except.isOk

/-- What destroying a context and letting go of it come to. -/
structure Orderly (member : Member κ) : Prop where
  once : .ok () ∉ member.removals.tail
  failing : member.dropped = false → .ok () ∉ member.shared.removals →
    (backend.standing member.context).destroyed = false ∧
      (backend.standing member.context).counted = true ∧
      member.context = backend.restand member.made (backend.standing member.context)
  retried : member.dropped = false → member.shared.lock = none → ∀ world : World,
    (backend.remove world.machine (backend.stop member.context) world.files).1 = .ok () →
      ∃ acts later, member.shared.run? backend acts = some later ∧ .ok () ∈ later.answers
  settled : member.dropped = false → .ok () ∈ member.shared.answers → ∀ acts later,
    member.shared.run? backend acts = some later → Shared.SameSince backend member.shared later

theorem isGone_iff : member.isGone = true ↔ member.dropped = true ∨ .ok () ∈ member.shared.answers := by
  simp only [isGone, Bool.or_eq_true, List.any_eq_true]
  refine or_congr Iff.rfl ⟨?_, fun ok => ⟨_, ok, rfl⟩⟩
  rintro ⟨_ | _, answered, ok⟩
  · cases ok
  · exact answered

theorem isGone_false_iff :
    member.isGone = false ↔ member.dropped = false ∧ .ok () ∉ member.shared.answers := by
  rw [← Bool.not_eq_true, isGone_iff, not_or, Bool.not_eq_true]

theorem Kept.counted_eq (kept : Kept backend member) :
    (backend.standing member.context).counted = !member.isGone := by
  cases kept with
  | present there unswept disposal sound =>
      cases disposal with
      | intact _ unanswered _ counted _ _ => exact counted.trans (by rw [isGone_false_iff.mpr ⟨there, unanswered⟩]; rfl)
      | going _ _ unanswered counted _ _ _ _ =>
          exact counted.trans (by rw [isGone_false_iff.mpr ⟨there, unanswered⟩]; rfl)
      | gone _ _ answered _ uncounted _ => exact uncounted.trans (by rw [isGone_iff.mpr (.inr answered)]; rfl)
  | destroyed gone _ uncounted _ _ _ _ => exact uncounted.trans (by rw [isGone_iff.mpr (.inl gone)]; rfl)
  | forsaken gone uncounted _ _ _ => exact uncounted.trans (by rw [isGone_iff.mpr (.inl gone)]; rfl)

/-- When no call of destroy is under way, a context is gone if it is destroyed or dropped. -/
theorem Kept.gone_eq (kept : Kept backend member) (free : member.shared.lock = none) :
    member.isGone = (member.dropped || (backend.standing member.context).destroyed) := by
  cases kept with
  | present there unswept disposal sound =>
      cases disposal with
      | intact _ unanswered live _ _ _ => rw [isGone_false_iff.mpr ⟨there, unanswered⟩, there, live]; rfl
      | going _ _ _ _ _ held _ _ =>
          rw [free] at held
          cases held
      | gone _ _ answered destroyed _ _ => rw [isGone_iff.mpr (.inr answered), there, destroyed]; rfl
  | destroyed gone _ _ _ _ _ _ => rw [isGone_iff.mpr (.inl gone), gone]; rfl
  | forsaken gone _ _ _ _ => rw [isGone_iff.mpr (.inl gone), gone]; rfl

theorem Kept.once (kept : Kept backend member) : .ok () ∉ member.removals.tail := by
  cases kept with
  | present there unswept disposal sound =>
      rw [removals, unswept]
      cases disposal with
      | intact unremoved _ _ _ _ _ => exact fun ok => unremoved (List.mem_of_mem_tail ok)
      | going _ once _ _ _ _ _ _ => exact once
      | gone _ once _ _ _ _ => exact once
  | destroyed _ unswept _ _ once _ _ =>
      rw [removals, unswept]
      exact once
  | forsaken _ _ unremoved _ _ =>
      cases swept : member.swept with
      | none =>
          rw [removals, swept]
          exact fun ok => unremoved (List.mem_of_mem_tail ok)
      | some answer =>
          rw [removals, swept]
          exact unremoved

theorem Kept.failing (kept : Kept backend member) (there : member.dropped = false)
    (unremoved : .ok () ∉ member.shared.removals) :
    (backend.standing member.context).destroyed = false ∧
      (backend.standing member.context).counted = true ∧
      member.context = backend.restand member.made (backend.standing member.context) := by
  cases kept with
  | present _ _ disposal _ =>
      cases disposal with
      | intact _ _ live counted same _ => exact ⟨live, counted, same⟩
      | going removed _ _ _ _ _ _ _ => exact absurd removed unremoved
      | gone removed _ _ _ _ _ => exact absurd removed unremoved
  | destroyed gone _ _ _ _ _ _ =>
      rw [there] at gone
      cases gone
  | forsaken gone _ _ _ _ =>
      rw [there] at gone
      cases gone

theorem Kept.orderly (kept : Kept backend member) : Orderly backend member where
  once := kept.once backend
  failing := kept.failing backend
  retried _ free world := Shared.destroy_can_succeed backend member.shared world free
  settled there answered acts later ran := by
    cases kept with
    | present _ _ disposal sound =>
        exact ((disposal.settled backend sound answered).run backend acts ran).toSameSince
    | destroyed gone _ _ _ _ _ _ =>
        rw [there] at gone
        cases gone
    | forsaken gone _ _ _ _ =>
        rw [there] at gone
        cases gone

end Order
end Member

namespace Site

section Count
variable {act : Act} {before after site : Site φ κ}

def counts (member : Member κ) : Bool :=
  (backend.standing member.context).counted

structure Sound (site : Site φ κ) : Prop where
  kept : ∀ member ∈ site.members, Member.Kept backend member
  live : backend.live site.factory = site.members.countP (counts backend)

theorem sound_start (factory : φ) (empty : backend.live factory = 0) : Sound backend (start factory : Site φ κ) :=
  ⟨fun _ none => (by cases none), empty⟩

/-- A change to one context changes the count by that context. -/
theorem live_replace (index : Nat) (old new : Member κ) (there : before.members[index]? = some old)
    (once : (backend.standing new.context).counted = true → (backend.standing old.context).counted = true)
    (live : backend.live before.factory = before.members.countP (counts backend)) :
    backend.live (before.replace backend index old new).factory =
      (before.replace backend index old new).members.countP (counts backend) := by
  obtain ⟨bound, rfl⟩ := List.getElem?_eq_some_iff.mp there
  have counted := List.countP_set (p := counts backend) (a := new) bound
  have positive : counts backend before.members[index] = true →
      0 < before.members.countP (counts backend) := fun here =>
    List.countP_pos_iff.mpr ⟨_, List.getElem_mem bound, here⟩
  rw [replace, counted, backend.live_release, live]
  cases was : (backend.standing before.members[index].context).counted <;>
    cases is : (backend.standing new.context).counted <;> simp_all [counts]

theorem sound_step (act : Act) (before after : Site φ κ) (sound : Sound backend before)
    (moved : Moved backend before act after) : Sound backend after := by
  obtain ⟨kept, live⟩ := sound
  cases moved with
  | reserved world number factory found =>
      exact ⟨kept, (backend.live_reserve _ _ _ _ found).trans live⟩
  | refused index image world number fault there answered =>
      exact ⟨kept, (backend.live_refused _ _ _ _ _ answered).trans live⟩
  | made index image world number context there answered =>
      obtain ⟨more, fresh⟩ := backend.live_made _ _ _ _ _ answered
      refine ⟨fun member found => ?_, ?_⟩
      · rcases List.mem_append.mp found with old | new
        · exact kept member old
        · rw [List.mem_singleton.mp new]
          exact Member.kept_new backend context image fresh
      · have counted : counts backend (.new context image : Member κ) = true := by
          show (backend.standing context).counted = true
          rw [fresh]
          rfl
        simp [more, live, counted]
  | member index act old new there moved =>
      refine ⟨fun member found => ?_, live_replace backend index old new there (moved.counted_before backend) live⟩
      rcases List.mem_or_eq_of_mem_set found with other | rfl
      · exact kept member other
      · exact (kept old (List.mem_of_getElem? there)).step backend moved

theorem sound_run (factory : φ) (empty : backend.live factory = 0) (acts : List Act)
    (ran : (start factory).run? backend acts = some site) : Sound backend site :=
  run_preserves backend (Sound backend) (sound_step backend) acts (sound_start backend factory empty) ran

/-- What a factory can rely on: its contexts are disposed of in order, its count is right, and failing calls of
destroy leave it alone. -/
structure Accounts (site : Site φ κ) : Prop where
  orderly : ∀ member ∈ site.members, Member.Orderly backend member
  live : backend.live site.factory + site.members.countP Member.isGone = site.members.length
  quiet : (∀ member ∈ site.members, member.shared.lock = none) → backend.live site.factory =
    site.members.countP fun member => !member.dropped && !(backend.standing member.context).destroyed
  failing (index : Nat) (act : Shared.Act) (later : Site φ κ) :
    site.step? backend (.member index (.use act)) = some later →
    (∀ member ∈ later.members[index]?, .ok () ∉ member.shared.removals) → later.factory = site.factory

theorem Sound.count_gone (sound : Sound backend site) :
    backend.live site.factory + site.members.countP Member.isGone = site.members.length := by
  have counted : site.members.countP (counts backend) = site.members.countP fun member => !member.isGone :=
    List.countP_congr fun member found => by rw [counts, (sound.kept member found).counted_eq backend]
  have all := List.length_eq_countP_add_countP Member.isGone (l := site.members)
  simp only [Bool.not_eq_true, Bool.decide_eq_false] at all
  rw [sound.live, counted]
  omega

theorem Sound.count_quiet (sound : Sound backend site)
    (quiet : ∀ member ∈ site.members, member.shared.lock = none) : backend.live site.factory =
      site.members.countP fun member => !member.dropped && !(backend.standing member.context).destroyed := by
  rw [sound.live]
  refine List.countP_congr fun member found => ?_
  have kept := sound.kept member found
  rw [counts, kept.counted_eq backend, kept.gone_eq backend (quiet member found), Bool.not_or]

/-- A step that has not removed anything leaves the factory alone. -/
theorem Sound.factory_same (sound : Sound backend site) (index : Nat) (act : Shared.Act) (later : Site φ κ)
    (taken : site.step? backend (.member index (.use act)) = some later)
    (unremoved : ∀ member ∈ later.members[index]?, .ok () ∉ member.shared.removals) :
    later.factory = site.factory := by
  have next := sound_step backend _ _ _ sound (step_moved backend _ taken)
  obtain ⟨old, there, stepped⟩ := Option.bind_eq_some_iff.mp taken
  obtain ⟨new, used, rfl⟩ := Option.map_eq_some_iff.mp stepped
  obtain ⟨bound, rfl⟩ := List.getElem?_eq_some_iff.mp there
  have here : (site.replace backend index site.members[index] new).members[index]? = some new := by
    simp [replace, bound]
  cases Member.step_moved backend _ used with
  | use _ shared present moved =>
      obtain ⟨_, counted, same⟩ := (next.kept _ (List.mem_of_getElem? here)).failing backend present (unremoved _ here)
      obtain ⟨_, was, first⟩ := (sound.kept _ (List.getElem_mem bound)).failing backend present
        (moved.unremoved_before backend (unremoved _ here))
      have restood : shared.context =
          backend.restand site.members[index].context (backend.standing shared.context) := by
        rw [first, backend.restand_restand]
        exact same
      show backend.release site.factory site.members[index].context shared.context = site.factory
      rw [restood]
      exact backend.release_restand _ _ _ (counted.trans was.symm)

/-- In every run of a factory and its contexts the count is that of the contexts made, less those that were
destroyed or else dropped, each once; a context is removed at most once, a failing call of destroy changes
nothing, and a call that comes after the removal does nothing. -/
theorem live_count_is_exact (factory : φ) (empty : backend.live factory = 0) (acts : List Act) (site : Site φ κ)
    (ran : (start factory).run? backend acts = some site) : Accounts backend site where
  orderly member found := ((sound_run backend factory empty acts ran).kept member found).orderly backend
  live := (sound_run backend factory empty acts ran).count_gone backend
  quiet := (sound_run backend factory empty acts ran).count_quiet backend
  failing := (sound_run backend factory empty acts ran).factory_same backend

-- A file stands where the directory of the first context was.
def obstructed : World :=
  { Shared.obliging with files := ⟨[(["c"], .directory), (["c", "snipbox-ctx-000000"], .file [] 0)], []⟩ }

-- Destroying fails once and succeeds the second time.
def retrying : List Act :=
  let calls (steps : Nat) (world : World) : List Shared.Act :=
    [.call, .enter] ++ List.replicate steps (.teardown world)
  [.reserve Shared.obliging, .make 0 [] Shared.obliging] ++
    (calls 4 obstructed ++ calls 7 Shared.obliging).map fun act => .member 0 (.use act)

theorem live_count_after_retry :
    ∃ site, (start (Directory.Factory.new (some "/c"))).run? Backend.directories retrying = some site ∧
      site.members.map (·.removals.map Except.isOk) = [[true, false]] ∧ Accounts Backend.directories site := by
  have runs : ((start (Directory.Factory.new (some "/c"))).run? Backend.directories retrying).map
      (·.members.map (·.removals.map Except.isOk)) = some [[true, false]] := by decide +kernel
  obtain ⟨site, ran, removals⟩ := Option.map_eq_some_iff.mp runs
  exact ⟨site, ran, removals, live_count_is_exact Backend.directories _ rfl _ site ran⟩

end Count
end Site
end SnippetRunner.Context

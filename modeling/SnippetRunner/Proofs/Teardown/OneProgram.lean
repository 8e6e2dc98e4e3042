import SnippetRunner.Proofs.Teardown.Shared

/-!
The program of a shared context. One worker starts at most one program, which leaves the slot once: either the
worker takes it out when it has ended, or a teardown takes it out and kills it. From the first teardown on
nothing starts, and when a call of destroy has answered that all went well, nothing runs.
-/

namespace SnippetRunner.Context.Shared
open Run (Slot)
variable {φ κ : Type} (backend : Backend φ κ)

section Invariant

/-- Where the program is. -/
inductive Placed (slot : Slot) (children : List Child) (takings : List Taker) (worker : Worker)
    (reaping : Bool) : Prop where
  | before (childless : children = []) (empty : slot.running = none) (untaken : takings = [])
      (early : worker.isBefore = true)
  | inSlot (child : Child) (only : children = [child]) (there : slot = ⟨some child.ending, false⟩)
      (untaken : takings = []) (waits : worker = .waiting) (alive : child.fate ≠ .killed)
  | returned (child : Child) (only : children = [child]) (empty : slot.running = none)
      (taken : takings = [.worker]) (answered : worker = .waited (.ok child.ending))
      (ended : child.fate = .ended)
  | stopped (child : Child) (only : children = [child]) (closed : slot = ⟨none, true⟩)
      (taken : takings = [.teardown])
      (answered : worker = .waiting ∨ worker = .waited (.error .destroyed))
      (past : reaping = false → child.isOver = true)

def isReaping (shared : Shared κ) : Bool :=
  shared.lock == some (.reaping true)

abbrev isPlaced (shared : Shared κ) : Prop :=
  Placed (shared.standing backend).slot shared.children shared.takings shared.worker shared.isReaping

/-- Nothing runs and nothing will. -/
structure Halted (shared : Shared κ) : Prop where
  terminated : (shared.standing backend).slot.terminated = true
  empty : (shared.standing backend).slot.running = none
  past : ∀ child ∈ shared.children, child.isOver = true

/-- What the holder of the lock has done by now. -/
def Phase.Fits (shared : Shared κ) : Phase → Prop
  | .looking => True
  | .stopping => True
  | .reaping child =>
      (shared.standing backend).slot.terminated = true ∧ (child = false → Halted backend shared)
  | _ => Halted backend shared

structure Sound (shared : Shared κ) : Prop where
  placed : shared.isPlaced backend
  fits : ∀ phase ∈ shared.lock, phase.Fits backend shared
  destroyed : (shared.standing backend).destroyed = true → Halted backend shared
  answered : .ok () ∈ shared.answers → Halted backend shared

end Invariant

section Places
variable {slot : Slot} {children : List Child} {takings : List Taker} {worker : Worker} {reaping : Bool}

theorem Placed.empty_of_terminated (placed : Placed slot children takings worker reaping)
    (terminated : slot.terminated = true) : slot.running = none := by
  cases placed with
  | before _ empty _ _ => exact empty
  | inSlot child _ there _ _ _ =>
      rw [there] at terminated
      cases terminated
  | returned _ _ empty _ _ _ => exact empty
  | stopped _ _ closed _ _ _ => rw [closed]

-- Without a program in the slot only one that teardown has just taken out may run.
theorem Placed.over_of_empty (placed : Placed slot children takings worker false)
    (empty : slot.running = none) : ∀ child ∈ children, child.isOver = true := by
  intro child member
  cases placed with
  | before childless _ _ _ =>
      rw [childless] at member
      cases member
  | inSlot _ _ there _ _ _ =>
      rw [there] at empty
      cases empty
  | returned single only _ _ _ ended =>
      rw [only] at member
      cases List.mem_singleton.mp member
      simp [Child.isOver, ended]
  | stopped single only _ _ _ past =>
      rw [only] at member
      cases List.mem_singleton.mp member
      exact past rfl

theorem Placed.at_most_one (placed : Placed slot children takings worker reaping) :
    children.length ≤ 1 ∧ takings.length ≤ 1 := by
  cases placed <;> simp_all

/-- A worker that has not come to its program finds none. -/
theorem Placed.childless_of_before (placed : Placed slot children takings worker reaping)
    (early : worker.isBefore = true) : children = [] ∧ slot.running = none ∧ takings = [] := by
  cases placed with
  | before childless empty untaken _ => exact ⟨childless, empty, untaken⟩
  | inSlot _ _ _ _ waits _ =>
      rw [waits] at early
      cases early
  | returned _ _ _ _ answered _ =>
      rw [answered] at early
      cases early
  | stopped _ _ _ _ answered _ => rcases answered with rfl | rfl <;> cases early

theorem Placed.settle (placed : Placed slot children takings worker false) :
    Placed slot children takings worker reaping := by
  cases placed with
  | before childless empty untaken early => exact .before childless empty untaken early
  | inSlot child only there untaken waits alive => exact .inSlot child only there untaken waits alive
  | returned child only empty taken answered ended => exact .returned child only empty taken answered ended
  | stopped child only closed taken answered past => exact .stopped child only closed taken answered fun _ => past rfl

theorem Placed.goOn (placed : Placed slot children takings worker reaping) (early : worker.isBefore = true)
    (next : Worker) (on : next.isBefore = true) : Placed slot children takings next reaping := by
  obtain ⟨childless, empty, untaken⟩ := placed.childless_of_before early
  exact .before childless empty untaken on

theorem Placed.gone (placed : Placed slot children takings .waiting reaping) (empty : slot.running = none) :
    Placed slot children takings (.waited (.error .destroyed)) reaping := by
  cases placed with
  | before _ _ _ early => cases early
  | inSlot _ _ there _ _ _ =>
      rw [there] at empty
      cases empty
  | returned _ _ _ _ answered _ => cases answered
  | stopped child only closed taken _ past => exact .stopped child only closed taken (.inr rfl) past

theorem Placed.taken (placed : Placed slot children takings .waiting reaping) (ending : Host.Ending)
    (there : slot.running = some ending) (past : children.head?.any Child.isOver = true) :
    Placed { slot with running := none } children (.worker :: takings) (.waited (.ok ending)) reaping := by
  cases placed with
  | before _ _ _ early => cases early
  | inSlot child only here untaken _ alive =>
      rw [here] at there
      cases there
      have ended : child.fate = .ended := by
        have past : child.isOver = true := by simpa [only] using past
        cases fate : child.fate <;> simp_all [Child.isOver]
      exact .returned child only rfl (by rw [untaken]) rfl ended
  | returned _ _ empty _ _ _ =>
      rw [empty] at there
      cases there
  | stopped _ _ closed _ _ _ =>
      rw [closed] at there
      cases there

theorem Placed.finish (placed : Placed slot children takings worker reaping) (index : Nat) (child : Child)
    (there : children[index]? = some child) (running : child.fate = .running) :
    Placed slot (children.set index { child with fate := .ended }) takings worker reaping := by
  have single : ∀ only : Child, children = [only] → index = 0 ∧ child = only := by
    rintro only rfl
    cases index with
    | zero => exact ⟨rfl, (Option.some.inj there).symm⟩
    | succ index => cases there
  cases placed with
  | before childless _ _ _ =>
      rw [childless] at there
      cases there
  | inSlot only single_ here untaken waits _ =>
      obtain ⟨rfl, rfl⟩ := single only single_
      exact .inSlot { child with fate := .ended } (by rw [single_]; rfl) here untaken waits (by simp)
  | returned only single_ empty taken answered ended =>
      obtain ⟨rfl, rfl⟩ := single only single_
      rw [running] at ended
      cases ended
  | stopped only single_ closed taken answered _ =>
      obtain ⟨rfl, rfl⟩ := single only single_
      exact .stopped { child with fate := .ended } (by rw [single_]; rfl) closed taken answered fun _ => rfl

theorem Placed.stop (placed : Placed slot children takings worker false) :
    Placed slot.terminate children (if slot.running.isSome then .teardown :: takings else takings) worker
      slot.running.isSome := by
  cases placed with
  | before childless empty untaken early =>
      rw [empty]
      exact .before childless rfl untaken early
  | inSlot child only there untaken waits _ =>
      rw [there, untaken]
      exact .stopped child only rfl rfl (.inl waits) fun still => by cases still
  | returned child only empty taken answered ended =>
      rw [empty]
      exact .returned child only rfl taken answered ended
  | stopped child only closed taken answered past =>
      rw [closed]
      exact .stopped child only rfl taken answered past

theorem isOver_kill (child : Child) : child.kill.isOver = true := by
  cases fate : child.fate <;> simp [Child.kill, Child.isOver, fate]

theorem ending_kill (child : Child) : child.kill.ending = child.ending := by
  cases fate : child.fate <;> simp [Child.kill, fate]

theorem over_killLast (past : ∀ child ∈ children, child.isOver = true) :
    ∀ child ∈ killLast children, child.isOver = true := by
  cases children with
  | nil => exact past
  | cons last rest =>
      rintro child (_ | ⟨_, member⟩)
      · exact isOver_kill last
      · exact past child (List.mem_cons_of_mem _ member)

theorem Placed.killed (placed : Placed slot children takings worker reaping)
    (closed : slot.terminated = true) : Placed slot (killLast children) takings worker false := by
  cases placed with
  | before childless empty untaken early =>
      rw [childless]
      exact .before rfl empty untaken early
  | inSlot _ _ there _ _ _ =>
      rw [there] at closed
      cases closed
  | returned child only empty taken answered ended =>
      have same : child.kill = child := by simp [Child.kill, ended]
      exact .returned child (by simp [only, killLast, same]) empty taken answered ended
  | stopped child only closed taken answered _ =>
      exact .stopped child.kill (by simp [only, killLast]) closed taken answered fun _ => isOver_kill child

end Places

section Steps
variable {act : Act} {before after : Shared κ}

def endings (shared : Shared κ) : List Host.Ending :=
  shared.children.map Child.ending

theorem endings_killLast (children : List Child) :
    (killLast children).map Child.ending = children.map Child.ending := by
  cases children with
  | nil => rfl
  | cons child rest => simp [killLast, ending_kill]

theorem endings_finish (children : List Child) (index : Nat) (child : Child)
    (there : children[index]? = some child) :
    (children.set index { child with fate := .ended }).map Child.ending = children.map Child.ending := by
  obtain ⟨bound, rfl⟩ := List.getElem?_eq_some_iff.mp there
  rw [List.map_set]
  apply List.ext_getElem <;> simp +contextual [List.getElem_set]

/-- From the moment the slot is closed it stays closed, and no program is started. -/
theorem Moved.closed_stays (moved : Moved backend before act after)
    (closed : (before.standing backend).slot.terminated = true) :
    (after.standing backend).slot.terminated = true ∧ after.endings = before.endings := by
  cases moved with
  | launch world ending left allowed =>
      rw [closed] at allowed
      cases allowed
  | finish index child there running => exact ⟨closed, endings_finish _ _ _ there⟩
  | reap world child held =>
      refine ⟨closed, ?_⟩
      cases child with
      | false => rfl
      | true => exact endings_killLast before.children
  | removed world context held answered left =>
      subst left
      exact ⟨by simpa [standing] using closed, rfl⟩
  | stop world held => exact ⟨by simp [Standing.stopped, Slot.terminate], rfl⟩
  | _ => exact ⟨by simpa using closed, rfl⟩

theorem Moved.halted_stays (moved : Moved backend before act after) (halted : Halted backend before) :
    Halted backend after := by
  obtain ⟨terminated, empty, past⟩ := halted
  have closed := (moved.closed_stays backend terminated).1
  cases moved with
  | launch world ending left allowed =>
      rw [terminated] at allowed
      cases allowed
  | returned world ending left there ended =>
      rw [empty] at there
      cases there
  | finish index child there running =>
      refine ⟨closed, empty, fun found member => ?_⟩
      rcases List.mem_or_eq_of_mem_set member with old | rfl
      · exact past found old
      · rfl
  | reap world child held =>
      refine ⟨closed, empty, ?_⟩
      cases child with
      | false => exact past
      | true => exact over_killLast past
  | removed world context held answered left =>
      subst left
      exact ⟨closed, by simpa using empty, past⟩
  | stop world held => exact ⟨closed, by simp [Standing.stopped, Slot.terminate], past⟩
  | _ => exact ⟨closed, by simpa using empty, past⟩

theorem Moved.fits_stays (moved : Moved backend before act after) (phase : Phase)
    (fits : phase.Fits backend before) : phase.Fits backend after := by
  cases phase with
  | looking => trivial
  | stopping => trivial
  | reaping child =>
      exact ⟨(moved.closed_stays backend fits.1).1, fun gone => moved.halted_stays backend (fits.2 gone)⟩
  | removing => exact moved.halted_stays backend fits
  | closing => exact moved.halted_stays backend fits
  | returning => exact moved.halted_stays backend fits
  | uncounting => exact moved.halted_stays backend fits

theorem settled (placed : before.isPlaced backend) (other : before.lock ≠ some (.reaping true)) :
    Placed (before.standing backend).slot before.children before.takings before.worker false := by
  have still : before.isReaping = false := by simp [isReaping, other]
  rwa [isPlaced, still] at placed

theorem isReaping_stop (shared : Shared κ) :
    (shared.stop backend).isReaping = (shared.standing backend).slot.running.isSome := by
  cases there : (shared.standing backend).slot.running <;> simp [isReaping, Shared.stop, there]

theorem Moved.placed_stays (moved : Moved backend before act after)
    (fits : ∀ phase ∈ before.lock, phase.Fits backend before) (placed : before.isPlaced backend) :
    after.isPlaced backend := by
  cases moved with
  | goOn world worker left on => exact placed.goOn left worker on
  | mark world left =>
      have next := placed.goOn (by rw [left]; rfl) (.loaded (.ok ())) rfl
      simpa [isPlaced, isReaping] using next
  | launch world ending left allowed =>
      obtain ⟨childless, empty, untaken⟩ := placed.childless_of_before left
      refine .inSlot ⟨ending, .running⟩ ?_ (by simp) untaken rfl (by simp)
      exact congrArg _ childless
  | still world left => exact placed
  | gone world left empty =>
      rw [isPlaced, left] at placed
      exact placed.gone empty
  | returned world ending left there past =>
      rw [isPlaced, left] at placed
      simpa [isPlaced, isReaping, Shared.returned] using placed.taken ending there past
  | finish index child there running => exact placed.finish index child there running
  | call => exact placed
  | stop world held =>
      have next := (settled backend placed (by simp [held])).stop
      rw [isPlaced, isReaping_stop]
      simpa [Shared.stop, Standing.stopped] using next
  | reap world child held =>
      have closed : (before.standing backend).slot.terminated = true := (fits _ held).1
      cases child with
      | false => exact (settled backend placed (by simp [held])).settle
      | true => exact (placed.killed closed).settle
  | enter others free callers => exact (settled backend placed (by simp [free])).settle
  | removed world context held answered left =>
      subst left
      simpa [isPlaced] using (settled backend placed (by simp [held])).settle
  | idle world held _ => exact (settled backend placed (by simp [held])).settle
  | look world held _ => exact (settled backend placed (by simp [held])).settle
  | kept world fault held _ => exact (settled backend placed (by simp [held])).settle
  | close world held => simpa [isPlaced] using (settled backend placed (by simp [held])).settle
  | handBack world held => simpa [isPlaced] using (settled backend placed (by simp [held])).settle
  | uncount world held => simpa [isPlaced, Shared.answer] using (settled backend placed (by simp [held])).settle

theorem Moved.holder_fits (moved : Moved backend before act after)
    (fits : ∀ phase ∈ before.lock, phase.Fits backend before) (placed : before.isPlaced backend) :
    ∀ phase ∈ after.lock, phase.Fits backend after := by
  -- The holder that was there before, with what it has done still done.
  have old : ∀ phase ∈ before.lock, phase.Fits backend after := fun phase held =>
    moved.fits_stays backend phase (fits phase held)
  have halted := moved.halted_stays backend
  have next := moved.placed_stays backend fits placed
  intro phase held
  cases moved with
  | enter others free callers =>
      cases held
      trivial
  | idle world here destroyed => cases held
  | look world here live =>
      cases held
      trivial
  | stop world here =>
      cases held
      refine ⟨by simp [Standing.stopped, Slot.terminate], fun gone => ?_⟩
      have empty : (before.standing backend).slot.running = none := by simpa using gone
      exact ⟨by simp [Standing.stopped, Slot.terminate], by simp [Standing.stopped, Slot.terminate],
        (settled backend placed (by simp [here])).over_of_empty empty⟩
  | reap world child here =>
      cases held
      have closed : (before.standing backend).slot.terminated = true := (fits _ here).1
      have empty := placed.empty_of_terminated closed
      exact ⟨closed, empty, (settled backend next (by simp [Shared.reap])).over_of_empty empty⟩
  | removed world context here answered left =>
      cases held
      exact halted (fits _ here)
  | kept world fault here answered => cases held
  | close world here =>
      cases held
      exact halted (fits _ here)
  | handBack world here =>
      cases held
      exact halted (fits _ here)
  | uncount world here => cases held
  | goOn world worker left on => exact old phase held
  | mark world left => exact old phase held
  | launch world ending left allowed => exact old phase held
  | still world left => exact old phase held
  | gone world left empty => exact old phase held
  | returned world ending left there past => exact old phase held
  | finish index child there running => exact old phase held
  | call => exact old phase held

theorem Moved.destroyed_stays (moved : Moved backend before act after)
    (destroyed : (before.standing backend).destroyed = true) : (after.standing backend).destroyed = true := by
  cases moved with
  | removed world context held answered left =>
      subst left
      simpa using destroyed
  | close world held => simp
  | _ => simpa [Standing.stopped] using destroyed

/-- A context is destroyed in one place. -/
theorem Moved.destroyed_by (moved : Moved backend before act after)
    (destroyed : (after.standing backend).destroyed = true) :
    (before.standing backend).destroyed = true ∨ before.lock = some .closing := by
  cases moved with
  | removed world context held answered left =>
      subst left
      exact .inl (by simpa using destroyed)
  | close world held => exact .inr held
  | _ => exact .inl (by simpa [Standing.stopped] using destroyed)

/-- A call of destroy answers that all went well when the context is destroyed. -/
theorem Moved.answered_by (moved : Moved backend before act after) (answered : .ok () ∈ after.answers) :
    .ok () ∈ before.answers ∨ (before.standing backend).destroyed = true ∨ before.lock = some .uncounting := by
  cases moved with
  | idle world held destroyed => exact .inr (.inl destroyed)
  | uncount world held => exact .inr (.inr held)
  | kept world fault held failed =>
      rcases List.mem_cons.mp answered with ok | old
      · cases ok
      · exact .inl old
  | _ => exact .inl answered

end Steps

section Runs
variable {context : κ} {image : Bytes} {before after shared : Shared κ}

theorem sound_new (fresh : backend.standing context = .fresh) : Sound backend (new context image) := by
  refine ⟨.before rfl ?_ rfl rfl, fun phase held => (by cases held), fun destroyed => ?_, fun ok => (by cases ok)⟩
  · show (backend.standing context).slot.running = none
    rw [fresh]
    rfl
  · have live : (backend.standing context).destroyed = true := destroyed
    rw [fresh] at live
    cases live

theorem sound_step (act : Act) (before after : Shared κ) (sound : Sound backend before)
    (moved : Moved backend before act after) : Sound backend after where
  placed := moved.placed_stays backend sound.fits sound.placed
  fits := moved.holder_fits backend sound.fits sound.placed
  destroyed now := by
    rcases moved.destroyed_by backend now with old | held
    · exact moved.halted_stays backend (sound.destroyed old)
    · exact moved.halted_stays backend (sound.fits _ held)
  answered now := by
    rcases moved.answered_by backend now with old | destroyed | held
    · exact moved.halted_stays backend (sound.answered old)
    · exact moved.halted_stays backend (sound.destroyed destroyed)
    · exact moved.halted_stays backend (sound.fits _ held)

theorem sound_run (acts : List Act) (fresh : backend.standing context = .fresh)
    (ran : (new context image).run? backend acts = some shared) : Sound backend shared :=
  run_preserves backend (Sound backend) (sound_step backend) acts (sound_new backend fresh) ran

theorem closed_run (acts : List Act) (closed : (before.standing backend).slot.terminated = true)
    (ran : before.run? backend acts = some after) :
    (after.standing backend).slot.terminated = true ∧ after.endings = before.endings :=
  run_preserves backend
    (fun now => (now.standing backend).slot.terminated = true ∧ now.endings = before.endings)
    (fun _ _ _ stays moved =>
      have next := moved.closed_stays backend stays.1
      ⟨next.1, next.2.trans stays.2⟩)
    acts ⟨closed, rfl⟩ ran

theorem halted_run (acts : List Act) (halted : Halted backend before)
    (ran : before.run? backend acts = some after) : Halted backend after :=
  run_preserves backend (Halted backend) (fun _ _ _ stays moved => moved.halted_stays backend stays) acts halted ran

/-- What holds of the program of a context at every moment, and from then on. -/
structure OneProgram (shared : Shared κ) : Prop where
  started : shared.children.length ≤ 1
  taken : shared.takings.length ≤ 1
  taken_by_worker : .worker ∈ shared.takings → ∃ child, shared.children = [child] ∧ child.fate = .ended ∧
    shared.worker = .waited (.ok child.ending)
  taken_by_teardown : .teardown ∈ shared.takings → ∃ child, shared.children = [child] ∧
    (child.isOver = true ∨
      ∀ world, (shared.teardown? backend world).map (·.children) = some [child.kill]) ∧
    (shared.worker = .waited (.error .destroyed) ∨
      ∀ world, (shared.work? backend world).map (·.worker) = some (.waited (.error .destroyed)))
  waited (answer : Except Fault Host.Ending) : shared.worker = .waited answer →
    answer = .error .destroyed ∧ shared.takings = [.teardown] ∨
      ∃ child, answer = .ok child.ending ∧ shared.children = [child] ∧ shared.takings = [.worker]
  closed : (shared.standing backend).slot.terminated = true →
    ∀ acts later, shared.run? backend acts = some later →
      (later.standing backend).slot = ⟨none, true⟩ ∧ later.endings = shared.endings
  destroyed : .ok () ∈ shared.answers → ∀ acts later, shared.run? backend acts = some later →
    (∀ child ∈ later.children, child.isOver = true) ∧
      (later.standing backend).slot = ⟨none, true⟩ ∧ later.endings = shared.endings

theorem slot_eq_of_closed (slot : Slot) (terminated : slot.terminated = true) (empty : slot.running = none) :
    slot = ⟨none, true⟩ := by
  cases slot
  simp_all

theorem Sound.closed_for_good (sound : Sound backend shared)
    (closed : (shared.standing backend).slot.terminated = true) (acts : List Act) (later : Shared κ)
    (ran : shared.run? backend acts = some later) :
    (later.standing backend).slot = ⟨none, true⟩ ∧ later.endings = shared.endings := by
  obtain ⟨terminated, same⟩ := closed_run backend acts closed ran
  have still := run_preserves backend (Sound backend) (sound_step backend) acts sound ran
  exact ⟨slot_eq_of_closed _ terminated (still.placed.empty_of_terminated terminated), same⟩

theorem Sound.one_program (sound : Sound backend shared) : OneProgram backend shared where
  started := sound.placed.at_most_one.1
  taken := sound.placed.at_most_one.2
  taken_by_worker took := by
    cases sound.placed with
    | returned child only _ _ answered ended => exact ⟨child, only, ended, answered⟩
    | before _ _ untaken _ => simp [untaken] at took
    | inSlot _ _ _ untaken _ _ => simp [untaken] at took
    | stopped _ _ _ taken _ _ => simp [taken] at took
  taken_by_teardown took := by
    cases sound.placed with
    | stopped child only closed taken answered past =>
        refine ⟨child, only, ?_, ?_⟩
        · cases reaping : shared.isReaping with
          | false => exact .inl (past reaping)
          | true =>
              have held : shared.lock = some (.reaping true) := by simpa [isReaping] using reaping
              exact .inr fun world => by simp [teardown?, held, reap, only, killLast]
        · rcases answered with waits | answered
          · exact .inr fun world => by simp [work?, waits, closed, Slot.poll, goOn]
          · exact .inl answered
    | before _ _ untaken _ => simp [untaken] at took
    | inSlot _ _ _ untaken _ _ => simp [untaken] at took
    | returned _ _ _ taken _ _ => simp [taken] at took
  waited answer answered := by
    cases sound.placed with
    | returned child only _ taken here _ =>
        rw [here] at answered
        cases answered
        exact .inr ⟨child, rfl, only, taken⟩
    | stopped child only _ taken here _ =>
        rw [answered] at here
        rcases here with waits | destroyed
        · cases waits
        · cases destroyed
          exact .inl ⟨rfl, taken⟩
    | before _ _ _ early =>
        rw [answered] at early
        cases early
    | inSlot _ _ _ _ waits _ =>
        rw [answered] at waits
        cases waits
  closed := sound.closed_for_good backend
  destroyed ok acts later ran := by
    have halted := sound.answered ok
    exact ⟨(halted_run backend acts halted ran).past, sound.closed_for_good backend halted.terminated acts later ran⟩

/-- A worker and any number of teardowns: at most one program is started and taken out of the slot once, by the
worker when it has ended or by a teardown that kills it; a closed slot stays empty, and after a call of destroy
has answered that all went well nothing runs or starts. The host is assumed to kill and reap a child of its own within
the grace and to tell how it ended, as it is for the steps of polling and reaping. -/
theorem program_started_and_taken_once (context : κ) (image : Bytes) (acts : List Act) (shared : Shared κ)
    (fresh : backend.standing context = .fresh)
    (ran : (new context image).run? backend acts = some shared) : OneProgram backend shared :=
  (sound_run backend acts fresh ran).one_program backend

-- A machine whose programs end well, and a directory with a program in it.
def obliging : World where
  machine := { search := [], program? := fun _ => some fun _ files => ⟨files, [], [], .exit 0⟩ }
  files := ⟨[(["c"], .directory), (["c", programName], .file [] Files.programMode)], []⟩

def killing : List Act :=
  List.replicate 6 (.work obliging) ++ [.call, .enter] ++ List.replicate 7 (.teardown obliging) ++
    [.work obliging]

theorem program_killed_by_teardown :
    ∃ shared, (new ⟨0, "/c", .empty, false, false, true⟩ []).run? Backend.directories killing = some shared ∧
      shared.takings = [.teardown] ∧ OneProgram Backend.directories shared := by
  have runs : ((new ⟨0, "/c", .empty, false, false, true⟩ []).run? Backend.directories killing).map
      (·.takings) = some [.teardown] := by decide +kernel
  obtain ⟨shared, ran, taken⟩ := Option.map_eq_some_iff.mp runs
  exact ⟨shared, ran, taken, program_started_and_taken_once Backend.directories _ _ _ shared rfl ran⟩

end Runs
end SnippetRunner.Context.Shared

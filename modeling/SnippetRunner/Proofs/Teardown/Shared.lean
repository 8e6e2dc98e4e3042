import SnippetRunner.Proofs.Runs
import SnippetRunner.Proofs.Teardown.Backend

/-!
A context that is shared by a worker and by callers of destroy. The worker loads an image and runs it; any
number of callers have the context destroyed, one at a time behind the teardown lock. Each takes its steps at
its own pace, and a step does what the code does between two moments at which others can be seen.
-/

namespace SnippetRunner.Context
open Run (Slot)

namespace Shared

section Parties

inductive Fate where
  | running
  | ended
  | killed
  deriving DecidableEq

structure Child where
  -- how it ends if it is left alone
  ending : Host.Ending
  fate : Fate
  deriving DecidableEq

namespace Child

def isOver (child : Child) : Bool :=
  child.fate != .running

def kill (child : Child) : Child :=
  match child.fate with
  | .running => { child with fate := .killed }
  | _ => child

-- A program that runs until it is stopped does not end by itself.
def end? (child : Child) : Option Child :=
  if child.fate = .running ∧ child.ending ≠ .never then some { child with fate := .ended } else none

end Child

/-- What the worker does next, or how its work ended. -/
inductive Worker where
  | fresh
  | storing
  | marking
  -- load has answered
  | loaded (answer : Except Fault Unit)
  -- with the attempts that are left after this one
  | starting (more : Nat)
  | launching (launch : Host.Launch) (more : Nat)
  | waiting
  -- no program could be started
  | failed (fault : Fault)
  -- the wait for the program has answered
  | waited (answer : Except Fault Host.Ending)

/-- The worker has not come to its program yet. -/
def Worker.isBefore : Worker → Bool
  | .waiting => false
  | .waited _ => false
  | _ => true

/-- The worker is in the middle of a call. -/
def Worker.isInside : Worker → Bool
  | .storing => true
  | .marking => true
  | .starting _ => true
  | .launching _ _ => true
  | .waiting => true
  | _ => false

/-- What the call of destroy that holds the teardown lock does next. -/
inductive Phase where
  | looking
  | stopping
  -- whether there was a child in the slot
  | reaping (child : Bool)
  | removing
  | closing
  | returning
  | uncounting
  deriving DecidableEq

inductive Taker where
  | worker
  | teardown
  deriving DecidableEq

inductive Act where
  | work (world : World)
  -- a child ends by itself
  | finish (index : Nat)
  -- a call of destroy arrives; it gets the lock; it goes on
  | call
  | enter
  | teardown (world : World)

end Parties
end Shared

structure Shared (κ : Type) where
  context : κ
  image : Bytes
  worker : Shared.Worker
  -- the programs that were started, the last one first
  children : List Shared.Child
  -- who took a program out of the slot
  takings : List Shared.Taker
  -- calls of destroy that wait for the lock
  callers : Nat
  lock : Option Shared.Phase
  -- what calls of destroy answered and what the removals in them came to, the last one first
  answers : List (Except Fault Unit)
  removals : List (Except Fault Unit)

namespace Shared
variable {φ κ : Type} (backend : Backend φ κ)

def new (context : κ) (image : Bytes) : Shared κ :=
  { context, image, worker := .fresh, children := [], takings := [], callers := 0, lock := none
    answers := [], removals := [] }

section Steps

@[simp] abbrev standing (shared : Shared κ) : Standing :=
  backend.standing shared.context

def killLast : List Child → List Child
  | [] => []
  | child :: rest => child.kill :: rest

/-- The child started last has come to an end. -/
def isOver (shared : Shared κ) : Bool :=
  shared.children.head?.any Child.isOver

def goOn (shared : Shared κ) (worker : Worker) : Shared κ :=
  { shared with worker }

def launched (shared : Shared κ) (slot : Slot) (ending : Host.Ending) : Shared κ :=
  { shared with context := backend.setSlot shared.context slot
                children := ⟨ending, .running⟩ :: shared.children
                worker := .waiting }

def returned (shared : Shared κ) (slot : Slot) (ending : Host.Ending) : Shared κ :=
  { shared with context := backend.setSlot shared.context slot
                takings := .worker :: shared.takings
                worker := .waited (.ok ending) }

def work? (shared : Shared κ) (world : World) : Option (Shared κ) :=
  match shared.worker with
  | .fresh =>
      some (shared.goOn (if (shared.standing backend).destroyed then .loaded (.error .destroyed) else .storing))
  | .storing =>
      match (backend.store shared.context shared.image world.files).1 with
      | .error fault => some (shared.goOn (.loaded (.error fault)))
      | .ok () => some (shared.goOn .marking)
  | .marking =>
      some { shared with context := backend.mark shared.context, worker := .loaded (.ok ()) }
  | .loaded _ =>
      some (shared.goOn
        (if (shared.standing backend).loaded then .starting (Slot.attempts - 1) else .failed .notLoaded))
  | .starting more =>
      match backend.prepare shared.context world.files with
      | .error fault => some (shared.goOn (.failed fault))
      | .ok (launch, _) => some (shared.goOn (.launching launch more))
  | .launching launch more =>
      match Slot.tryStart world.machine (shared.standing backend).slot launch world.files with
      | .ok (slot, effect) => some (shared.launched backend slot effect.ending)
      | .error fault =>
          some (shared.goOn
            (if fault = .spawn .busy ∧ more ≠ 0 then .starting (more - 1) else .failed fault))
  | .waiting =>
      match (shared.standing backend).slot.poll with
      | (.gone, _) => some (shared.goOn (.waited (.error .destroyed)))
      | (.running, _) => some shared
      -- how a program ends shows when it has ended
      | (.ended ending, slot) =>
          some (if shared.isOver then shared.returned backend slot ending else shared)
  | .failed _ => none
  | .waited _ => none

def finish? (shared : Shared κ) (index : Nat) : Option (Shared κ) :=
  (shared.children[index]?.bind Child.end?).map fun child =>
    { shared with children := shared.children.set index child }

def enter? (shared : Shared κ) : Option (Shared κ) :=
  match shared.lock, shared.callers with
  | none, others + 1 => some { shared with callers := others, lock := some .looking }
  | _, _ => none

-- An answer lets go of the lock.
def answer (shared : Shared κ) (answer : Except Fault Unit) : Shared κ :=
  { shared with lock := none, answers := answer :: shared.answers }

def stop (shared : Shared κ) : Shared κ :=
  let child := (shared.standing backend).slot.running.isSome
  { shared with context := backend.stop shared.context
                takings := if child then .teardown :: shared.takings else shared.takings
                lock := some (.reaping child) }

/-- The child that was taken out is killed and waited for. As with a slot that is terminated, the host does both
within the grace for a child that was not waited for yet; a failure of either, which is only logged, is no step. -/
def reap (shared : Shared κ) (child : Bool) : Shared κ :=
  { shared with children := if child then killLast shared.children else shared.children
                lock := some .removing }

def remove (shared : Shared κ) (world : World) : Shared κ :=
  match backend.remove world.machine shared.context world.files with
  | (.ok (), context, _) =>
      { shared with context, removals := .ok () :: shared.removals, lock := some .closing }
  | (.error fault, context, _) =>
      { shared with context, removals := .error fault :: shared.removals }.answer (.error fault)

def teardown? (shared : Shared κ) (world : World) : Option (Shared κ) :=
  match shared.lock with
  | none => none
  | some .looking =>
      some (if (shared.standing backend).destroyed then shared.answer (.ok ())
        else { shared with lock := some .stopping })
  | some .stopping => some (shared.stop backend)
  | some (.reaping child) => some (shared.reap child)
  | some .removing => some (shared.remove backend world)
  | some .closing =>
      some { shared with context := backend.close shared.context, lock := some .returning }
  | some .returning =>
      some { shared with context := backend.handBack shared.context, lock := some .uncounting }
  | some .uncounting =>
      some ({ shared with context := backend.uncount shared.context }.answer (.ok ()))

/-- The shared context after a step, if the step can be taken. -/
def step? (shared : Shared κ) : Act → Option (Shared κ)
  | .work world => shared.work? backend world
  | .finish index => shared.finish? index
  | .call => some { shared with callers := shared.callers + 1 }
  | .enter => shared.enter?
  | .teardown world => shared.teardown? backend world

def run? (shared : Shared κ) : List Act → Option (Shared κ)
  | [] => some shared
  | act :: rest => (shared.step? backend act).bind fun shared => shared.run? rest

section Contexts
variable (shared : Shared κ)

@[simp] theorem context_goOn (worker : Worker) : (shared.goOn worker).context = shared.context := rfl

@[simp] theorem context_launched (slot : Slot) (ending : Host.Ending) :
    (shared.launched backend slot ending).context = backend.setSlot shared.context slot := rfl

@[simp] theorem context_returned (slot : Slot) (ending : Host.Ending) :
    (shared.returned backend slot ending).context = backend.setSlot shared.context slot := rfl

@[simp] theorem context_answer (answer : Except Fault Unit) :
    (shared.answer answer).context = shared.context := rfl

@[simp] theorem context_stop : (shared.stop backend).context = backend.stop shared.context := rfl

@[simp] theorem context_reap (child : Bool) : (shared.reap child).context = shared.context := rfl

end Contexts
end Steps

/-- All that a step can do. -/
inductive Moved (before : Shared κ) : Act → Shared κ → Prop where
  | goOn (world : World) (worker : Worker) (left : before.worker.isBefore = true)
      (on : worker.isBefore = true) : Moved before (.work world) (before.goOn worker)
  | mark (world : World) (left : before.worker = .marking) :
      Moved before (.work world)
        { before with context := backend.mark before.context, worker := .loaded (.ok ()) }
  | launch (world : World) (ending : Host.Ending) (left : before.worker.isBefore = true)
      (allowed : (before.standing backend).slot.terminated = false) :
      Moved before (.work world)
        (before.launched backend ⟨some ending, false⟩ ending)
  | still (world : World) (left : before.worker = .waiting) : Moved before (.work world) before
  | gone (world : World) (left : before.worker = .waiting)
      (empty : (before.standing backend).slot.running = none) :
      Moved before (.work world) (before.goOn (.waited (.error .destroyed)))
  | returned (world : World) (ending : Host.Ending) (left : before.worker = .waiting)
      (there : (before.standing backend).slot.running = some ending) (past : before.isOver = true) :
      Moved before (.work world)
        (before.returned backend { (before.standing backend).slot with running := none } ending)
  | finish (index : Nat) (child : Child) (there : before.children[index]? = some child)
      (running : child.fate = .running) :
      Moved before (.finish index)
        { before with children := before.children.set index { child with fate := .ended } }
  | call : Moved before .call { before with callers := before.callers + 1 }
  | enter (others : Nat) (free : before.lock = none) (callers : before.callers = others + 1) :
      Moved before .enter { before with callers := others, lock := some .looking }
  | idle (world : World) (held : before.lock = some .looking)
      (destroyed : (before.standing backend).destroyed = true) :
      Moved before (.teardown world) (before.answer (.ok ()))
  | look (world : World) (held : before.lock = some .looking)
      (live : (before.standing backend).destroyed = false) :
      Moved before (.teardown world) { before with lock := some .stopping }
  | stop (world : World) (held : before.lock = some .stopping) :
      Moved before (.teardown world) (before.stop backend)
  | reap (world : World) (child : Bool) (held : before.lock = some (.reaping child)) :
      Moved before (.teardown world) (before.reap child)
  | removed (world : World) (context : κ) (held : before.lock = some .removing)
      (answered : (backend.remove world.machine before.context world.files).1 = .ok ())
      (left : (backend.remove world.machine before.context world.files).2.1 = context) :
      Moved before (.teardown world)
        { before with context, removals := .ok () :: before.removals, lock := some .closing }
  | kept (world : World) (fault : Fault) (held : before.lock = some .removing)
      (answered : (backend.remove world.machine before.context world.files).1 = .error fault) :
      Moved before (.teardown world)
        ({ before with removals := .error fault :: before.removals }.answer (.error fault))
  | close (world : World) (held : before.lock = some .closing) :
      Moved before (.teardown world)
        { before with context := backend.close before.context, lock := some .returning }
  | handBack (world : World) (held : before.lock = some .returning) :
      Moved before (.teardown world)
        { before with context := backend.handBack before.context, lock := some .uncounting }
  | uncount (world : World) (held : before.lock = some .uncounting) :
      Moved before (.teardown world)
        ({ before with context := backend.uncount before.context }.answer (.ok ()))

section Cases
variable {before after : Shared κ}

theorem tryStart_ok (machine : Host.Machine) (slot started : Slot) (launch : Host.Launch) (files : Files.Tree)
    (effect : Host.Effect) (ok : Slot.tryStart machine slot launch files = .ok (started, effect)) :
    slot.terminated = false ∧ started = ⟨some effect.ending, false⟩ := by
  unfold Slot.tryStart at ok
  split at ok
  · cases ok
  · next allowed =>
      split at ok
      · cases ok
      · cases ok
        exact ⟨by simpa using allowed, by simpa using allowed⟩

theorem poll_gone (slot after : Slot) (gone : slot.poll = (.gone, after)) : slot.running = none := by
  unfold Slot.poll at gone
  split at gone
  · assumption
  · cases gone
  · cases gone

theorem poll_ended (slot after : Slot) (ending : Host.Ending) (ended : slot.poll = (.ended ending, after)) :
    slot.running = some ending ∧ after = { slot with running := none } := by
  unfold Slot.poll at ended
  split at ended
  · cases ended
  · cases ended
  · next found =>
      cases ended
      exact ⟨found, rfl⟩

theorem work_cases (world : World) (taken : before.work? backend world = some after) :
    Moved backend before (.work world) after := by
  unfold work? at taken
  split at taken
  · next here =>
      cases taken
      refine .goOn world _ (by rw [here]; rfl) ?_
      split <;> rfl
  · next here =>
      split at taken <;> cases taken
      · exact .goOn world _ (by rw [here]; rfl) rfl
      · exact .goOn world _ (by rw [here]; rfl) rfl
  · next here =>
      cases taken
      exact .mark world here
  · next here =>
      cases taken
      refine .goOn world _ (by rw [here]; rfl) ?_
      split <;> rfl
  · next here =>
      split at taken <;> cases taken
      · exact .goOn world _ (by rw [here]; rfl) rfl
      · exact .goOn world _ (by rw [here]; rfl) rfl
  · next here =>
      split at taken
      · next slot effect started =>
          obtain ⟨allowed, rfl⟩ := tryStart_ok _ _ _ _ _ _ started
          cases taken
          exact .launch world effect.ending (by rw [here]; rfl) allowed
      · cases taken
        refine .goOn world _ (by rw [here]; rfl) ?_
        split <;> rfl
  · next here =>
      split at taken
      · next gone =>
          cases taken
          exact .gone world here (poll_gone _ _ gone)
      · cases taken
        exact .still world here
      · next ending slot ended =>
          obtain ⟨there, rfl⟩ := poll_ended _ _ _ ended
          cases taken
          cases past : before.isOver with
          | false => exact .still world here
          | true => exact .returned world ending here there past
  · cases taken
  · cases taken

theorem teardown_cases (world : World) (taken : before.teardown? backend world = some after) :
    Moved backend before (.teardown world) after := by
  unfold teardown? at taken
  split at taken
  · cases taken
  · next held =>
      cases taken
      cases destroyed : (before.standing backend).destroyed with
      | true => exact .idle world held destroyed
      | false => exact .look world held destroyed
  · next held =>
      cases taken
      exact .stop world held
  · next child held =>
      cases taken
      exact .reap world child held
  · next held =>
      cases taken
      unfold remove
      split
      · next context _ removed =>
          exact .removed world context held (by rw [removed]) (by rw [removed])
      · next fault context _ kept =>
          have same := backend.remove_failed world.machine before.context world.files fault (by rw [kept])
          rw [kept] at same
          cases same
          exact .kept world fault held (by rw [kept])
  · next held =>
      cases taken
      exact .close world held
  · next held =>
      cases taken
      exact .handBack world held
  · next held =>
      cases taken
      exact .uncount world held

theorem step_moved (act : Act) (taken : before.step? backend act = some after) :
    Moved backend before act after := by
  cases act with
  | work world => exact work_cases backend world taken
  | finish index =>
      obtain ⟨child, ended, rfl⟩ := Option.map_eq_some_iff.mp taken
      obtain ⟨found, there, ends⟩ := Option.bind_eq_some_iff.mp ended
      unfold Child.end? at ends
      split at ends
      · next running =>
          cases ends
          exact .finish index found there running.1
      · cases ends
  | call =>
      cases taken
      exact .call
  | enter =>
      simp only [step?, enter?] at taken
      split at taken
      · next others free callers =>
          cases taken
          exact .enter others free callers
      · cases taken
  | teardown world => exact teardown_cases backend world taken

theorem stepwise : Stepwise (step? backend) (run? backend) :=
  ⟨fun _ => rfl, fun _ _ _ => rfl⟩

theorem run_preserves (kept : Shared κ → Prop)
    (step : ∀ act before after, kept before → Moved backend before act after → kept after)
    (acts : List Act) (start : kept before) (ran : before.run? backend acts = some after) : kept after :=
  (stepwise backend).preserves kept
    (fun act before after now taken => step act before after now (step_moved backend act taken)) acts start ran

end Cases

section Undisturbed
variable (shared : Shared κ) (world : World)

/-- A worker that nobody disturbs loads as the context does. -/
theorem load_undisturbed (idle : shared.worker = .fresh) :
    ∃ acts, shared.run? backend acts = some { shared with
      context := (backend.load shared.context shared.image world.files).2.1
      worker := .loaded (backend.load shared.context shared.image world.files).1 } := by
  cases destroyed : (shared.standing backend).destroyed with
  | true => exact ⟨[.work world], by simp_all [run?, step?, work?, goOn, Backend.load]⟩
  | false =>
      rcases stored : backend.store shared.context shared.image world.files with ⟨_ | _, after⟩
      · exact ⟨[.work world, .work world], by simp_all [run?, step?, work?, goOn, Backend.load]⟩
      · exact ⟨[.work world, .work world, .work world], by
          simp_all [run?, step?, work?, goOn, Backend.load]⟩

/-- How a worker stands after a start of its program. -/
def started (answer : Except Fault (Slot × Host.Effect)) : Shared κ :=
  match answer with
  | .ok (slot, effect) => shared.launched backend slot effect.ending
  | .error fault => shared.goOn (.failed fault)

/-- A worker that nobody disturbs starts its program as the slot does. -/
theorem start_undisturbed (more : Nat) (first : shared.worker = .starting more) :
    ∃ acts, shared.run? backend acts = some (shared.started backend
      (Slot.startWithin world.machine (backend.prepare shared.context) (shared.standing backend).slot
        world.files more).1) := by
  induction more generalizing shared world with
  | zero =>
      cases prepared : backend.prepare shared.context world.files with
      | error fault =>
          exact ⟨[.work world], by
            simp [run?, step?, work?, first, prepared, Slot.startWithin, Slot.attempt, started]⟩
      | ok found =>
          obtain ⟨launch, ready⟩ := found
          refine ⟨[.work world, .work { world with files := ready }], ?_⟩
          cases tried : Slot.tryStart world.machine (shared.standing backend).slot launch ready <;>
            simp_all [run?, step?, work?, goOn, Slot.startWithin, Slot.attempt, started, launched]
  | succ more ih =>
      cases prepared : backend.prepare shared.context world.files with
      | error fault =>
          have other : fault ≠ .spawn (.system 26) := by
            rintro rfl
            exact backend.prepare_spawns _ _ _ prepared
          exact ⟨[.work world], by
            simp_all [run?, step?, work?, Slot.startWithin, Slot.attempt, started]⟩
      | ok found =>
          obtain ⟨launch, ready⟩ := found
          let attempt : List Act := [.work world, .work { world with files := ready }]
          cases tried : Slot.tryStart world.machine (shared.standing backend).slot launch ready with
          | ok begun =>
              exact ⟨attempt, by
                simp_all [attempt, run?, step?, work?, goOn, Slot.startWithin, Slot.attempt, started, launched]⟩
          | error fault =>
              by_cases busy : fault = .spawn .busy
              · subst busy
                obtain ⟨acts, ran⟩ := ih (shared.goOn (.starting more)) { world with files := ready } rfl
                refine ⟨attempt ++ acts, ?_⟩
                have again : shared.run? backend attempt = some (shared.goOn (.starting more)) := by
                  simp_all [attempt, run?, step?, work?, goOn]
                rw [(stepwise backend).append, again, Option.bind_some, ran]
                simp [Slot.startWithin, Slot.attempt, prepared, tried, Host.Fault.busy, started]
                rfl
              · refine ⟨attempt, ?_⟩
                simp_all [attempt, run?, step?, work?, goOn, Slot.startWithin, Slot.attempt, started, Host.Fault.busy]

/-- A call of destroy that nobody disturbs does what the context does. -/
theorem destroy_undisturbed (free : shared.lock = none) :
    ∃ acts after, shared.run? backend acts = some after ∧ after.lock = none ∧
      after.context = (backend.destroy world.machine shared.context world.files).2.1 ∧
      after.answers = (backend.destroy world.machine shared.context world.files).1 :: shared.answers := by
  let acts (steps : Nat) : List Act := .call :: .enter :: List.replicate steps (.teardown world)
  cases destroyed : (shared.standing backend).destroyed with
  | true =>
      exact ⟨acts 1, _,
        by
          simp [acts, run?, step?, enter?, free, teardown?, destroyed]
          rfl,
        by simp_all [Backend.destroy, answer]⟩
  | false =>
      rcases removed : backend.remove world.machine (backend.stop shared.context) world.files with
        ⟨_ | _, left, after⟩
      · exact ⟨acts 4, _,
          by
            simp [acts, List.replicate, run?, step?, enter?, free, teardown?, destroyed, Shared.stop, reap, remove,
              removed]
            rfl,
          by simp_all [Backend.destroy, answer]⟩
      · exact ⟨acts 7, _,
          by
            simp [acts, List.replicate, run?, step?, enter?, free, teardown?, destroyed, Shared.stop, reap, remove,
              removed]
            rfl,
          by simp_all [Backend.destroy, answer]⟩

end Undisturbed
end Shared
end SnippetRunner.Context

import SnippetRunner.Proofs.Runs
import SnippetRunner.Run.Supervision

/-!
A supervised run as it happens. The supervisor starts a worker and watches a channel for its report, at most
until the deadline; the worker loads an image and invokes it in a context that may answer anything, break off or
never answer. Both take their steps at their own pace. Each thing that happens is noted, and every note has its
grounds in those before it: there is one verdict, what it says had happened, and the context is destroyed after
it, a second time if the first fails.
-/

namespace SnippetRunner.Run.Supervision
open Context (Fault Handle outcomeOf)

section Notes

inductive Channel where
  | empty
  | holding (event : Event)
  -- the worker ended and left nothing in it
  | closed

/-- What can happen. -/
inductive Note where
  -- how the start of the worker went, and that of its runtime
  | spawned (answer : Except Host.Fault Unit)
  | booted (answer : Except Host.Fault Unit)
  -- calls, and what they answered
  | load
  | loaded (answer : Except Fault Unit)
  | invoke
  | invoked (answer : Except Fault Invocation)
  -- the worker ended without a report
  | died
  | sent (event : Event)
  -- a report that nobody waits for any more
  | discarded (event : Event)
  -- the supervisor looked at the channel
  | looked (found : Channel)
  -- it waits until there is more in it
  | waited
  | decided (event : Event)
  | destroy
  | destroyed (answer : Except Fault Unit)
  | returned (verdict : Verdict)

namespace Note

def isCall : Note → Bool
  | .load => true
  | .loaded _ => true
  | .invoke => true
  | .invoked _ => true
  | _ => false

def isReport : Note → Bool
  | .died => true
  | .sent _ => true
  | _ => false

def isWatch : Note → Bool
  | .looked _ => true
  | .waited => true
  | _ => false

def isEnding : Note → Bool
  | .decided _ => true
  | .destroy => true
  | .destroyed _ => true
  | .returned _ => true
  | _ => false

end Note

-- The last note comes first.
abbrev Notes := List Note

def calls (notes : Notes) : Notes := notes.filter Note.isCall
def reports (notes : Notes) : Notes := notes.filter Note.isReport
def watches (notes : Notes) : Notes := notes.filter Note.isWatch
def endings (notes : Notes) : Notes := notes.filter Note.isEnding

/-- The last the supervisor did was to look at the channel, and this is what it found. -/
def Saw (notes : Notes) (found : Channel) : Prop :=
  (watches notes).head? = some (.looked found)

/-- The reports that come to this in the channel. -/
def Channel.reports : Channel → Notes
  | .empty => []
  | .holding event => [.sent event]
  | .closed => [.died]

/-- The outcome that loading and invoking have come to. -/
def Computed (notes : Notes) (outcome : Outcome) : Prop :=
  (∃ fault, calls notes = [.loaded (.error fault), .load] ∧ outcome = .fault fault.message) ∨
    ∃ answer, calls notes = [.invoked answer, .invoke, .loaded (.ok ()), .load] ∧ outcome = outcomeOf answer

/-- What a worker may report. -/
def Reportable (notes : Notes) : Event → Prop
  | .noRuntime cause => .booted (.error cause) ∈ notes
  | .reported outcome => Computed notes outcome
  | _ => False

/-- What a verdict may be taken from. -/
def Founded (notes : Notes) : Event → Prop
  | .noWorker cause => notes = [.spawned (.error cause)]
  | .noRuntime cause => Saw notes (.holding (.noRuntime cause)) ∧ reports notes = [.sent (.noRuntime cause)] ∧
      .booted (.error cause) ∈ notes
  | .reported outcome => Saw notes (.holding (.reported outcome)) ∧ reports notes = [.sent (.reported outcome)] ∧
      Computed notes outcome
  | .died => Saw notes .closed ∧ reports notes = [.died]
  | .deadline => Saw notes .empty

/-- What has to have happened, and nothing else of its kind, before a thing happens. -/
def Grounds (notes : Notes) : Note → Prop
  | .spawned _ => notes = []
  | .booted _ => .spawned (.ok ()) ∈ notes ∧ calls notes = []
  | .load => calls notes = []
  | .loaded _ => calls notes = [.load]
  | .invoke => calls notes = [.loaded (.ok ()), .load]
  | .invoked _ => calls notes = [.invoke, .loaded (.ok ()), .load]
  | .died => reports notes = []
  | .sent event => reports notes = [] ∧ endings notes = [] ∧ Reportable notes event
  | .discarded event => reports notes = [] ∧ endings notes ≠ [] ∧ Reportable notes event
  | .looked found => endings notes = [] ∧ reports notes = found.reports
  | .waited => endings notes = [] ∧ Saw notes .empty
  | .decided event => endings notes = [] ∧ Founded notes event
  | .destroy => ∃ event, endings notes = [.decided event] ∨
      ∃ fault, endings notes = [.destroyed (.error fault), .destroy, .decided event]
  | .destroyed _ => ∃ event, endings notes = [.destroy, .decided event] ∨
      ∃ fault, endings notes = [.destroy, .destroyed (.error fault), .destroy, .decided event]
  | .returned verdict => ∃ event, verdict = event.verdict ∧
      (endings notes = [.destroyed (.ok ()), .destroy, .decided event] ∨
        ∃ fault answer, endings notes =
          [.destroyed answer, .destroy, .destroyed (.error fault), .destroy, .decided event])

def Grounded : Notes → Prop
  | [] => True
  | note :: earlier => Grounds earlier note ∧ Grounded earlier

end Notes

section Grounds
variable {notes : Notes}

section Frames
variable {note : Note} (call : note.isCall = false)
include call

theorem calls_other : calls (note :: notes) = calls notes := by
  simp [calls, call]

theorem Computed.later {outcome : Outcome} (computed : Computed notes outcome) : Computed (note :: notes) outcome := by
  rw [Computed, calls_other call]
  exact computed

theorem Reportable.later {event : Event} (reportable : Reportable notes event) :
    Reportable (note :: notes) event := by
  cases event with
  | noRuntime cause => exact List.mem_cons_of_mem _ reportable
  | reported outcome => exact Computed.later call reportable
  | noWorker cause => exact reportable
  | died => exact reportable
  | deadline => exact reportable

end Frames

/-- What is found in the channel is what the worker reported. -/
theorem founded_of_reported {event : Event} (saw : Saw notes (.holding event)) (only : reports notes = [.sent event])
    (reportable : Reportable notes event) : Founded notes event := by
  cases event with
  | noWorker cause => exact reportable.elim
  | noRuntime cause => exact ⟨saw, only, reportable⟩
  | reported outcome => exact ⟨saw, only, reportable⟩
  | died => exact reportable.elim
  | deadline => exact reportable.elim

theorem decided_of_endings {others : Notes} {event : Event} (reached : endings notes = others)
    (there : .decided event ∈ others) : .decided event ∈ notes :=
  (List.mem_filter.mp (reached ▸ there : _ ∈ endings notes)).1

theorem mem_endings {note : Note} (noted : note ∈ notes) (ending : note.isEnding = true) : note ∈ endings notes :=
  List.mem_filter.mpr ⟨noted, ending⟩

/-- There is one decision. -/
theorem Grounded.one_decision (grounded : Grounded notes) (first second : Event) (one : .decided first ∈ notes)
    (other : .decided second ∈ notes) : first = second := by
  induction notes with
  | nil => cases one
  | cons note earlier ih =>
      obtain ⟨grounds, before⟩ := grounded
      have alone (event : Event) (last : note = .decided event) (more : Event) (old : .decided more ∈ earlier) :
          False := by
        subst last
        have none : endings earlier = [] := grounds.1
        exact List.ne_nil_of_mem (mem_endings old rfl) none
      rcases List.mem_cons.mp one with last | old <;> rcases List.mem_cons.mp other with last' | old'
      · exact Note.decided.inj (last.trans last'.symm)
      · exact (alone first last.symm second old').elim
      · exact (alone second last'.symm first old).elim
      · exact ih before old old'

theorem Grounded.returned_decided (grounded : Grounded notes) (verdict : Verdict) (noted : .returned verdict ∈ notes) :
    ∃ event, .decided event ∈ notes ∧ verdict = event.verdict := by
  induction notes with
  | nil => cases noted
  | cons note earlier ih =>
      rcases List.mem_cons.mp noted with last | old
      · subst last
        obtain ⟨event, same, ends⟩ := grounded.1
        refine ⟨event, List.mem_cons_of_mem _ ?_, same⟩
        rcases ends with once | ⟨fault, answer, twice⟩
        · exact decided_of_endings once (by simp)
        · exact decided_of_endings twice (by simp)
      · obtain ⟨event, decided, same⟩ := ih grounded.2 old
        exact ⟨event, List.mem_cons_of_mem _ decided, same⟩

theorem Grounded.of_append {later : Notes} (grounded : Grounded (later ++ notes)) : Grounded notes := by
  induction later with
  | nil => exact grounded
  | cons note later ih => exact ih grounded.2

/-- A verdict is taken from what had happened before it, and before anything was destroyed. -/
theorem Grounded.verdict_founded (grounded : Grounded notes) (verdict : Verdict) (noted : .returned verdict ∈ notes) :
    ∃ later event earlier, notes = later ++ .decided event :: earlier ∧ verdict = event.verdict ∧
      endings earlier = [] ∧ Founded earlier event := by
  obtain ⟨event, decided, same⟩ := grounded.returned_decided verdict noted
  obtain ⟨later, earlier, rfl⟩ := List.append_of_mem decided
  obtain ⟨grounds, _⟩ := grounded.of_append
  exact ⟨later, event, earlier, rfl, same, grounds⟩

/-- An image is loaded once, and invoked once after it was loaded well. -/
theorem Grounded.calls_once (grounded : Grounded notes) :
    (∃ answer, calls notes <:+ [.loaded answer, .load]) ∨
      ∃ answer, calls notes <:+ [.invoked answer, .invoke, .loaded (.ok ()), .load] := by
  induction notes with
  | nil => exact .inl ⟨.ok (), List.nil_suffix⟩
  | cons note earlier ih =>
      obtain ⟨grounds, before⟩ := grounded
      cases note with
      | load => exact .inl ⟨.ok (), [.loaded (.ok ())], congrArg (fun calls => [_, _] ++ calls) grounds⟩
      | loaded answer => exact .inl ⟨answer, [], congrArg (_ :: ·) grounds⟩
      | invoke =>
          exact .inr ⟨.error .destroyed, [.invoked (.error .destroyed)],
            congrArg (fun calls => [_, _] ++ calls) grounds⟩
      | invoked answer => exact .inr ⟨answer, [], congrArg (_ :: ·) grounds⟩
      | _ => exact ih before

/-- After the verdict the context is destroyed once if that goes well, and a second time if not. -/
theorem Grounded.ends_once (grounded : Grounded notes) : ∃ event,
    endings notes <:+ [.returned event.verdict, .destroyed (.ok ()), .destroy, .decided event] ∨
      ∃ fault answer, endings notes <:+ [.returned event.verdict, .destroyed answer, .destroy,
        .destroyed (.error fault), .destroy, .decided event] := by
  induction notes with
  | nil => exact ⟨.died, .inl List.nil_suffix⟩
  | cons note earlier ih =>
      obtain ⟨grounds, before⟩ := grounded
      cases note with
      | decided event =>
          exact ⟨event, .inl ⟨[_, _, _], congrArg (fun ends => [_, _, _, .decided event] ++ ends) grounds.1⟩⟩
      | destroy =>
          obtain ⟨event, first | ⟨fault, again⟩⟩ := grounds
          · exact ⟨event, .inl ⟨[_, _], congrArg (fun ends => [_, _, .destroy] ++ ends) first⟩⟩
          · exact ⟨event, .inr ⟨fault, .ok (), [_, .destroyed (.ok ())],
              congrArg (fun ends => [_, _, .destroy] ++ ends) again⟩⟩
      | destroyed answer =>
          obtain ⟨event, first | ⟨fault, again⟩⟩ := grounds
          · cases answer with
            | ok done => exact ⟨event, .inl ⟨[_], congrArg (fun ends => [_, _] ++ ends) first⟩⟩
            | error fault =>
                exact ⟨event, .inr ⟨fault, .ok (), [_, .destroyed (.ok ()), .destroy],
                  congrArg (fun ends => [_, _, _, _] ++ ends) first⟩⟩
          · exact ⟨event, .inr ⟨fault, answer, [_], congrArg (fun ends => [_, _] ++ ends) again⟩⟩
      | returned verdict =>
          obtain ⟨event, rfl, once | ⟨fault, answer, twice⟩⟩ := grounds
          · exact ⟨event, .inl ⟨[], congrArg (_ :: ·) once⟩⟩
          · exact ⟨event, .inr ⟨fault, answer, [], congrArg (_ :: ·) twice⟩⟩
      | _ => exact ih before

end Grounds

section Parties

/-- What the worker does next. -/
inductive Worker where
  | absent
  | booting
  | ready
  | loading
  | loaded
  | invoking
  | reporting (event : Event)
  | gone

/-- What the supervisor does next. -/
inductive Stage where
  | starting
  | watching
  -- it found nothing in the channel
  | idle
  | decided (event : Event)
  | destroying (event : Event)
  | failed (event : Event) (fault : Fault)
  | retrying (event : Event) (fault : Fault)
  | returned (event : Event)

inductive Work where
  | boot (answer : Except Host.Fault Unit)
  | load
  | loaded (answer : Except Fault Unit)
  | invoke
  | invoked (answer : Except Fault Invocation)
  | send
  | die

inductive Watch where
  | spawn (answer : Except Host.Fault Unit)
  | look
  | wait
  -- the deadline has come
  | expire
  | destroy
  | destroyed (answer : Except Fault Unit)

inductive Act where
  | worker (act : Work)
  | supervisor (act : Watch)

end Parties

structure Course where
  worker : Worker
  channel : Channel
  stage : Stage
  notes : Notes

namespace Course

def start : Course :=
  { worker := .absent, channel := .empty, stage := .starting, notes := [] }

section Steps

def goOn (course : Course) (worker : Worker) (note : Note) : Course :=
  { course with worker, notes := note :: course.notes }

def enter (course : Course) (stage : Stage) (note : Note) : Course :=
  { course with stage, notes := note :: course.notes }

/-- Somebody waits for a report. -/
def isOpen (course : Course) : Bool :=
  match course.stage with
  | .watching => true
  | .idle => true
  | _ => false

def send (course : Course) (event : Event) : Course :=
  if course.isOpen then { course.goOn .gone (.sent event) with channel := .holding event }
  else course.goOn .gone (.discarded event)

def work? (course : Course) : Work → Option Course
  | .boot answer =>
      match course.worker, answer with
      | .booting, .ok () => some (course.goOn .ready (.booted answer))
      | .booting, .error cause => some (course.goOn (.reporting (.noRuntime cause)) (.booted answer))
      | _, _ => none
  | .load =>
      match course.worker with
      | .ready => some (course.goOn .loading .load)
      | _ => none
  | .loaded answer =>
      match course.worker, answer with
      | .loading, .ok () => some (course.goOn .loaded (.loaded answer))
      | .loading, .error fault =>
          some (course.goOn (.reporting (.reported (.fault fault.message))) (.loaded answer))
      | _, _ => none
  | .invoke =>
      match course.worker with
      | .loaded => some (course.goOn .invoking .invoke)
      | _ => none
  | .invoked answer =>
      match course.worker with
      | .invoking => some (course.goOn (.reporting (.reported (outcomeOf answer))) (.invoked answer))
      | _ => none
  | .send =>
      match course.worker with
      | .reporting event => some (course.send event)
      | _ => none
  | .die =>
      match course.worker with
      | .absent => none
      | .gone => none
      | _ => some { course.goOn .gone .died with channel := .closed }

def look (course : Course) (stage : Stage) : Course :=
  course.enter stage (.looked course.channel)

def settle (course : Course) (event : Event) : Course :=
  course.enter (.decided event) (.decided event)

def answer (course : Course) (event : Event) : Course :=
  course.enter (.returned event) (.returned event.verdict)

def watch? (course : Course) : Watch → Option Course
  | .spawn answer =>
      match course.stage, answer with
      | .starting, .ok () => some { course.enter .watching (.spawned answer) with worker := .booting }
      | .starting, .error cause => some ((course.enter .watching (.spawned answer)).settle (.noWorker cause))
      | _, _ => none
  | .look =>
      match course.stage, course.channel with
      | .watching, .holding event => some ((course.look .watching).settle event)
      | .watching, .closed => some ((course.look .watching).settle .died)
      | .watching, .empty => some (course.look .idle)
      | _, _ => none
  | .wait =>
      match course.stage with
      | .idle => some (course.enter .watching .waited)
      | _ => none
  | .expire =>
      match course.stage with
      | .idle => some (course.settle .deadline)
      | _ => none
  | .destroy =>
      match course.stage with
      | .decided event => some (course.enter (.destroying event) .destroy)
      | .failed event fault => some (course.enter (.retrying event fault) .destroy)
      | _ => none
  | .destroyed answer =>
      match course.stage, answer with
      | .destroying event, .ok () => some ((course.enter (.destroying event) (.destroyed answer)).answer event)
      | .destroying event, .error fault => some (course.enter (.failed event fault) (.destroyed answer))
      | .retrying event fault, _ => some ((course.enter (.retrying event fault) (.destroyed answer)).answer event)
      | _, _ => none

/-- The course after a step, if the step can be taken. -/
def step? (course : Course) : Act → Option Course
  | .worker act => course.work? act
  | .supervisor act => course.watch? act

def run? (course : Course) : List Act → Option Course
  | [] => some course
  | act :: rest => (course.step? act).bind fun course => course.run? rest

end Steps

/-- All that a step of the worker can do. -/
inductive Worked (before : Course) : Course → Prop where
  | booted (there : before.worker = .booting) : Worked before (before.goOn .ready (.booted (.ok ())))
  | unbooted (cause : Host.Fault) (there : before.worker = .booting) :
      Worked before (before.goOn (.reporting (.noRuntime cause)) (.booted (.error cause)))
  | load (there : before.worker = .ready) : Worked before (before.goOn .loading .load)
  | loaded (there : before.worker = .loading) : Worked before (before.goOn .loaded (.loaded (.ok ())))
  | unloaded (fault : Fault) (there : before.worker = .loading) :
      Worked before (before.goOn (.reporting (.reported (.fault fault.message))) (.loaded (.error fault)))
  | invoke (there : before.worker = .loaded) : Worked before (before.goOn .invoking .invoke)
  | invoked (answer : Except Fault Invocation) (there : before.worker = .invoking) :
      Worked before (before.goOn (.reporting (.reported (outcomeOf answer))) (.invoked answer))
  | sent (event : Event) (there : before.worker = .reporting event) (waits : before.isOpen = true) :
      Worked before { before.goOn .gone (.sent event) with channel := .holding event }
  | discarded (event : Event) (there : before.worker = .reporting event) (late : before.isOpen = false) :
      Worked before (before.goOn .gone (.discarded event))
  | died (there : before.worker ≠ .absent) (alive : before.worker ≠ .gone) :
      Worked before { before.goOn .gone .died with channel := .closed }

/-- All that a step of the supervisor can do. -/
inductive Watched (before : Course) : Course → Prop where
  | spawned (there : before.stage = .starting) :
      Watched before { before.enter .watching (.spawned (.ok ())) with worker := .booting }
  | unspawned (cause : Host.Fault) (there : before.stage = .starting) :
      Watched before ((before.enter .watching (.spawned (.error cause))).settle (.noWorker cause))
  | reported (event : Event) (there : before.stage = .watching) (found : before.channel = .holding event) :
      Watched before ((before.look .watching).settle event)
  | closed (there : before.stage = .watching) (found : before.channel = .closed) :
      Watched before ((before.look .watching).settle .died)
  | looked (there : before.stage = .watching) (found : before.channel = .empty) : Watched before (before.look .idle)
  | waited (there : before.stage = .idle) : Watched before (before.enter .watching .waited)
  | expired (there : before.stage = .idle) : Watched before (before.settle .deadline)
  | destroy (event : Event) (there : before.stage = .decided event) :
      Watched before (before.enter (.destroying event) .destroy)
  | retry (event : Event) (fault : Fault) (there : before.stage = .failed event fault) :
      Watched before (before.enter (.retrying event fault) .destroy)
  | destroyed (event : Event) (there : before.stage = .destroying event) :
      Watched before ((before.enter (.destroying event) (.destroyed (.ok ()))).answer event)
  | failed (event : Event) (fault : Fault) (there : before.stage = .destroying event) :
      Watched before (before.enter (.failed event fault) (.destroyed (.error fault)))
  | gaveUp (event : Event) (fault : Fault) (answer : Except Fault Unit) (there : before.stage = .retrying event fault) :
      Watched before ((before.enter (.retrying event fault) (.destroyed answer)).answer event)

section Cases
variable {before after : Course}

theorem work_cases (act : Work) (taken : before.work? act = some after) : Worked before after := by
  unfold work? at taken
  split at taken
  · split at taken
    · next there =>
        cases taken
        exact .booted there
    · next cause there =>
        cases taken
        exact .unbooted cause there
    · cases taken
  · split at taken
    · next there =>
        cases taken
        exact .load there
    · cases taken
  · split at taken
    · next there =>
        cases taken
        exact .loaded there
    · next fault there =>
        cases taken
        exact .unloaded fault there
    · cases taken
  · split at taken
    · next there =>
        cases taken
        exact .invoke there
    · cases taken
  · next answer =>
      split at taken
      · next there =>
          cases taken
          exact .invoked answer there
      · cases taken
  · split at taken
    · next event there =>
        cases taken
        unfold send
        split
        · next waits => exact .sent event there waits
        · next late => exact .discarded event there (by simpa using late)
    · cases taken
  · split at taken
    · cases taken
    · cases taken
    · next present alive =>
        cases taken
        exact .died present alive

theorem watch_cases (act : Watch) (taken : before.watch? act = some after) : Watched before after := by
  unfold watch? at taken
  split at taken
  · split at taken
    · next there =>
        cases taken
        exact .spawned there
    · next cause there =>
        cases taken
        exact .unspawned cause there
    · cases taken
  · split at taken
    · next event there found =>
        cases taken
        exact .reported event there found
    · next there found =>
        cases taken
        exact .closed there found
    · next there found =>
        cases taken
        exact .looked there found
    · cases taken
  · split at taken
    · next there =>
        cases taken
        exact .waited there
    · cases taken
  · split at taken
    · next there =>
        cases taken
        exact .expired there
    · cases taken
  · split at taken
    · next event there =>
        cases taken
        exact .destroy event there
    · next event fault there =>
        cases taken
        exact .retry event fault there
    · cases taken
  · split at taken
    · next event there =>
        cases taken
        exact .destroyed event there
    · next event fault there =>
        cases taken
        exact .failed event fault there
    · next event fault there =>
        cases taken
        exact .gaveUp event fault _ there
    · cases taken

end Cases

section Invariant

/-- What a worker that is there has done. -/
def Did (notes : Notes) : Worker → Prop
  | .absent => calls notes = [] ∧ reports notes = []
  | .booting => calls notes = [] ∧ reports notes = [] ∧ .spawned (.ok ()) ∈ notes
  | .ready => calls notes = [] ∧ reports notes = []
  | .loading => calls notes = [.load] ∧ reports notes = []
  | .loaded => calls notes = [.loaded (.ok ()), .load] ∧ reports notes = []
  | .invoking => calls notes = [.invoke, .loaded (.ok ()), .load] ∧ reports notes = []
  | .reporting event => reports notes = [] ∧ Reportable notes event
  | .gone => True

/-- What the channel holds comes from a worker that is gone. -/
def Holds (notes : Notes) (worker : Worker) : Channel → Prop
  | .empty => reports notes = []
  | .holding event => worker = .gone ∧ reports notes = [.sent event] ∧ Reportable notes event
  | .closed => worker = .gone ∧ reports notes = [.died]

/-- What the supervisor has done. -/
def Reached (notes : Notes) (worker : Worker) : Stage → Prop
  | .starting => notes = [] ∧ worker = .absent
  | .watching => endings notes = []
  | .idle => endings notes = [] ∧ Saw notes .empty
  | .decided event => endings notes = [.decided event]
  | .destroying event => endings notes = [.destroy, .decided event]
  | .failed event fault => endings notes = [.destroyed (.error fault), .destroy, .decided event]
  | .retrying event fault =>
      endings notes = [.destroy, .destroyed (.error fault), .destroy, .decided event]
  | .returned event => .returned event.verdict ∈ notes ∧ .decided event ∈ notes

structure Sound (course : Course) : Prop where
  grounded : Grounded course.notes
  did : Did course.notes course.worker
  holds : Holds course.notes course.worker course.channel
  reached : Reached course.notes course.worker course.stage

theorem sound_start : Sound start :=
  ⟨trivial, ⟨rfl, rfl⟩, rfl, ⟨rfl, rfl⟩⟩

section Steps
variable {before after : Course} {note : Note}

-- What the worker notes is not about the supervisor.
theorem Reached.by_worker {notes : Notes} {worker next : Worker} {stage : Stage} (reached : Reached notes worker stage)
    (other : note.isEnding = false) (unwatched : note.isWatch = false) (present : worker ≠ .absent) :
    Reached (note :: notes) next stage := by
  have same : endings (note :: notes) = endings notes := by simp [endings, other]
  have watched : watches (note :: notes) = watches notes := by simp [watches, unwatched]
  cases stage with
  | starting => exact absurd reached.2 present
  | returned event => exact ⟨List.mem_cons_of_mem _ reached.1, List.mem_cons_of_mem _ reached.2⟩
  | idle => exact ⟨same.trans reached.1, (congrArg List.head? watched).trans reached.2⟩
  | _ => exact same.trans reached

-- While a worker goes on, nothing is in the channel.
theorem Holds.by_worker {notes : Notes} {worker next : Worker} {channel : Channel}
    (holds : Holds notes worker channel) (alive : worker ≠ .gone) (other : note.isReport = false) :
    Holds (note :: notes) next channel := by
  cases channel with
  | empty =>
      have same : reports (note :: notes) = reports notes := by simp [reports, other]
      exact same.trans holds
  | holding event => exact absurd holds.1 alive
  | closed => exact absurd holds.1 alive

section Frames
variable {notes : Notes} {worker : Worker} (call : note.isCall = false)
include call

-- What the supervisor notes is not about the worker.
theorem Did.by_supervisor (did : Did notes worker) (report : note.isReport = false) : Did (note :: notes) worker := by
  have calls : calls (note :: notes) = calls notes := calls_other call
  have reports : reports (note :: notes) = reports notes := by simp [reports, report]
  cases worker with
  | absent => exact ⟨calls.trans did.1, reports.trans did.2⟩
  | booting => exact ⟨calls.trans did.1, reports.trans did.2.1, List.mem_cons_of_mem _ did.2.2⟩
  | ready => exact ⟨calls.trans did.1, reports.trans did.2⟩
  | loading => exact ⟨calls.trans did.1, reports.trans did.2⟩
  | loaded => exact ⟨calls.trans did.1, reports.trans did.2⟩
  | invoking => exact ⟨calls.trans did.1, reports.trans did.2⟩
  | reporting event => exact ⟨reports.trans did.1, Reportable.later call did.2⟩
  | gone => trivial

theorem Holds.by_supervisor {channel : Channel} (holds : Holds notes worker channel) (report : note.isReport = false) :
    Holds (note :: notes) worker channel := by
  have reports : reports (note :: notes) = reports notes := by simp [reports, report]
  cases channel with
  | empty => exact reports.trans holds
  | holding event => exact ⟨holds.1, reports.trans holds.2.1, Reportable.later call holds.2.2⟩
  | closed => exact ⟨holds.1, reports.trans holds.2⟩

end Frames

/-- What is in the channel is what was reported. -/
theorem Holds.reports {notes : Notes} {worker : Worker} {channel : Channel} (holds : Holds notes worker channel) :
    reports notes = channel.reports := by
  cases channel with
  | empty => exact holds
  | holding event => exact holds.2.1
  | closed => exact holds.2

/-- A worker that has not ended has not reported. -/
theorem Did.silent {notes : Notes} {worker : Worker} (did : Did notes worker) (alive : worker ≠ .gone) :
    reports notes = [] := by
  cases worker with
  | absent => exact did.2
  | booting => exact did.2.1
  | ready => exact did.2
  | loading => exact did.2
  | loaded => exact did.2
  | invoking => exact did.2
  | reporting event => exact did.1
  | gone => exact absurd rfl alive

theorem Reached.undecided (reached : Reached before.notes before.worker before.stage)
    (waits : before.isOpen = true) : endings before.notes = [] := by
  cases stage : before.stage <;> simp_all [isOpen, Reached]

theorem Reached.decided (reached : Reached before.notes before.worker before.stage)
    (late : before.isOpen = false) (present : before.worker ≠ .absent) : endings before.notes ≠ [] := by
  cases stage : before.stage with
  | returned event =>
      rw [stage] at reached
      exact List.ne_nil_of_mem (List.mem_filter.mpr ⟨reached.2, rfl⟩)
  | _ => simp_all [isOpen, Reached]

/-- The worker goes on when it has grounds for what it notes and has not reported. -/
theorem Sound.goOn {worker next : Worker} (sound : Sound before) (there : before.worker = worker)
    (alive : worker ≠ .gone) (present : worker ≠ .absent) (grounds : Grounds before.notes note)
    (did : Did (note :: before.notes) next) (report : note.isReport = false) (other : note.isEnding = false)
    (unwatched : note.isWatch = false) : Sound (before.goOn next note) := by
  subst there
  exact ⟨⟨grounds, sound.grounded⟩, did, sound.holds.by_worker alive report,
    sound.reached.by_worker other unwatched present⟩

theorem sound_worked (sound : Sound before) (worked : Worked before after) : Sound after := by
  have ⟨grounded, did, _, reached⟩ := sound
  cases worked with
  | booted there =>
      rw [there] at did
      exact sound.goOn there nofun nofun ⟨did.2.2, did.1⟩ ⟨did.1, did.2.1⟩ rfl rfl rfl
  | unbooted cause there =>
      rw [there] at did
      exact sound.goOn there nofun nofun ⟨did.2.2, did.1⟩ ⟨did.2.1, List.mem_cons_self ..⟩ rfl rfl rfl
  | load there =>
      rw [there] at did
      exact sound.goOn there nofun nofun did.1 ⟨congrArg _ did.1, did.2⟩ rfl rfl rfl
  | loaded there =>
      rw [there] at did
      exact sound.goOn there nofun nofun did.1 ⟨congrArg _ did.1, did.2⟩ rfl rfl rfl
  | unloaded fault there =>
      rw [there] at did
      exact sound.goOn there nofun nofun did.1 ⟨did.2, .inl ⟨fault, congrArg _ did.1, rfl⟩⟩ rfl rfl rfl
  | invoke there =>
      rw [there] at did
      exact sound.goOn there nofun nofun did.1 ⟨congrArg _ did.1, did.2⟩ rfl rfl rfl
  | invoked answer there =>
      rw [there] at did
      exact sound.goOn there nofun nofun did.1 ⟨did.2, .inr ⟨answer, congrArg _ did.1, rfl⟩⟩ rfl rfl rfl
  | sent event there waits =>
      have undecided := Reached.undecided reached waits
      rw [there] at did reached
      exact ⟨⟨⟨did.1, undecided, did.2⟩, grounded⟩, trivial, ⟨rfl, congrArg _ did.1, Reportable.later rfl did.2⟩,
        reached.by_worker rfl rfl nofun⟩
  | discarded event there late =>
      have decided := Reached.decided reached late (by rw [there]; nofun)
      rw [there] at did
      exact sound.goOn there nofun nofun ⟨did.1, decided, did.2⟩ trivial rfl rfl rfl
  | died there alive =>
      have silent := did.silent alive
      exact ⟨⟨silent, grounded⟩, trivial, ⟨rfl, congrArg _ silent⟩, reached.by_worker rfl rfl there⟩

section Supervisor
variable (sound : Sound before)
include sound

/-- The supervisor goes on when it has grounds for what it notes. -/
theorem Sound.enter {stage : Stage} (grounds : Grounds before.notes note)
    (reached : Reached (note :: before.notes) before.worker stage) (call : note.isCall = false)
    (report : note.isReport = false) : Sound (before.enter stage note) :=
  ⟨⟨grounds, sound.grounded⟩, sound.did.by_supervisor call report, sound.holds.by_supervisor call report, reached⟩

theorem Sound.look {stage : Stage} (undecided : endings before.notes = [])
    (reached : Reached (.looked before.channel :: before.notes) before.worker stage) : Sound (before.look stage) :=
  sound.enter ⟨undecided, sound.holds.reports⟩ reached rfl rfl

theorem Sound.settle {event : Event} (undecided : endings before.notes = []) (founded : Founded before.notes event) :
    Sound (before.settle event) :=
  sound.enter ⟨undecided, founded⟩ (congrArg _ undecided) rfl rfl

end Supervisor

theorem saw_look {found : Channel} (held : before.channel = found) :
    Saw (.looked before.channel :: before.notes) found :=
  congrArg (some ∘ Note.looked) held

theorem sound_watched (sound : Sound before) (watched : Watched before after) : Sound after := by
  have ⟨grounded, did, holds, reached⟩ := sound
  cases watched with
  | spawned there =>
      rw [there] at reached
      obtain ⟨none, absent⟩ := reached
      rw [absent] at did holds
      have empty : Holds before.notes .booting before.channel := by
        cases channel : before.channel with
        | empty => exact did.2
        | holding event =>
            rw [channel] at holds
            cases holds.1
        | closed =>
            rw [channel] at holds
            cases holds.1
      refine ⟨⟨none, grounded⟩, ⟨did.1, did.2, List.mem_cons_self ..⟩, empty.by_supervisor rfl rfl, ?_⟩
      show endings (_ :: before.notes) = []
      rw [none]
      rfl
  | unspawned cause there =>
      rw [there] at reached
      have first : [Note.spawned (.error cause)] = .spawned (.error cause) :: before.notes := by rw [reached.1]
      have silent : endings (.spawned (.error cause) :: before.notes) = [] := first ▸ rfl
      have entered : Sound (before.enter .watching (.spawned (.error cause))) := sound.enter reached.1 silent rfl rfl
      exact entered.settle silent first.symm
  | reported event there found =>
      rw [there] at reached
      rw [found] at holds
      have founded : Founded (.looked before.channel :: before.notes) event :=
        founded_of_reported (saw_look found) holds.2.1 (holds.2.2.later rfl)
      have looked : Sound (before.look .watching) := sound.look reached reached
      exact looked.settle reached founded
  | closed there found =>
      rw [there] at reached
      rw [found] at holds
      have looked : Sound (before.look .watching) := sound.look reached reached
      exact looked.settle reached ⟨saw_look found, holds.2⟩
  | looked there found =>
      rw [there] at reached
      exact sound.look reached ⟨reached, saw_look found⟩
  | waited there =>
      rw [there] at reached
      exact sound.enter reached reached.1 rfl rfl
  | expired there =>
      rw [there] at reached
      exact sound.settle reached.1 reached.2
  | destroy event there =>
      rw [there] at reached
      exact sound.enter ⟨event, .inl reached⟩ (congrArg _ reached) rfl rfl
  | retry event fault there =>
      rw [there] at reached
      exact sound.enter ⟨event, .inr ⟨fault, reached⟩⟩ (congrArg _ reached) rfl rfl
  | destroyed event there =>
      rw [there] at reached
      have ended : endings (.destroyed (.ok ()) :: before.notes) = [.destroyed (.ok ()), .destroy, .decided event] :=
        congrArg _ reached
      have decided : .decided event ∈ before.notes := decided_of_endings reached (by simp)
      exact ⟨⟨⟨event, rfl, .inl ended⟩, ⟨event, .inl reached⟩, grounded⟩,
        (did.by_supervisor rfl rfl).by_supervisor rfl rfl, (holds.by_supervisor rfl rfl).by_supervisor rfl rfl,
        List.mem_cons_self .., List.mem_cons_of_mem _ (List.mem_cons_of_mem _ decided)⟩
  | failed event fault there =>
      rw [there] at reached
      exact sound.enter ⟨event, .inl reached⟩ (congrArg _ reached) rfl rfl
  | gaveUp event fault answer there =>
      rw [there] at reached
      have ended : endings (.destroyed answer :: before.notes) =
          [.destroyed answer, .destroy, .destroyed (.error fault), .destroy, .decided event] := congrArg _ reached
      have decided : .decided event ∈ before.notes := decided_of_endings reached (by simp)
      exact ⟨⟨⟨event, rfl, .inr ⟨fault, answer, ended⟩⟩, ⟨event, .inr ⟨fault, reached⟩⟩, grounded⟩,
        (did.by_supervisor rfl rfl).by_supervisor rfl rfl, (holds.by_supervisor rfl rfl).by_supervisor rfl rfl,
        List.mem_cons_self .., List.mem_cons_of_mem _ (List.mem_cons_of_mem _ decided)⟩

end Steps
end Invariant

section Runs
variable {before after course : Course}

theorem stepwise : Stepwise step? run? :=
  ⟨fun _ => rfl, fun _ _ _ => rfl⟩

theorem run_preserves (kept : Course → Prop) (worked : ∀ before after, kept before → Worked before after → kept after)
    (watched : ∀ before after, kept before → Watched before after → kept after)
    (acts : List Act) (begun : kept before) (ran : before.run? acts = some after) : kept after := by
  refine stepwise.preserves kept (fun act before after now taken => ?_) acts begun ran
  cases act with
  | worker act => exact worked before after now (work_cases act taken)
  | supervisor act => exact watched before after now (watch_cases act taken)

theorem sound_run (acts : List Act) (ran : start.run? acts = some course) : Sound course :=
  run_preserves Sound (fun _ _ => sound_worked) (fun _ _ => sound_watched) acts sound_start ran

/-- What has happened stays noted. -/
theorem notes_grow (acts : List Act) (note : Note) (noted : note ∈ before.notes) (ran : before.run? acts = some after) :
    note ∈ after.notes := by
  refine run_preserves (fun now => note ∈ now.notes) (fun before after noted worked => ?_)
    (fun before after noted watched => ?_) acts noted ran
  · cases worked <;> exact List.mem_cons_of_mem _ noted
  · cases watched with
    | reported event there found => exact List.mem_cons_of_mem _ (List.mem_cons_of_mem _ noted)
    | closed there found => exact List.mem_cons_of_mem _ (List.mem_cons_of_mem _ noted)
    | unspawned cause there => exact List.mem_cons_of_mem _ (List.mem_cons_of_mem _ noted)
    | destroyed event there => exact List.mem_cons_of_mem _ (List.mem_cons_of_mem _ noted)
    | gaveUp event fault answer there => exact List.mem_cons_of_mem _ (List.mem_cons_of_mem _ noted)
    | _ => exact List.mem_cons_of_mem _ noted

section Progress
variable {verdict : Verdict} {event : Event}

def Act.isSupervisor : Act → Bool
  | .worker _ => false
  | .supervisor _ => true

/-- What a call of destroy answers in a step. -/
def Act.destroyed? : Act → Option (Except Fault Unit)
  | .supervisor (.destroyed answer) => some answer
  | _ => none

/-- The supervisor alone comes to the verdict, whatever its calls of destroy answer. -/
def Finishes (course : Course) (verdict : Verdict) : Prop :=
  ∀ first second : Except Fault Unit, ∃ onward final, (∀ act ∈ onward, Act.isSupervisor act = true) ∧
    onward.filterMap Act.destroyed? <+: [first, second] ∧
    course.run? onward = some final ∧ .returned verdict ∈ final.notes

theorem Finishes.step {next : Course} (act : Watch) (other : Act.destroyed? (.supervisor act) = none)
    (taken : course.step? (.supervisor act) = some next) (finishes : Finishes next verdict) :
    Finishes course verdict := by
  intro first second
  obtain ⟨onward, final, alone, answers, ran, noted⟩ := finishes first second
  refine ⟨.supervisor act :: onward, final, ?_, ?_, ?_, noted⟩
  · intro found member
    rcases List.mem_cons.mp member with rfl | later
    · rfl
    · exact alone found later
  · rwa [List.filterMap_cons_none other]
  · rw [run?, taken]
    exact ran

theorem finishes_retrying (fault : Fault) (there : course.stage = .retrying event fault) :
    Finishes course event.verdict := by
  intro first second
  let final := (course.enter (.retrying event fault) (.destroyed first)).answer event
  refine ⟨[.supervisor (.destroyed first)], final, by simp [Act.isSupervisor], by simp [Act.destroyed?], ?_,
    List.mem_cons_self ..⟩
  simp only [run?, step?, watch?, there]
  rfl

theorem finishes_failed (fault : Fault) (there : course.stage = .failed event fault) :
    Finishes course event.verdict :=
  .step .destroy rfl (by simp only [step?, watch?, there]; rfl) (finishes_retrying fault rfl)

theorem finishes_destroying (there : course.stage = .destroying event) : Finishes course event.verdict := by
  intro first second
  cases first with
  | ok done =>
      let final := (course.enter (.destroying event) (.destroyed (.ok ()))).answer event
      refine ⟨[.supervisor (.destroyed (.ok ()))], final, by simp [Act.isSupervisor], by simp [Act.destroyed?], ?_,
        List.mem_cons_self ..⟩
      simp only [run?, step?, watch?, there]
      rfl
  | error fault =>
      let failed := course.enter (.failed event fault) (.destroyed (.error fault))
      let again := failed.enter (.retrying event fault) .destroy
      let final := (again.enter (.retrying event fault) (.destroyed second)).answer event
      refine ⟨[.supervisor (.destroyed (.error fault)), .supervisor .destroy, .supervisor (.destroyed second)], final,
        by simp [Act.isSupervisor], by simp [List.filterMap, Act.destroyed?], ?_, List.mem_cons_self ..⟩
      simp only [run?, step?, watch?, there]
      rfl

theorem finishes_decided (there : course.stage = .decided event) : Finishes course event.verdict :=
  .step .destroy rfl (by simp only [step?, watch?, there]; rfl) (finishes_destroying rfl)

theorem finishes_idle (there : course.stage = .idle) : Finishes course Event.deadline.verdict :=
  .step .expire rfl (by simp only [step?, watch?, there]; rfl) (finishes_decided rfl)

theorem finishes_watching (there : course.stage = .watching) : ∃ verdict, Finishes course verdict := by
  cases found : course.channel with
  | empty => exact ⟨_, .step .look rfl (by simp only [step?, watch?, there, found]; rfl) (finishes_idle rfl)⟩
  | holding event => exact ⟨_, .step .look rfl (by simp only [step?, watch?, there, found]; rfl) (finishes_decided rfl)⟩
  | closed => exact ⟨_, .step .look rfl (by simp only [step?, watch?, there, found]; rfl) (finishes_decided rfl)⟩

theorem finishes (sound : Sound course) : ∃ verdict, Finishes course verdict := by
  have reached := sound.reached
  cases there : course.stage with
  | starting =>
      let next := { course.enter .watching (.spawned (.ok ())) with worker := .booting }
      have watching : next.stage = .watching := rfl
      obtain ⟨verdict, later⟩ := finishes_watching watching
      exact ⟨verdict, .step (.spawn (.ok ())) rfl (by simp only [step?, watch?, there]; rfl) later⟩
  | watching => exact finishes_watching there
  | idle => exact ⟨_, finishes_idle there⟩
  | decided event => exact ⟨_, finishes_decided there⟩
  | destroying event => exact ⟨_, finishes_destroying there⟩
  | failed event fault => exact ⟨_, finishes_failed fault there⟩
  | retrying event fault => exact ⟨_, finishes_retrying fault there⟩
  | returned event =>
      rw [there] at reached
      exact ⟨event.verdict, fun _ _ => ⟨[], course, nofun, List.nil_prefix, rfl, reached.1⟩⟩

end Progress

section Laws

/-- What can be said of a supervised run at every moment, and of how it goes on. -/
structure Lawful (course : Course) : Prop where
  grounded : Grounded course.notes
  called : (∃ answer, calls course.notes <:+ [.loaded answer, .load]) ∨
    ∃ answer, calls course.notes <:+ [.invoked answer, .invoke, .loaded (.ok ()), .load]
  ended : ∃ event,
    endings course.notes <:+ [.returned event.verdict, .destroyed (.ok ()), .destroy, .decided event] ∨
      ∃ fault answer, endings course.notes <:+ [.returned event.verdict, .destroyed answer, .destroy,
        .destroyed (.error fault), .destroy, .decided event]
  founded (verdict : Verdict) : .returned verdict ∈ course.notes →
    ∃ later event earlier, course.notes = later ++ .decided event :: earlier ∧ verdict = event.verdict ∧
      endings earlier = [] ∧ Founded earlier event
  finishes : ∃ verdict, Finishes course verdict
  settled (event : Event) : .decided event ∈ course.notes → ∀ acts later verdict,
    course.run? acts = some later → .returned verdict ∈ later.notes → verdict = event.verdict

/-- Whatever a context answers and in whatever order things come, a supervised run has one verdict. It was taken, before
anything was destroyed, from a worker that could not be started or from what the last look at the channel had found: a
report, the end of the worker without one, or nothing when the deadline came. Nothing that comes later changes it; an
image is loaded and invoked once at most, and the context is destroyed after the verdict, twice if it fails once. -/
theorem supervised_run_is_lawful (acts : List Act) (course : Course) (ran : start.run? acts = some course) :
    Lawful course where
  grounded := (sound_run acts ran).grounded
  called := (sound_run acts ran).grounded.calls_once
  ended := (sound_run acts ran).grounded.ends_once
  founded := (sound_run acts ran).grounded.verdict_founded
  finishes := finishes (sound_run acts ran)
  settled event decided onward later verdict went noted := by
    have sound := run_preserves Sound (fun _ _ => sound_worked) (fun _ _ => sound_watched) onward
      (sound_run acts ran) went
    obtain ⟨other, settled, same⟩ := sound.grounded.returned_decided verdict noted
    have one := sound.grounded.one_decision event other (notes_grow onward _ decided went) settled
    rw [same, one]

-- An image runs, its report comes in time, and the context is destroyed at the second try.
def ordinaryActs : List Act :=
  [.supervisor (.spawn (.ok ())), .worker (.boot (.ok ())), .worker .load, .supervisor .look, .supervisor .wait,
    .worker (.loaded (.ok ())), .worker .invoke, .worker (.invoked (.ok ⟨.code 0, none, []⟩)), .worker .send,
    .supervisor .look, .supervisor .destroy, .supervisor (.destroyed (.error .destroyed)), .supervisor .destroy,
    .supervisor (.destroyed (.ok ()))]

-- Nothing is found at the second look either, and the deadline has come.
def lateActs : List Act :=
  [.supervisor (.spawn (.ok ())), .worker (.boot (.ok ())), .supervisor .look, .supervisor .wait, .worker .load,
    .supervisor .look, .supervisor .expire, .worker (.loaded (.ok ())), .supervisor .destroy,
    .supervisor (.destroyed (.ok ()))]

theorem supervised_run_in_time :
    (∃ course, start.run? ordinaryActs = some course ∧
      .returned (.completed (.value none)) ∈ course.notes ∧ Lawful course) ∧
    ∃ course, start.run? lateActs = some course ∧ .returned .timedOut ∈ course.notes ∧ Lawful course := by
  refine ⟨⟨_, rfl, List.mem_cons_self .., ?_⟩, ⟨_, rfl, List.mem_cons_self .., ?_⟩⟩
  · exact supervised_run_is_lawful ordinaryActs _ rfl
  · exact supervised_run_is_lawful lateActs _ rfl

end Laws

section Schedules
variable {σ : Type} (conditions : Conditions) (handle : Handle σ) (image : Bytes) (state : σ)

/-- A step is one of a context with this handle. -/
def Follows : Act → Prop
  | .worker (.loaded answer) => (handle.load image state).1 = answer
  | .worker (.invoked answer) => (handle.invoke (handle.load image state).2).1 = .answered answer
  | _ => True

/-- The steps to a verdict. -/
def Decides (acts : List Act) (verdict : Verdict) : Prop :=
  ∃ middle event, start.run? acts = some middle ∧ middle.stage = .decided event ∧ event.verdict = verdict ∧
    (∀ act ∈ acts, Follows handle image state act) ∧ acts.filterMap Act.destroyed? = []

theorem decides_as_run : ∃ acts, Decides handle image state acts (run conditions handle image state).1 := by
  obtain ⟨worker, runtime, late⟩ := conditions
  let begun : List Act := [.supervisor (.spawn (.ok ())), .worker (.boot (.ok ())), .worker .load]
  let told : List Act := [.worker .send, .supervisor .look]
  let expired : List Act := [.supervisor .look, .supervisor .expire]
  cases worker with
  | error cause =>
      refine ⟨[.supervisor (.spawn (.error cause))], _, _, rfl, rfl, ?_, by simp [Follows], rfl⟩
      simp [run, work, events, verdict]
  | ok done =>
      cases late with
      | true =>
          refine ⟨.supervisor (.spawn (.ok ())) :: expired, _, _, rfl, rfl, ?_, by simp [expired, Follows], rfl⟩
          simp [run, events, verdict]
      | false =>
          cases runtime with
          | error cause =>
              refine ⟨[.supervisor (.spawn (.ok ())), .worker (.boot (.error cause))] ++ told, _, _, rfl, rfl, ?_,
                by simp [told, Follows], rfl⟩
              simp [run, work, events, verdict]
          | ok done =>
              rcases load : handle.load image state with ⟨fault | done, loaded⟩
              · refine ⟨begun ++ [.worker (.loaded (.error fault))] ++ told, _, _, rfl, rfl, ?_,
                  by simp [begun, told, Follows, load], rfl⟩
                simp [run, work, events, verdict, Handle.loadAndRun, load]
              · rcases invoke : handle.invoke loaded with ⟨answer | _ | _, invoked⟩
                · refine ⟨begun ++ [.worker (.loaded (.ok ())), .worker .invoke, .worker (.invoked answer)] ++ told,
                    _, _, rfl, rfl, ?_, by simp [begun, told, Follows, load, invoke], rfl⟩
                  simp [run, work, events, verdict, Handle.loadAndRun, load, invoke]
                · refine ⟨begun ++ [.worker (.loaded (.ok ())), .worker .invoke, .worker .die, .supervisor .look],
                    _, _, rfl, rfl, ?_, by simp [begun, Follows, load], rfl⟩
                  simp [run, work, events, verdict, Handle.loadAndRun, load, invoke]
                · refine ⟨begun ++ [.worker (.loaded (.ok ())), .worker .invoke] ++ expired,
                    _, _, rfl, rfl, ?_, by simp [begun, expired, Follows, load], rfl⟩
                  simp [run, work, events, verdict, Handle.loadAndRun, load, invoke]

/-- A run that is made in one go is a schedule of the steps. -/
theorem run_is_schedule :
    let left := (work conditions handle image state).2
    ∃ acts course, start.run? acts = some course ∧
      .returned (run conditions handle image state).1 ∈ course.notes ∧
      (∀ act ∈ acts, Follows handle image state act) ∧
      acts.filterMap Act.destroyed? <+: [(handle.destroy left).1, (handle.destroy (handle.destroy left).2).1] := by
  obtain ⟨acts, middle, event, ran, decided, same, follows, undestroyed⟩ := decides_as_run conditions handle image state
  intro left
  obtain ⟨onward, final, alone, answers, went, noted⟩ :=
    finishes_decided decided (handle.destroy left).1 (handle.destroy (handle.destroy left).2).1
  have whole : start.run? (acts ++ onward) = some final := by rw [stepwise.append, ran, Option.bind_some, went]
  refine ⟨acts ++ onward, final, whole, same ▸ noted, fun act member => ?_, ?_⟩
  · rcases List.mem_append.mp member with early | late
    · exact follows act early
    · cases act with
      | worker act => cases alone _ late
      | supervisor act => trivial
  · rwa [List.filterMap_append, undestroyed, List.nil_append]

end Schedules
end Runs
end Course
end SnippetRunner.Run.Supervision

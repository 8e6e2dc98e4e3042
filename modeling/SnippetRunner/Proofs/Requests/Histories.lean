import SnippetRunner.Proofs.Requests.Traffic

/-!
What a request has done when it has come to a stage, and what was done with its context. A request has noted the
answers of its own stages in their order, up to the first that failed; its context is its own, and nothing is
loaded into it but what was compiled for it.
-/

namespace SnippetRunner.Request
open Context (Supply)
open Files (Tree)
open Run (Supervision.Act Supervision.Course Supervision.Note Supervision.Verdict)
variable {φ σ : Type}

section Results

/-- The result that the answers of its own stages dictate: the first that failed decides. -/
def dictated (deadline : Span) : List Note → Option Result
  | .judged false :: _ => some .rejected
  | .opened (.error cause) :: _ => some (.supervisionFault (Compile.Fault.toolchain cause).message)
  | .swept _ :: .compiled (.error (.diagnostics reports)) :: _ => some (.compileError reports)
  | .swept _ :: .compiled (.error .emitEmpty) :: _ => some .emitEmpty
  | .swept _ :: .compiled (.error (.timeout limit)) :: _ =>
      some (.supervisionFault (Compile.Fault.timeout limit).message)
  | .swept _ :: .compiled (.error (.toolchain cause)) :: _ =>
      some (.supervisionFault (Compile.Fault.toolchain cause).message)
  | .created (.error fault) :: _ => some (.supervisionFault fault.message)
  | .supervised (.completed (.value text)) :: _ => some (.value text)
  | .supervised (.completed (.fault message)) :: _ => some (.runtimeFault message)
  | .supervised .timedOut :: _ => some (.timeout deadline)
  | .supervised (.faulted message) :: _ => some (.supervisionFault message)
  | _ => none

theorem dictated_failed (deadline : Span) (directory : String) (fault : Compile.Fault) (earlier : List Note) :
    dictated deadline (.swept directory :: .compiled (.error fault) :: earlier) = some (ofCompileFault fault) := by
  cases fault <;> rfl

theorem dictated_verdict (deadline : Span) (verdict : Supervision.Verdict) (earlier : List Note) :
    dictated deadline (.supervised verdict :: earlier) = some (ofVerdict deadline verdict) := by
  rcases verdict with outcome | _ | message
  · cases outcome <;> rfl
  · rfl
  · rfl

end Results

namespace Traffic
variable (executor : Executor φ σ)

/-- A context of a call. -/
structure OwnRoom (rooms : List (Room σ)) (index number : Nat) (image : Bytes) (room : Room σ) : Prop where
  there : rooms[number]? = some room
  owner : room.owner = index
  image : room.image = image

/-- What a call has noted when it is at a stage. -/
inductive Reached (rooms : List (Room σ)) (index : Nat) (snippet : String) : Stage → List Note → Prop where
  | arrived : Reached rooms index snippet .arrived []
  | rejected (refuses : executor.accepts snippet = false) :
      Reached rooms index snippet (.returned .rejected) [.judged false]
  | accepted (accepts : executor.accepts snippet = true) : Reached rooms index snippet .accepted [.judged true]
  | unopened (accepts : executor.accepts snippet = true) (cause : Host.Fault) :
      Reached rooms index snippet (.returned (ofCompileFault (.toolchain cause)))
        [.opened (.error cause), .judged true]
  | building (accepts : executor.accepts snippet = true) (directory : String) :
      Reached rooms index snippet (.building directory) [.opened (.ok directory), .judged true]
  | built (accepts : executor.accepts snippet = true) (directory : String) (answer : Except Compile.Fault Bytes) :
      Reached rooms index snippet (.built directory answer)
        [.compiled answer, .opened (.ok directory), .judged true]
  | failed (accepts : executor.accepts snippet = true) (directory : String) (fault : Compile.Fault) :
      Reached rooms index snippet (.returned (ofCompileFault fault))
        [.swept directory, .compiled (.error fault), .opened (.ok directory), .judged true]
  | compiled (accepts : executor.accepts snippet = true) (directory : String) (image : Bytes) :
      Reached rooms index snippet (.compiled image)
        [.swept directory, .compiled (.ok image), .opened (.ok directory), .judged true]
  | refused (accepts : executor.accepts snippet = true) (directory : String) (image : Bytes) (fault : Context.Fault) :
      Reached rooms index snippet (.returned (.supervisionFault fault.message))
        [.created (.error fault), .swept directory, .compiled (.ok image), .opened (.ok directory), .judged true]
  | running (accepts : executor.accepts snippet = true) (directory : String) (image : Bytes) (number : Nat)
      (room : Room σ) (own : OwnRoom rooms index number image room) :
      Reached rooms index snippet (.running number)
        [.created (.ok number), .swept directory, .compiled (.ok image), .opened (.ok directory), .judged true]
  | ended (accepts : executor.accepts snippet = true) (directory : String) (image : Bytes) (number : Nat)
      (room : Room σ) (own : OwnRoom rooms index number image room) (verdict : Supervision.Verdict)
      (returned : .returned verdict ∈ room.course.notes) :
      Reached rooms index snippet (.returned (ofVerdict executor.settings.timeout verdict))
        [.supervised verdict, .created (.ok number), .swept directory, .compiled (.ok image),
          .opened (.ok directory), .judged true]

section Reached
variable {rooms later : List (Room σ)} {index : Nat} {snippet : String} {stage : Stage} {notes : List Note}

/-- Contexts stay with their calls, and what has happened stays noted. -/
def Grows (rooms later : List (Room σ)) : Prop :=
  ∀ index number image room, OwnRoom rooms index number image room →
    ∃ after, OwnRoom later index number image after ∧
      ∀ note ∈ room.course.notes, note ∈ after.course.notes

theorem grows_refl (rooms : List (Room σ)) : Grows rooms rooms :=
  fun _ _ _ room own => ⟨room, own, fun _ noted => noted⟩

theorem grows_append (rooms : List (Room σ)) (new : Room σ) : Grows rooms (rooms ++ [new]) :=
  fun _ _ _ room own =>
    ⟨room, ⟨(List.getElem?_append_left (List.getElem?_eq_some_iff.mp own.there).1).trans own.there, own.owner,
      own.image⟩, fun _ noted => noted⟩

theorem grows_set (number : Nat) (old new : Room σ) (there : rooms[number]? = some old) (owner : new.owner = old.owner)
    (image : new.image = old.image) (notes : ∀ note ∈ old.course.notes, note ∈ new.course.notes) :
    Grows rooms (rooms.set number new) := by
  intro index other image' room own
  by_cases same : other = number
  · subst same
    cases there.symm.trans own.there
    have bound := (List.getElem?_eq_some_iff.mp there).1
    exact ⟨new, ⟨List.getElem?_set_self bound, owner.trans own.owner, image.trans own.image⟩, notes⟩
  · exact ⟨room, ⟨(List.getElem?_set_ne (Ne.symm same)).trans own.there, own.owner, own.image⟩, fun _ noted => noted⟩

theorem Reached.grow (reached : Reached executor rooms index snippet stage notes) (grows : Grows rooms later) :
    Reached executor later index snippet stage notes := by
  cases reached with
  | arrived => exact .arrived
  | rejected refuses => exact .rejected refuses
  | accepted accepts => exact .accepted accepts
  | unopened accepts cause => exact .unopened accepts cause
  | building accepts directory => exact .building accepts directory
  | built accepts directory answer => exact .built accepts directory answer
  | failed accepts directory fault => exact .failed accepts directory fault
  | compiled accepts directory image => exact .compiled accepts directory image
  | refused accepts directory image fault => exact .refused accepts directory image fault
  | running accepts directory image number room own =>
      obtain ⟨after, kept, _⟩ := grows _ _ _ _ own
      exact .running accepts directory image number after kept
  | ended accepts directory image number room own verdict returned =>
      obtain ⟨after, kept, noted⟩ := grows _ _ _ _ own
      exact .ended accepts directory image number after kept verdict (noted _ returned)

/-- A call has returned what its stages dictate, or has not returned. -/
theorem Reached.dictates (reached : Reached executor rooms index snippet stage notes) :
    (Call.mk snippet stage notes).result? = dictated executor.settings.timeout notes := by
  cases reached with
  | built accepts directory answer => cases answer <;> rfl
  | failed accepts directory fault => exact (dictated_failed _ _ _ _).symm
  | ended accepts directory image number room own verdict returned => exact (dictated_verdict _ _ _).symm
  | _ => rfl

section Before
variable {directory : String} {answer : Except Compile.Fault Bytes} {image : Bytes} {number : Nat}

theorem Reached.arriving (reached : Reached executor rooms index snippet .arrived notes) : notes = [] := by
  cases reached with
  | arrived => rfl

theorem Reached.accepting (reached : Reached executor rooms index snippet .accepted notes) :
    executor.accepts snippet = true ∧ notes = [.judged true] := by
  cases reached with
  | accepted accepts => exact ⟨accepts, rfl⟩

theorem Reached.opening (reached : Reached executor rooms index snippet (.building directory) notes) :
    executor.accepts snippet = true ∧ notes = [.opened (.ok directory), .judged true] := by
  cases reached with
  | building accepts => exact ⟨accepts, rfl⟩

theorem Reached.awaiting (reached : Reached executor rooms index snippet (.built directory answer) notes) :
    executor.accepts snippet = true ∧ notes = [.compiled answer, .opened (.ok directory), .judged true] := by
  cases reached with
  | built accepts => exact ⟨accepts, rfl⟩

theorem Reached.compiling (reached : Reached executor rooms index snippet (.compiled image) notes) :
    executor.accepts snippet = true ∧ ∃ directory,
      notes = [.swept directory, .compiled (.ok image), .opened (.ok directory), .judged true] := by
  cases reached with
  | compiled accepts directory => exact ⟨accepts, directory, rfl⟩

theorem Reached.supervising (reached : Reached executor rooms index snippet (.running number) notes) :
    executor.accepts snippet = true ∧ ∃ directory image room, OwnRoom rooms index number image room ∧
      notes = [.created (.ok number), .swept directory, .compiled (.ok image), .opened (.ok directory),
        .judged true] := by
  cases reached with
  | running accepts directory image number room own => exact ⟨accepts, directory, image, room, own, rfl⟩

end Before
end Reached

section Courses
open Run.Supervision (Work Watch)
variable {course later : Supervision.Course} {act : Supervision.Act}

def isLoaded : Supervision.Note → Bool
  | .loaded _ => true
  | _ => false

def isLoading : Supervision.Act → Bool
  | .worker (.loaded _) => true
  | _ => false

/-- A course notes a load when one has been answered. -/
theorem count_loaded (taken : course.step? act = some later) :
    later.notes.countP isLoaded = course.notes.countP isLoaded + (if isLoading act then 1 else 0) := by
  cases act with
  | worker act =>
      cases act with
      | send =>
          simp only [Supervision.Course.step?, Supervision.Course.work?] at taken
          split at taken
          · cases taken
            unfold Supervision.Course.send
            split <;> simp [Supervision.Course.goOn, isLoaded, isLoading]
          · cases taken
      | _ =>
          simp only [Supervision.Course.step?, Supervision.Course.work?] at taken
          split at taken <;> cases taken <;> simp [Supervision.Course.goOn, List.countP_cons, isLoaded, isLoading]
  | supervisor act =>
      cases act <;> simp only [Supervision.Course.step?, Supervision.Course.watch?] at taken <;> split at taken <;>
        cases taken <;>
        simp [Supervision.Course.enter, Supervision.Course.look, Supervision.Course.settle, Supervision.Course.answer,
          isLoaded, isLoading]

theorem run_step (acts : List Supervision.Act) (ran : Supervision.Course.start.run? acts = some course)
    (taken : course.step? act = some later) : Supervision.Course.start.run? (acts ++ [act]) = some later := by
  rw [Supervision.Course.stepwise.append, ran, Option.bind_some, Supervision.Course.run?, taken]
  rfl

theorem notes_step (taken : course.step? act = some later) (note : Supervision.Note) (noted : note ∈ course.notes) :
    note ∈ later.notes := by
  refine Supervision.Course.notes_grow [act] note noted ?_
  rw [Supervision.Course.run?, taken]
  rfl

end Courses

section Rooms
variable {supply : Supply φ σ} {room before after : Room σ} {factory : φ} {files : Tree} {outside : φ × Tree}

/-- A context is supervised from its start, and nothing but its image is loaded into it. -/
structure RoomKept (room : Room σ) : Prop where
  supervised : ∃ acts, Supervision.Course.start.run? acts = some room.course
  loads : room.loads = List.replicate (room.course.notes.countP isLoaded) room.image
  done : room.left = true → Room.isDone room.course = true

theorem roomKept_new (guest : σ) (owner : Nat) (image : Bytes) : RoomKept (Room.new guest owner image) :=
  ⟨⟨[], rfl⟩, rfl, nofun⟩

theorem RoomKept.supervision (kept : RoomKept room) : Supervision.Course.Sound room.course := by
  obtain ⟨acts, ran⟩ := kept.supervised
  exact Supervision.Course.sound_run acts ran

/-- An image is loaded once at most. -/
theorem RoomKept.loads_once (kept : RoomKept room) : room.loads = [] ∨ room.loads = [room.image] := by
  have only : room.course.notes.countP isLoaded = (Run.Supervision.calls room.course.notes).countP isLoaded := by
    rw [Run.Supervision.calls, List.countP_filter]
    refine List.countP_congr fun note _ => ?_
    cases note <;> simp [isLoaded, Supervision.Note.isCall]
  have once : room.course.notes.countP isLoaded ≤ 1 := by
    rw [only]
    rcases kept.supervision.grounded.calls_once with ⟨answer, short⟩ | ⟨answer, whole⟩
    · exact short.sublist.countP_le
    · exact whole.sublist.countP_le
  rw [kept.loads]
  rcases Nat.le_one_iff_eq_zero_or_eq_one.mp once with none | one
  · exact .inl (by rw [none]; rfl)
  · exact .inr (by rw [one]; rfl)

structure RoomGrows (before after : Room σ) : Prop where
  owner : after.owner = before.owner
  image : after.image = before.image
  notes : ∀ note ∈ before.course.notes, note ∈ after.course.notes

theorem RoomMoved.grows (moved : RoomMoved supply before factory files after outside) : RoomGrows before after := by
  cases moved with
  | plain act course plain taken => exact ⟨rfl, rfl, notes_step taken⟩
  | load answer guest course called taken => exact ⟨rfl, rfl, notes_step taken⟩
  | invoke reply guest course called taken => exact ⟨rfl, rfl, notes_step taken⟩
  | await reply guest waited called => exact ⟨rfl, rfl, fun _ noted => noted⟩
  | report answer course replied taken => exact ⟨rfl, rfl, notes_step taken⟩
  | destroy answer guest course called taken => exact ⟨rfl, rfl, notes_step taken⟩
  | leave done => exact ⟨rfl, rfl, fun _ noted => noted⟩

/-- A step of the course that loads nothing. -/
theorem RoomKept.go (kept : RoomKept before) (course : Supervision.Course) (act : Supervision.Act)
    (taken : before.course.step? act = some course) (other : isLoading act = false) (same : after.course = course)
    (image : after.image = before.image) (loads : after.loads = before.loads) (present : after.left = false) :
    RoomKept after := by
  obtain ⟨acts, ran⟩ := kept.supervised
  refine ⟨⟨_, same ▸ run_step acts ran taken⟩, ?_, fun left => absurd left (by rw [present]; nofun)⟩
  rw [loads, kept.loads, same, image, count_loaded taken, other]
  rfl

theorem isLoading_of_plain (act : Supervision.Act) (plain : Room.isPlain act = true) : isLoading act = false := by
  cases act with
  | worker act => cases act <;> first | rfl | cases plain
  | supervisor act => rfl

theorem RoomMoved.kept (moved : RoomMoved supply before factory files after outside) (kept : RoomKept before)
    (present : before.left = false) : RoomKept after := by
  cases moved with
  | plain act course plain taken => exact kept.go course act taken (isLoading_of_plain act plain) rfl rfl rfl present
  | load answer guest course called taken =>
      obtain ⟨acts, ran⟩ := kept.supervised
      refine ⟨⟨_, run_step acts ran taken⟩, ?_, fun left => absurd left (by rw [present]; nofun)⟩
      rw [count_loaded taken]
      exact congrArg (before.image :: ·) kept.loads
  | invoke reply guest course called taken => exact kept.go course _ taken rfl rfl rfl rfl present
  | await reply guest waited called => exact ⟨kept.supervised, kept.loads, kept.done⟩
  | report answer course replied taken => exact kept.go course _ taken rfl rfl rfl rfl present
  | destroy answer guest course called taken => exact kept.go course _ taken rfl rfl rfl rfl present
  | leave done => exact ⟨kept.supervised, kept.loads, fun _ => done⟩

end Rooms

section Traffic
variable {before after : Traffic φ σ} {index : Nat} {call : Call}

/-- The context was made for its call, from what was compiled for it. -/
def Owned (calls : List Call) (number : Nat) (room : Room σ) : Prop :=
  ∃ call, calls[room.owner]? = some call ∧ .created (.ok number) ∈ call.notes ∧ .compiled (.ok room.image) ∈ call.notes

/-- What calls and contexts have done, at every moment. -/
structure Kept (traffic : Traffic φ σ) : Prop where
  reached (index : Nat) (call : Call) : traffic.calls[index]? = some call →
    Reached executor traffic.rooms index call.snippet call.stage call.notes
  rooms : ∀ room ∈ traffic.rooms, RoomKept room
  owned (number : Nat) (room : Room σ) : traffic.rooms[number]? = some room → Owned traffic.calls number room

theorem kept_start (factory : φ) (files : Tree) : Kept executor (start factory files : Traffic φ σ) :=
  ⟨fun _ _ none => (by simp [start] at none), fun _ none => (by simp [start] at none),
    fun _ _ none => (by simp [start] at none)⟩

/-- What a call has noted when it has gone on. -/
theorem CallMoved.reached (moved : CallMoved executor before index call after)
    (reached : Reached executor before.rooms index call.snippet call.stage call.notes)
    (rooms : ∀ room ∈ before.rooms, RoomKept room) :
    ∃ stage note, after.calls = before.calls.set index (call.go stage note) ∧
      Reached executor after.rooms index call.snippet stage (note :: call.notes) := by
  cases moved with
  | accepted stage accepts =>
      rw [stage] at reached
      exact ⟨_, _, rfl, reached.arriving ▸ .accepted accepts⟩
  | rejected stage refuses =>
      rw [stage] at reached
      exact ⟨_, _, rfl, reached.arriving ▸ .rejected refuses⟩
  | unopened cause stage made =>
      rw [stage] at reached
      obtain ⟨accepts, notes⟩ := reached.accepting
      exact ⟨_, _, rfl, notes ▸ .unopened accepts cause⟩
  | opened directory files stage made =>
      rw [stage] at reached
      obtain ⟨accepts, notes⟩ := reached.accepting
      exact ⟨_, _, rfl, notes ▸ .building accepts directory⟩
  | compiled directory answer files stage ran =>
      rw [stage] at reached
      obtain ⟨accepts, notes⟩ := reached.opening
      exact ⟨_, _, rfl, notes ▸ .built accepts directory answer⟩
  | swept directory answer stage =>
      rw [stage] at reached
      obtain ⟨accepts, notes⟩ := reached.awaiting
      cases answer with
      | error fault => exact ⟨_, _, rfl, notes ▸ .failed accepts directory fault⟩
      | ok image => exact ⟨_, _, rfl, notes ▸ .compiled accepts directory image⟩
  | refused image fault factory files stage created =>
      rw [stage] at reached
      obtain ⟨accepts, directory, notes⟩ := reached.compiling
      exact ⟨_, _, rfl, notes ▸ .refused accepts directory image fault⟩
  | made image guest factory files stage created =>
      rw [stage] at reached
      obtain ⟨accepts, directory, notes⟩ := reached.compiling
      refine ⟨_, _, rfl, notes ▸ .running accepts directory image before.rooms.length (.new guest index image) ?_⟩
      exact ⟨List.getElem?_concat_length, rfl, rfl⟩
  | answered number room event stage there ended =>
      rw [stage] at reached
      obtain ⟨accepts, directory, image, room', own, notes⟩ := reached.supervising
      cases there.symm.trans own.there
      refine ⟨_, _, rfl, notes ▸ .ended accepts directory image number room own event.verdict ?_⟩
      have sound := (rooms room (List.mem_of_getElem? there)).supervision.reached
      rw [ended] at sound
      exact sound.1

/-- A call that goes on adds a context to the others, if it adds any, for what was compiled for it. -/
theorem CallMoved.rooms (moved : CallMoved executor before index call after)
    (reached : Reached executor before.rooms index call.snippet call.stage call.notes) :
    after.rooms = before.rooms ∨ ∃ guest image, after.rooms = before.rooms ++ [.new guest index image] ∧
      ∃ stage, after.calls = before.calls.set index (call.go stage (.created (.ok before.rooms.length))) ∧
        .compiled (.ok image) ∈ call.notes := by
  cases moved with
  | made image guest factory files stage created =>
      rw [stage] at reached
      obtain ⟨accepts, directory, notes⟩ := reached.compiling
      refine .inr ⟨guest, image, rfl, _, rfl, ?_⟩
      rw [notes]
      simp
  | _ => exact .inl rfl

/-- Calls stay, and what their stages have answered stays noted. -/
def Goes (calls later : List Call) : Prop :=
  ∀ (index : Nat) (call : Call), calls[index]? = some call →
    ∃ after, later[index]? = some after ∧ ∀ note ∈ call.notes, note ∈ after.notes

theorem goes_append (calls more : List Call) : Goes calls (calls ++ more) := fun _ call there =>
  ⟨call, (List.getElem?_append_left (List.getElem?_eq_some_iff.mp there).1).trans there, fun _ noted => noted⟩

theorem goes_set (calls : List Call) (there : calls[index]? = some call) (stage : Stage) (note : Note) :
    Goes calls (calls.set index (call.go stage note)) := by
  intro other old found
  by_cases same : other = index
  · subst same
    cases there.symm.trans found
    have bound := (List.getElem?_eq_some_iff.mp there).1
    exact ⟨_, List.getElem?_set_self bound, fun _ noted => List.mem_cons_of_mem _ noted⟩
  · exact ⟨old, (List.getElem?_set_ne (Ne.symm same)).trans found, fun _ noted => noted⟩

theorem Owned.go {calls later : List Call} {number : Nat} {room : Room σ} (owned : Owned calls number room)
    (goes : Goes calls later) : Owned later number room := by
  obtain ⟨call, there, created, compiled⟩ := owned
  obtain ⟨after, found, noted⟩ := goes _ _ there
  exact ⟨after, found, noted _ created, noted _ compiled⟩

theorem kept_call (kept : Kept executor before) (there : before.calls[index]? = some call)
    (moved : CallMoved executor before index call after) : Kept executor after := by
  have bound := (List.getElem?_eq_some_iff.mp there).1
  have here := kept.reached index call there
  obtain ⟨stage, note, calls, reached⟩ := moved.reached executor here kept.rooms
  have goes : Goes before.calls after.calls := calls ▸ goes_set before.calls there stage note
  have grows : Grows before.rooms after.rooms := by
    rcases moved.rooms executor here with same | ⟨guest, image, more, _⟩
    · exact same ▸ grows_refl _
    · exact more ▸ grows_append _ _
  constructor
  · intro other found present
    rw [calls] at present
    by_cases same : other = index
    · subst same
      rw [List.getElem?_set_self bound] at present
      cases present
      exact reached
    · rw [List.getElem?_set_ne (Ne.symm same)] at present
      exact (kept.reached other found present).grow executor grows
  · intro room found
    rcases moved.rooms executor here with same | ⟨guest, image, more, _⟩
    · exact kept.rooms room (same ▸ found)
    · rw [more] at found
      rcases List.mem_append.mp found with old | new
      · exact kept.rooms room old
      · rw [List.mem_singleton.mp new]
        exact roomKept_new guest index image
  · intro number room found
    rcases moved.rooms executor here with same | ⟨guest, image, more, stage, calls, compiled⟩
    · exact (kept.owned number room (same ▸ found)).go goes
    · rw [more] at found
      by_cases old : number < before.rooms.length
      · rw [List.getElem?_append_left old] at found
        exact (kept.owned number room found).go goes
      · have last : number = before.rooms.length := by
          have := (List.getElem?_eq_some_iff.mp found).1
          simp at this
          omega
        subst last
        rw [List.getElem?_concat_length] at found
        cases found
        exact ⟨_, calls ▸ List.getElem?_set_self bound, List.mem_cons_self .., List.mem_cons_of_mem _ compiled⟩

theorem kept_step (before after : Traffic φ σ) (kept : Kept executor before) (moved : Moved executor before after) :
    Kept executor after := by
  cases moved with
  | arrived snippet =>
      refine ⟨fun index call present => ?_, kept.rooms, fun number room found =>
        (kept.owned number room found).go (goes_append _ _)⟩
      by_cases old : index < before.calls.length
      · exact kept.reached index call ((List.getElem?_append_left old).symm.trans present)
      · have new := List.mem_of_getElem? ((List.getElem?_append_right (Nat.le_of_not_lt old)).symm.trans present)
        rw [List.mem_singleton.mp new]
        exact .arrived
  | call index call after there moved => exact kept_call executor kept there moved
  | room number old new outside there present moved =>
      have grown := moved.grows
      have grows := grows_set number old new there grown.owner grown.image grown.notes
      refine ⟨fun index call present => (kept.reached index call present).grow executor grows, fun room found => ?_,
        fun other room found => ?_⟩
      · rcases List.mem_or_eq_of_mem_set found with old | rfl
        · exact kept.rooms room old
        · exact moved.kept (kept.rooms old (List.mem_of_getElem? there)) present
      · by_cases same : other = number
        · subst same
          cases (List.getElem?_set_self (List.getElem?_eq_some_iff.mp there).1).symm.trans found
          obtain ⟨call, owner, created, compiled⟩ := kept.owned other old there
          exact ⟨call, grown.owner ▸ owner, created, grown.image ▸ compiled⟩
        · exact kept.owned other room ((List.getElem?_set_ne (Ne.symm same)).symm.trans found)
  | outside files => exact ⟨kept.reached, kept.rooms, kept.owned⟩

theorem kept_run (factory : φ) (files : Tree) (acts : List Act) (traffic : Traffic φ σ)
    (ran : (start factory files).run? executor acts = some traffic) : Kept executor traffic :=
  run_preserves executor (Kept executor) (kept_step executor) acts (kept_start executor factory files) ran

end Traffic
end Traffic
end SnippetRunner.Request

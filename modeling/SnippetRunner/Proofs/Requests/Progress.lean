import SnippetRunner.Proofs.Requests.Histories

/-!
A request can always come to its end. Its own steps and those of its supervisor are enough, whatever the stages
answer and whatever the worker does, unless the factory has it wait for a context.
-/

namespace SnippetRunner.Request
open Run (Supervision.Act Supervision.Course Supervision.Event)
variable {φ σ : Type} (executor : Executor φ σ) (index : Nat)

namespace Traffic

/-- A call comes to its end, or to where it waits for a context, by its own steps. -/
inductive Finishes : Traffic φ σ → Prop where
  | returned {traffic : Traffic φ σ} (call : Call) (there : traffic.calls[index]? = some call)
      (done : call.result? ≠ none) : Finishes traffic
  | waits {traffic : Traffic φ σ} (call : Call) (image : Bytes) (there : traffic.calls[index]? = some call)
      (stage : call.stage = .compiled image)
      (waits : (executor.supply.create traffic.factory traffic.files).1 = .waits) : Finishes traffic
  | call {traffic : Traffic φ σ} (step : Step) (next : Traffic φ σ)
      (taken : step? executor traffic (.call index step) = some next) (later : Finishes next) : Finishes traffic
  | room {traffic : Traffic φ σ} (number : Nat) (move : Move) (next : Traffic φ σ) (room : Room σ)
      (there : traffic.rooms[number]? = some room) (own : room.owner = index)
      (taken : step? executor traffic (.room number move) = some next) (later : Finishes next) : Finishes traffic

/-- A call whose context is supervised, at some point of its course. -/
structure Supervised (number : Nat) (course : Supervision.Course) (traffic : Traffic φ σ) (room : Room σ) : Prop where
  call : ∃ call, traffic.calls[index]? = some call ∧ call.stage = .running number
  there : traffic.rooms[number]? = some room
  own : room.owner = index
  present : room.left = false
  course : room.course = course

/-- From some point of the supervision of its context on, a call comes to its end. -/
def FinishesFrom (course : Supervision.Course) : Prop :=
  ∀ (number : Nat) (traffic : Traffic φ σ) (room : Room σ), Supervised index number course traffic room →
    Finishes executor index traffic

section Supervision
variable {executor index} {number : Nat} {course : Supervision.Course} {traffic : Traffic φ σ} {room : Room σ}
  {event : Supervision.Event} {fault : Context.Fault}

theorem Supervised.move (supervised : Supervised index number course traffic room) (move : Move) (new : Room σ)
    (outside : φ × Files.Tree)
    (moved : room.move? executor.supply traffic.factory traffic.files move = some (new, outside))
    (owner : new.owner = room.owner) (present : new.left = room.left)
    (later : FinishesFrom executor index new.course) : Finishes executor index traffic := by
  have bound := (List.getElem?_eq_some_iff.mp supervised.there).1
  let next := { traffic with factory := outside.1, rooms := traffic.rooms.set number new }.disturb outside.2
  refine .room number move next room supervised.there supervised.own ?_ ?_
  · simp only [step?, supervised.there, Option.bind_some, supervised.present, moved]
    rfl
  · exact later number _ new ⟨supervised.call, List.getElem?_set_self bound, owner.trans supervised.own,
      present.trans supervised.present, rfl⟩

/-- A step of the supervisor that asks nothing of the context. -/
theorem FinishesFrom.plain {next : Supervision.Course} (act : Supervision.Act) (plain : Room.isPlain act = true)
    (taken : course.step? act = some next) (later : FinishesFrom executor index next) :
    FinishesFrom executor index course := by
  intro number traffic room supervised
  refine supervised.move (.plain act) { room with course := next } (traffic.factory, traffic.files) ?_ rfl rfl later
  rw [Room.move?, if_pos plain, supervised.course, taken]
  rfl

/-- A call of destroy, whatever it answers. -/
theorem FinishesFrom.destroy
    (later : ∀ answer, ∃ next, course.step? (.supervisor (.destroyed answer)) = some next ∧
      FinishesFrom executor index next) : FinishesFrom executor index course := by
  intro number traffic room supervised
  rcases called : executor.supply.handle.destroy (executor.supply.enter traffic.factory traffic.files room.guest) with
    ⟨answer, guest⟩
  obtain ⟨next, taken, finishes⟩ := later answer
  let new := { room with guest, course := next }
  refine supervised.move .destroy new (executor.supply.outside guest) ?_ rfl rfl finishes
  simp only [Room.move?, called, supervised.course, taken]
  rfl

theorem finishes_returned (there : course.stage = .returned event) : FinishesFrom executor index course := by
  intro number traffic room supervised
  obtain ⟨call, here, stage⟩ := supervised.call
  have bound := (List.getElem?_eq_some_iff.mp here).1
  let result := ofVerdict executor.settings.timeout event.verdict
  refine .call .answer (traffic.put index (call.go (.returned result) (.supervised event.verdict))) ?_ ?_
  · simp only [step?, here, Option.bind_some, goOn?, stage, supervised.there, supervised.course, there]
    rfl
  · exact .returned _ (List.getElem?_set_self bound) (by simp [Call.go, Call.result?])

theorem finishes_retrying (there : course.stage = .retrying event fault) : FinishesFrom executor index course := by
  refine .destroy fun answer => ⟨(course.enter (.retrying event fault) (.destroyed answer)).answer event, ?_, ?_⟩
  · simp only [Supervision.Course.step?, Supervision.Course.watch?, there]
  · exact finishes_returned rfl

theorem finishes_failed (there : course.stage = .failed event fault) : FinishesFrom executor index course :=
  .plain (.supervisor .destroy) rfl
    (by simp only [Supervision.Course.step?, Supervision.Course.watch?, there]; rfl) (finishes_retrying rfl)

theorem finishes_destroying (there : course.stage = .destroying event) : FinishesFrom executor index course := by
  refine .destroy fun answer => ?_
  cases answer with
  | ok done =>
      refine ⟨(course.enter (.destroying event) (.destroyed (.ok ()))).answer event, ?_, finishes_returned rfl⟩
      simp only [Supervision.Course.step?, Supervision.Course.watch?, there]
  | error fault =>
      refine ⟨course.enter (.failed event fault) (.destroyed (.error fault)), ?_, finishes_failed rfl⟩
      simp only [Supervision.Course.step?, Supervision.Course.watch?, there]

theorem finishes_decided (there : course.stage = .decided event) : FinishesFrom executor index course :=
  .plain (.supervisor .destroy) rfl
    (by simp only [Supervision.Course.step?, Supervision.Course.watch?, there]; rfl) (finishes_destroying rfl)

theorem finishes_idle (there : course.stage = .idle) : FinishesFrom executor index course :=
  .plain (.supervisor .expire) rfl
    (by simp only [Supervision.Course.step?, Supervision.Course.watch?, there]; rfl) (finishes_decided rfl)

theorem finishes_watching (there : course.stage = .watching) : FinishesFrom executor index course := by
  cases found : course.channel with
  | empty =>
      exact .plain (.supervisor .look) rfl
        (by simp only [Supervision.Course.step?, Supervision.Course.watch?, there, found]; rfl) (finishes_idle rfl)
  | holding event =>
      exact .plain (.supervisor .look) rfl
        (by simp only [Supervision.Course.step?, Supervision.Course.watch?, there, found]; rfl) (finishes_decided rfl)
  | closed =>
      exact .plain (.supervisor .look) rfl
        (by simp only [Supervision.Course.step?, Supervision.Course.watch?, there, found]; rfl) (finishes_decided rfl)

theorem finishes_supervised (course : Supervision.Course) : FinishesFrom executor index course := by
  cases there : course.stage with
  | starting =>
      exact .plain (.supervisor (.spawn (.ok ()))) rfl
        (by simp only [Supervision.Course.step?, Supervision.Course.watch?, there]; rfl) (finishes_watching rfl)
  | watching => exact finishes_watching there
  | idle => exact finishes_idle there
  | decided event => exact finishes_decided there
  | destroying event => exact finishes_destroying there
  | failed event fault => exact finishes_failed there
  | retrying event fault => exact finishes_retrying there
  | returned event => exact finishes_returned there

end Supervision

section Stages

/-- From a stage on, a call comes to its end. -/
def FinishesAt (stage : Stage) : Prop :=
  ∀ (traffic : Traffic φ σ) (call : Call), traffic.calls[index]? = some call → call.stage = stage →
    Kept executor traffic → Finishes executor index traffic

variable {executor index} {traffic : Traffic φ σ} {call : Call}

/-- A call that goes on comes to its end if it does so from the stage it goes to. -/
theorem Kept.go (kept : Kept executor traffic) (there : traffic.calls[index]? = some call) (step : Step)
    {next : Traffic φ σ} (taken : goOn? executor traffic index call step = some next) {after : Stage} {note : Note}
    (calls : next.calls = traffic.calls.set index (call.go after note)) (later : FinishesAt executor index after) :
    Finishes executor index traffic := by
  have goes : step? executor traffic (.call index step) = some next := by
    rw [step?, there]
    exact taken
  refine .call step next goes (later next (call.go after note) ?_ rfl ?_)
  · rw [calls]
    exact List.getElem?_set_self (List.getElem?_eq_some_iff.mp there).1
  · exact kept_step executor traffic next kept (step_moved executor traffic next _ goes)

theorem finishes_at_returned (result : Result) : FinishesAt executor index (.returned result) := by
  intro traffic call there stage _
  exact .returned call there (by simp [Call.result?, stage])

theorem finishes_at_running (number : Nat) : FinishesAt executor index (.running number) := by
  intro traffic call there stage kept
  have reached := kept.reached index call there
  rw [stage] at reached
  obtain ⟨_, _, image, room, own, _⟩ := reached.supervising
  have roomKept := kept.rooms room (List.mem_of_getElem? own.there)
  cases left : room.left with
  | false =>
      exact finishes_supervised room.course number traffic room
        ⟨⟨call, there, stage⟩, own.there, own.owner, left, rfl⟩
  | true =>
      -- nobody uses the context any more, so its supervisor has returned
      have done := roomKept.done left
      cases ended : room.course.stage with
      | returned event =>
          exact kept.go there .answer (by simp only [goOn?, stage, own.there, Option.bind_some, ended]; rfl) rfl
            (finishes_at_returned _)
      | _ => simp [Room.isDone, ended] at done

theorem finishes_at_compiled (image : Bytes) : FinishesAt executor index (.compiled image) := by
  intro traffic call there stage kept
  rcases created : executor.supply.create traffic.factory traffic.files with ⟨_ | _ | _, factory, files⟩
  · exact kept.go there .create (by simp only [goOn?, stage, created]; rfl) rfl (finishes_at_running _)
  · exact kept.go there .create (by simp only [goOn?, stage, created]; rfl) rfl (finishes_at_returned _)
  · exact .waits call image there stage (by rw [created])

theorem finishes_at_built (directory : String) (answer : Except Compile.Fault Bytes) :
    FinishesAt executor index (.built directory answer) := by
  intro traffic call there stage kept
  have later : FinishesAt executor index (afterBuild answer) := by
    cases answer with
    | error fault => exact finishes_at_returned _
    | ok image => exact finishes_at_compiled image
  exact kept.go there .sweep (by simp only [goOn?, stage]; rfl) rfl later

theorem finishes_at_building (directory : String) : FinishesAt executor index (.building directory) := by
  intro traffic call there stage kept
  exact kept.go there .compile (by simp only [goOn?, stage]; rfl) rfl (finishes_at_built directory _)

theorem finishes_at_accepted : FinishesAt executor index .accepted := by
  intro traffic call there stage kept
  rcases made : traffic.files.makeTemporary (scratch executor) Compile.namePrefix with cause | ⟨directory, files⟩
  · exact kept.go there .prepare (by simp only [goOn?, stage, made]; rfl) rfl (finishes_at_returned _)
  · exact kept.go there .prepare (by simp only [goOn?, stage, made]; rfl) rfl (finishes_at_building directory)

theorem finishes_at_arrived : FinishesAt executor index .arrived := by
  intro traffic call there stage kept
  cases judged : executor.accepts call.snippet with
  | true =>
      exact kept.go there .validate (by simp only [goOn?, stage, judged, if_true]; rfl) rfl finishes_at_accepted
  | false =>
      exact kept.go there .validate (by simp only [goOn?, stage, judged]; rfl) rfl (finishes_at_returned _)

/-- A call comes to its end from wherever it is. -/
theorem Kept.finishes (kept : Kept executor traffic) (there : traffic.calls[index]? = some call) :
    Finishes executor index traffic := by
  have from_stage : FinishesAt executor index call.stage := by
    cases call.stage with
    | arrived => exact finishes_at_arrived
    | accepted => exact finishes_at_accepted
    | building directory => exact finishes_at_building directory
    | built directory answer => exact finishes_at_built directory answer
    | compiled image => exact finishes_at_compiled image
    | running number => exact finishes_at_running number
    | returned result => exact finishes_at_returned result
  exact from_stage traffic call there rfl kept

end Stages

end Traffic
end SnippetRunner.Request

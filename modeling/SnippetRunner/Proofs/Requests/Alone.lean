import SnippetRunner.Proofs.Requests.Supplies
import SnippetRunner.Proofs.Requests.Traffic

/-!
A request that nothing comes in the way of. Answering it in one go is one of the ways in which its steps, those of
its worker and those of its supervisor can follow each other.
-/

namespace SnippetRunner.Request
open Context (Supply Reply)
open Files (Tree)
open Run (Supervision.Act Supervision.Course Supervision.Event Supervision.Conditions Supervision.Verdict)
variable {φ σ : Type} (executor : Executor φ σ)

namespace Traffic

/-- Steps of the calls that are there, and of those who use their contexts. -/
def Act.isOwn : Act → Bool
  | .call _ _ => true
  | .room _ _ => true
  | _ => false

/-- Own steps lead to a result, and leave a factory and files. -/
def Comes (result : Option Result) (outside : φ × Tree) (traffic : Traffic φ σ) : Prop :=
  ∃ acts final, traffic.run? executor acts = some final ∧ (∀ act ∈ acts, act.isOwn = true) ∧
    final.calls.map (·.result?) = [result] ∧ (result ≠ none → (final.factory, final.files) = outside)

variable {executor} {result : Option Result} {outside : φ × Tree}

theorem Comes.step {traffic : Traffic φ σ} (act : Act) (own : act.isOwn = true) (next : Traffic φ σ)
    (taken : step? executor traffic act = some next) (later : Comes executor result outside next) :
    Comes executor result outside traffic := by
  obtain ⟨acts, final, ran, owns, results⟩ := later
  refine ⟨act :: acts, final, ?_, ?_, results⟩
  · rw [run?, taken, Option.bind_some, ran]
  · rintro other there
    rcases List.mem_cons.mp there with rfl | there
    · exact own
    · exact owns other there

section Rooms

/-- There is one call, and its context is the one that is used. -/
structure Alone (executor : Executor φ σ) (traffic : Traffic φ σ) (room : Room σ) : Prop where
  call : ∃ call, traffic.calls = [call] ∧ call.stage = .running 0
  rooms : traffic.rooms = [room]
  outside : (traffic.factory, traffic.files) = executor.supply.outside room.guest
  present : room.left = false

/-- From how a context is, the one call comes to a result. -/
def RoomComes (executor : Executor φ σ) (result : Option Result) (outside : φ × Tree) (room : Room σ) : Prop :=
  ∀ traffic, Alone executor traffic room → Comes executor result outside traffic

variable {room : Room σ}

theorem RoomComes.move {new : Room σ} (move : Move)
    (moved : ∀ factory files, (factory, files) = executor.supply.outside room.guest →
      room.move? executor.supply factory files move = some (new, executor.supply.outside new.guest))
    (later : RoomComes executor result outside new) (present : new.left = room.left) :
    RoomComes executor result outside room := by
  intro traffic alone
  let outside := executor.supply.outside new.guest
  refine .step (.room 0 move) rfl ({ traffic with factory := outside.1, rooms := [new] }.disturb outside.2) ?_ ?_
  · simp only [step?, alone.rooms, List.getElem?_cons_zero, Option.bind_some, alone.present,
      moved _ _ alone.outside, Option.map_some]
    rfl
  · exact later _ ⟨alone.call, rfl, rfl, present.trans alone.present⟩

theorem RoomComes.plain {course : Supervision.Course} (act : Supervision.Act) (plain : Room.isPlain act = true)
    (taken : room.course.step? act = some course) (later : RoomComes executor result outside { room with course }) :
    RoomComes executor result outside room := by
  refine .move (.plain act) (fun factory files same => ?_) later rfl
  rw [Room.move?, if_pos plain, taken, Option.map_some, same]

section Calls
variable (coherent : executor.supply.Coherent) {guest : σ} {course : Supervision.Course}
include coherent

theorem entered {factory : φ} {files : Tree} (same : (factory, files) = executor.supply.outside guest) :
    executor.supply.enter factory files guest = guest := by
  have back := coherent.enter_outside guest
  rwa [← same] at back

theorem RoomComes.load {answer : Except Context.Fault Unit}
    (called : executor.supply.handle.load room.image room.guest = (answer, guest))
    (taken : room.course.step? (.worker (.loaded answer)) = some course)
    (later : RoomComes executor result outside { room with guest, course, loads := room.image :: room.loads }) :
    RoomComes executor result outside room := by
  refine .move .load (fun factory files same => ?_) later rfl
  simp only [Room.move?, entered coherent same, called, taken, Option.map_some]

theorem RoomComes.invoke {reply : Reply} (called : executor.supply.handle.invoke room.guest = (reply, guest))
    (taken : room.course.step? (.worker .invoke) = some course)
    (later : RoomComes executor result outside { room with guest, course, reply := some reply }) :
    RoomComes executor result outside room := by
  refine .move .invoke (fun factory files same => ?_) later rfl
  simp only [Room.move?, entered coherent same, called, taken, Option.map_some]

theorem RoomComes.destroy {answer : Except Context.Fault Unit}
    (called : executor.supply.handle.destroy room.guest = (answer, guest))
    (taken : room.course.step? (.supervisor (.destroyed answer)) = some course)
    (later : RoomComes executor result outside { room with guest, course }) :
    RoomComes executor result outside room := by
  refine .move .destroy (fun factory files same => ?_) later rfl
  simp only [Room.move?, entered coherent same, called, taken, Option.map_some]

end Calls

theorem RoomComes.report {answer : Except Context.Fault Run.Invocation} {course : Supervision.Course}
    (replied : room.reply = some (.answered answer))
    (taken : room.course.step? (.worker (.invoked answer)) = some course)
    (later : RoomComes executor result outside { room with course }) : RoomComes executor result outside room := by
  refine .move .report (fun factory files same => ?_) later rfl
  simp only [Room.move?, replied, taken, Option.map_some, same]

section Ends
variable (coherent : executor.supply.Coherent) (event : Supervision.Event)
include coherent

/-- When nobody uses the context any more it is let go of, and the call answers. -/
theorem comes_done (returned : room.course.stage = .returned event) (done : Room.isDone room.course = true) :
    RoomComes executor (some (ofVerdict executor.settings.timeout event.verdict))
      (executor.supply.leave room.guest) room := by
  intro traffic alone
  obtain ⟨call, calls, stage⟩ := alone.call
  let gone := { room with left := true }
  let left := { traffic with
    factory := (executor.supply.leave room.guest).1, rooms := [gone] }.disturb (executor.supply.leave room.guest).2
  let answered := call.go (.returned (ofVerdict executor.settings.timeout event.verdict)) (.supervised event.verdict)
  refine .step (.room 0 .leave) rfl left ?_ (.step (.call 0 .answer) rfl (left.put 0 answered) ?_ ?_)
  · simp only [step?, alone.rooms, List.getElem?_cons_zero, Option.bind_some, alone.present, Room.move?, done,
      entered coherent alone.outside]
    rfl
  · simp only [step?, left, disturb, calls, List.getElem?_cons_zero, Option.bind_some, goOn?, stage, gone, returned]
    rfl
  · refine ⟨[], _, rfl, List.forall_mem_nil _, ?_, fun _ => rfl⟩
    simp only [put, left, disturb, calls]
    rfl

/-- When the supervisor has returned, a worker that is still there ends. -/
theorem comes_returned (returned : room.course.stage = .returned event) :
    RoomComes executor (some (ofVerdict executor.settings.timeout event.verdict))
      (executor.supply.leave room.guest) room := by
  by_cases done : Room.isDone room.course = true
  · exact comes_done coherent event returned done
  · have died : room.course.step? (.worker .die) = some { room.course.goOn .gone .died with channel := .closed } := by
      cases worker : room.course.worker <;>
        simp_all [Room.isDone, Supervision.Course.step?, Supervision.Course.work?]
    exact .plain (.worker .die) rfl died
      (comes_done coherent event returned (by simp [Room.isDone, Supervision.Course.goOn, returned]))

/-- From how a context is, it is destroyed and let go of, and the call answers with a verdict. -/
def Settles (executor : Executor φ σ) (verdict : Supervision.Verdict) (room : Room σ) : Prop :=
  RoomComes executor (some (ofVerdict executor.settings.timeout verdict))
    (executor.supply.leave (Run.Supervision.teardown executor.supply.handle room.guest)) room

/-- When a verdict has been reached, the context is destroyed. -/
theorem settles_decided (decided : room.course.stage = .decided event) : Settles executor event.verdict room := by
  refine .plain (.supervisor .destroy) rfl
    (by simp only [Supervision.Course.step?, Supervision.Course.watch?, decided]; rfl) ?_
  rcases called : executor.supply.handle.destroy room.guest with ⟨fault | done, guest⟩
  · refine .destroy coherent called rfl (.plain (.supervisor .destroy) rfl rfl ?_)
    rcases again : executor.supply.handle.destroy guest with ⟨answer, last⟩
    have torn : Run.Supervision.teardown executor.supply.handle room.guest = last := by
      simp only [Run.Supervision.teardown, called, again]
    rw [torn]
    exact .destroy coherent again rfl (comes_returned coherent event rfl)
  · have torn : Run.Supervision.teardown executor.supply.handle room.guest = guest := by
      simp only [Run.Supervision.teardown, called]
    rw [torn]
    exact .destroy coherent called rfl (comes_returned coherent event rfl)

/-- The report of a worker is found in time. -/
theorem settles_reported (watching : room.course.stage = .watching)
    (reporting : room.course.worker = .reporting event) : Settles executor event.verdict room := by
  have sent : room.course.step? (.worker .send) =
      some { room.course.goOn .gone (.sent event) with channel := .holding event } := by
    simp only [Supervision.Course.step?, Supervision.Course.work?, reporting, Supervision.Course.send,
      Supervision.Course.isOpen, watching, if_true]
  let told := { room.course.goOn .gone (.sent event) with channel := .holding event }
  have found : told.step? (.supervisor .look) = some ((told.look .watching).settle event) := by
    simp only [Supervision.Course.step?, Supervision.Course.watch?, told, Supervision.Course.goOn, watching]
  exact .plain (.worker .send) rfl sent (.plain (.supervisor .look) rfl found (settles_decided coherent event rfl))

/-- The deadline comes before anything is found. -/
theorem settles_expired (watching : room.course.stage = .watching) (found : room.course.channel = .empty) :
    Settles executor .timedOut room := by
  refine .plain (.supervisor .look) rfl
    (by simp only [Supervision.Course.step?, Supervision.Course.watch?, watching, found]; rfl) ?_
  exact .plain (.supervisor .expire) rfl rfl (settles_decided coherent .deadline rfl)

end Ends

section Supervised

/-- A report is found in time, or the deadline comes before it. -/
theorem settles_either (coherent : executor.supply.Coherent) (event : Supervision.Event) (late : Bool)
    (watching : room.course.stage = .watching) (found : room.course.channel = .empty)
    (reporting : room.course.worker = .reporting event) :
    Settles executor (if late then .timedOut else event.verdict) room := by
  cases late with
  | true => exact settles_expired coherent watching found
  | false => exact settles_reported coherent event watching reporting

variable (guest : σ) (image : Bytes)

/-- A worker and its supervisor come to what a run in one go comes to. -/
def ComesAsRun (executor : Executor φ σ) (conditions : Supervision.Conditions) (guest : σ) (image : Bytes)
    (room : Room σ) : Prop :=
  let (verdict, left) := Run.Supervision.run conditions executor.supply.handle image guest
  RoomComes executor (some (ofVerdict executor.settings.timeout verdict)) (executor.supply.leave left) room

/-- The worker has something to report. -/
theorem comes_as_run_of_report (coherent : executor.supply.Coherent) (runtime : Except Host.Fault Unit) (late : Bool)
    (event : Supervision.Event)
    (worked : Run.Supervision.work ⟨.ok (), runtime, late⟩ executor.supply.handle image guest = ([event], room.guest))
    (watching : room.course.stage = .watching) (found : room.course.channel = .empty)
    (reporting : room.course.worker = .reporting event) :
    ComesAsRun executor ⟨.ok (), runtime, late⟩ guest image room := by
  have either := settles_either coherent event late watching found reporting
  rw [ComesAsRun, Run.Supervision.run, worked]
  cases late <;> exact either

/-- The worker has nothing to report, and has ended or not. -/
theorem comes_as_run_of_silence (coherent : executor.supply.Coherent) (late : Bool) (reply : Context.Reply)
    (worked : executor.supply.handle.loadAndRun image guest = (.error reply, room.guest))
    (watching : room.course.stage = .watching) (found : room.course.channel = .empty)
    (invoking : room.course.worker = .invoking) : ComesAsRun executor ⟨.ok (), .ok (), late⟩ guest image room := by
  have expired := settles_expired coherent watching found
  cases late with
  | true =>
      rw [ComesAsRun, Run.Supervision.run, Run.Supervision.work, worked]
      cases reply <;> exact expired
  | false =>
      rw [ComesAsRun, Run.Supervision.run, Run.Supervision.work, worked]
      cases reply with
      | panicked =>
          let ended := { room.course.goOn .gone .died with channel := .closed }
          have dies : room.course.step? (.worker .die) = some ended := by
            simp only [Supervision.Course.step?, Supervision.Course.work?, invoking, ended]
          have closed : ended.step? (.supervisor .look) = some ((ended.look .watching).settle .died) := by
            simp only [Supervision.Course.step?, Supervision.Course.watch?, ended, Supervision.Course.goOn, watching]
          refine .plain (.worker .die) rfl dies (.plain (.supervisor .look) rfl closed ?_)
          exact settles_decided coherent .died rfl
      | running => exact expired
      | answered answer => exact expired

theorem comes_as_run (coherent : executor.supply.Coherent) (conditions : Supervision.Conditions) :
    ComesAsRun executor conditions guest image (Room.new guest 0 image) := by
  obtain ⟨worker, runtime, late⟩ := conditions
  rcases worker with cause | done
  · cases late <;>
      exact .plain (.supervisor (.spawn (.error cause))) rfl rfl (settles_decided coherent (.noWorker cause) rfl)
  · refine .plain (.supervisor (.spawn (.ok ()))) rfl rfl ?_
    rcases runtime with cause | done
    · refine .plain (.worker (.boot (.error cause))) rfl rfl ?_
      exact comes_as_run_of_report guest image coherent _ late (.noRuntime cause) rfl rfl rfl rfl
    · refine .plain (.worker (.boot (.ok ()))) rfl rfl (.plain (.worker .load) rfl rfl ?_)
      rcases load : executor.supply.handle.load image guest with ⟨fault | done, loaded⟩
      · refine .load coherent load rfl ?_
        exact comes_as_run_of_report guest image coherent _ late (.reported (.fault fault.message))
          (by simp only [Run.Supervision.work, Context.Handle.loadAndRun, load]) rfl rfl rfl
      · refine .load coherent load rfl ?_
        rcases invoke : executor.supply.handle.invoke loaded with ⟨answer | _ | _, invoked⟩
        · refine .invoke coherent invoke rfl (.report rfl rfl ?_)
          exact comes_as_run_of_report guest image coherent _ late (.reported (Context.outcomeOf answer))
            (by simp only [Run.Supervision.work, Context.Handle.loadAndRun, load, invoke]) rfl rfl rfl
        · refine .invoke coherent invoke rfl ?_
          exact comes_as_run_of_silence guest image coherent late .panicked
            (by simp only [Context.Handle.loadAndRun, load, invoke]) rfl rfl rfl
        · refine .invoke coherent invoke rfl ?_
          exact comes_as_run_of_silence guest image coherent late .running
            (by simp only [Context.Handle.loadAndRun, load, invoke]) rfl rfl rfl

end Supervised

end Rooms

section Requests
variable (executor) (call : Call) (factory : φ) (files : Tree) (builds remade : List String)

/-- The one call and what it has of contexts. -/
def solo (rooms : List (Room σ)) : Traffic φ σ :=
  { factory, files, calls := [call], rooms, builds, remade }

/-- A call that has returned has come to its result. -/
theorem comes_at_returned {result : Result} (stage : call.stage = .returned result) :
    Comes executor (some result) (factory, files) (solo call factory files builds remade []) := by
  refine ⟨[], _, rfl, List.forall_mem_nil _, ?_, fun _ => rfl⟩
  simp only [solo, List.map_cons, List.map_nil, Call.result?, stage]

variable (conditions : Supervision.Conditions)

/-- What becomes of a request when the compiler has answered. -/
def afterCompile : Except Compile.Fault Bytes × Tree → Option Result × φ × Tree
  | (.error fault, files) => (some (ofCompileFault fault), factory, files)
  | (.ok image, files) => executor.runImage conditions image factory files

theorem evaluateUnder_eq (snippet : String) : executor.evaluateUnder conditions snippet factory files =
    if executor.accepts snippet then
      afterCompile executor factory conditions (Compile.compile executor.machine executor.settings.compiler
        (Scaffold.wrap snippet executor.settings.namespaces) files)
    else (some .rejected, factory, files) := by
  unfold Executor.evaluateUnder
  cases executor.accepts snippet with
  | false => rfl
  | true =>
      dsimp only [Bool.not_true, Bool.false_eq_true, if_false, if_true]
      generalize Compile.compile _ _ _ files = compiled
      obtain ⟨fault | image, files⟩ := compiled <;> rfl

variable (coherent : executor.supply.Coherent)
include coherent

theorem comes_at_compiled {image : Bytes} (stage : call.stage = .compiled image) :
    let ran := executor.runImage conditions image factory files
    Comes executor ran.1 ran.2 (solo call factory files builds remade []) := by
  unfold Executor.runImage
  rcases created : executor.supply.create factory files with ⟨guest | fault | _, factory', files'⟩
  · let running := call.go (.running 0) (.created (.ok 0))
    let room := Room.new guest 0 image
    refine .step (.call 0 .create) rfl ((solo running factory' files builds remade [room]).disturb files') ?_ ?_
    · simp only [step?, solo, List.getElem?_cons_zero, Option.bind_some, goOn?, stage, created]
      rfl
    · have outside := coherent.outside_made factory files guest (factory', files') created
      exact comes_as_run guest image coherent conditions _ ⟨⟨running, rfl, rfl⟩, rfl, outside.symm, rfl⟩
  · let refused := call.go (.returned (.supervisionFault fault.message)) (.created (.error fault))
    refine .step (.call 0 .create) rfl ((solo refused factory' files builds remade []).disturb files') ?_ ?_
    · simp only [step?, solo, List.getElem?_cons_zero, Option.bind_some, goOn?, stage, created]
      rfl
    · exact comes_at_returned executor refused factory' files' builds _ rfl
  · refine ⟨[], _, rfl, List.forall_mem_nil _, ?_, fun some => absurd rfl some⟩
    simp only [solo, List.map_cons, List.map_nil, Call.result?, stage]

theorem comes_after_build (answer : Except Compile.Fault Bytes) (stage : call.stage = afterBuild answer) :
    let evaluated := afterCompile executor factory conditions (answer, files)
    Comes executor evaluated.1 evaluated.2 (solo call factory files builds remade []) := by
  cases answer with
  | error fault => exact comes_at_returned executor call factory files builds remade stage
  | ok image => exact comes_at_compiled executor call factory files builds remade conditions coherent stage

theorem comes_at_building (directory : String) (answer : Except Compile.Fault Bytes) (compiled : Tree)
    (stage : call.stage = .building directory)
    (ran : Compile.runCompiler executor.machine executor.settings.compiler
      (Scaffold.wrap call.snippet executor.settings.namespaces) directory files = (answer, compiled)) :
    let evaluated := afterCompile executor factory conditions (answer, Compile.sweep compiled directory)
    Comes executor evaluated.1 evaluated.2 (solo call factory files builds remade []) := by
  let built := call.go (.built directory answer) (.compiled answer)
  let swept := built.go (afterBuild answer) (.swept directory)
  let done : Traffic φ σ := (solo built factory files builds remade []).disturb compiled
  refine .step (.call 0 .compile) rfl done ?_ (.step (.call 0 .sweep) rfl
    (solo swept factory (Compile.sweep compiled directory) builds done.remade []) ?_ ?_)
  · simp only [step?, solo, List.getElem?_cons_zero, Option.bind_some, goOn?, stage, ran]
    rfl
  · simp only [step?, done, solo, disturb, List.getElem?_cons_zero, Option.bind_some, goOn?, built, Call.go]
    rfl
  · exact comes_after_build executor swept factory _ builds done.remade conditions coherent answer rfl

theorem comes_at_accepted (answer : Except Compile.Fault Bytes) (after : Tree) (stage : call.stage = .accepted)
    (compiled : Compile.compile executor.machine executor.settings.compiler
      (Scaffold.wrap call.snippet executor.settings.namespaces) files = (answer, after)) :
    let evaluated := afterCompile executor factory conditions (answer, after)
    Comes executor evaluated.1 evaluated.2 (solo call factory files builds remade []) := by
  unfold Compile.compile at compiled
  rcases made : files.makeTemporary (executor.settings.compiler.scratchDir.getD Compile.defaultRoot)
    Compile.namePrefix with cause | ⟨directory, prepared⟩
  · rw [made] at compiled
    obtain ⟨rfl, rfl⟩ := Prod.mk.inj compiled
    let unopened := call.go (.returned (ofCompileFault (.toolchain cause))) (.opened (.error cause))
    refine .step (.call 0 .prepare) rfl (solo unopened factory files builds remade []) ?_
      (comes_at_returned executor unopened factory files builds remade rfl)
    simp only [step?, solo, List.getElem?_cons_zero, Option.bind_some, goOn?, stage, scratch, made]
    rfl
  · rw [made] at compiled
    dsimp only at compiled
    rcases ran : Compile.runCompiler executor.machine executor.settings.compiler
      (Scaffold.wrap call.snippet executor.settings.namespaces) directory prepared with ⟨judged, left⟩
    rw [ran] at compiled
    obtain ⟨rfl, rfl⟩ := Prod.mk.inj compiled
    let opened := call.go (.building directory) (.opened (.ok directory))
    refine .step (.call 0 .prepare) rfl (solo opened factory prepared (directory :: builds) remade []) ?_
      (comes_at_building executor opened factory prepared _ remade conditions coherent directory judged left rfl ran)
    simp only [step?, solo, List.getElem?_cons_zero, Option.bind_some, goOn?, stage, scratch, made]
    rfl

/-- Answering a request in one go is one of the ways in which its steps can follow each other. -/
theorem comes_evaluated (snippet : String) :
    let evaluated := executor.evaluateUnder conditions snippet factory files
    Comes executor evaluated.1 evaluated.2 (solo (.new snippet) factory files builds remade []) := by
  rw [evaluateUnder_eq]
  cases judged : executor.accepts snippet with
  | false =>
      let rejected := (Call.new snippet).go (.returned .rejected) (.judged false)
      refine .step (.call 0 .validate) rfl (solo rejected factory files builds remade []) ?_
        (comes_at_returned executor rejected factory files builds remade rfl)
      simp only [step?, solo, List.getElem?_cons_zero, Option.bind_some, goOn?, Call.new, judged]
      rfl
  | true =>
      rcases compiled : Compile.compile executor.machine executor.settings.compiler
        (Scaffold.wrap snippet executor.settings.namespaces) files with ⟨answer, after⟩
      let accepted := (Call.new snippet).go .accepted (.judged true)
      refine .step (.call 0 .validate) rfl (solo accepted factory files builds remade []) ?_
        (comes_at_accepted executor accepted factory files builds remade conditions coherent answer after rfl compiled)
      simp only [step?, solo, List.getElem?_cons_zero, Option.bind_some, goOn?, Call.new, judged, if_true]
      rfl

/-- The run of one request by itself. -/
theorem evaluated_alone (snippet : String) :
    let evaluated := executor.evaluateUnder conditions snippet factory files
    ∃ acts traffic, (start factory files).run? executor (.arrive snippet :: acts) = some traffic ∧
      (∀ act ∈ acts, act.isOwn = true) ∧ traffic.calls.map (·.result?) = [evaluated.1] ∧
      (evaluated.1 ≠ none → (traffic.factory, traffic.files) = evaluated.2) :=
  comes_evaluated executor factory files [] [] conditions coherent snippet

end Requests

end Traffic
end SnippetRunner.Request

import SnippetRunner.Proofs.SupervisedRun
import SnippetRunner.Request.Pipeline

/-!
Requests that are under way at the same time. Each goes from stage to stage at its own pace, with what the other
requests and the programs outside have made of the files and of the factory in the meantime; its context is used
by a worker and by a supervisor, which outlive each other as they come.
-/

namespace SnippetRunner.Request
open Context (Reply Supply)
open Files (Tree)
open Run (Supervision.Act Supervision.Course Supervision.Verdict)

/-- What the stages of a request answer. -/
inductive Note where
  | judged (accepted : Bool)
  -- the directory for the build
  | opened (answer : Except Host.Fault String)
  | compiled (answer : Except Compile.Fault Bytes)
  | swept (directory : String)
  -- its context, by number
  | created (answer : Except Context.Fault Nat)
  | supervised (verdict : Supervision.Verdict)

inductive Stage where
  | arrived
  | accepted
  | building (directory : String)
  -- the directory of the build is still there
  | built (directory : String) (answer : Except Compile.Fault Bytes)
  | compiled (image : Bytes)
  | running (number : Nat)
  | returned (result : Result)

structure Call where
  snippet : String
  stage : Stage
  -- the last comes first
  notes : List Note

namespace Call

def new (snippet : String) : Call :=
  { snippet, stage := .arrived, notes := [] }

def go (call : Call) (stage : Stage) (note : Note) : Call :=
  { call with stage, notes := note :: call.notes }

def result? (call : Call) : Option Result :=
  match call.stage with
  | .returned result => some result
  | _ => none

/-- The call has a directory to build in. -/
def Holds (call : Call) (directory : String) : Prop :=
  call.stage = .building directory ∨ ∃ answer, call.stage = .built directory answer

end Call

/-- A context in use. -/
structure Room (σ : Type) where
  guest : σ
  -- the call it was made for
  owner : Nat
  image : Bytes
  course : Supervision.Course
  -- what the last invocation came to
  reply : Option Reply
  -- the images that were loaded, the last first
  loads : List Bytes
  -- worker and supervisor have let go of it
  left : Bool

/-- What can be done with a context. -/
inductive Move where
  -- a step that asks nothing of the context
  | plain (act : Supervision.Act)
  | load
  | invoke
  -- for a program that was still running
  | await
  | report
  | destroy
  | leave

namespace Room
variable {φ σ : Type}

def new (guest : σ) (owner : Nat) (image : Bytes) : Room σ :=
  { guest, owner, image, course := .start, reply := none, loads := [], left := false }

def isPlain : Supervision.Act → Bool
  | .worker (.loaded _) => false
  | .worker .invoke => false
  | .worker (.invoked _) => false
  | .supervisor (.destroyed _) => false
  | _ => true

/-- Nobody uses the context any more. -/
def isDone (course : Supervision.Course) : Bool :=
  match course.stage, course.worker with
  | .returned _, .absent => true
  | .returned _, .gone => true
  | _, _ => false

def move? (supply : Supply φ σ) (room : Room σ) (factory : φ) (files : Tree) : Move → Option (Room σ × φ × Tree)
  | .plain act =>
      if isPlain act then (room.course.step? act).map fun course => ({ room with course }, factory, files) else none
  | .load =>
      let (answer, guest) := supply.handle.load room.image (supply.enter factory files room.guest)
      (room.course.step? (.worker (.loaded answer))).map fun course =>
        ({ room with guest, course, loads := room.image :: room.loads }, supply.outside guest)
  | .invoke =>
      let (reply, guest) := supply.handle.invoke (supply.enter factory files room.guest)
      (room.course.step? (.worker .invoke)).map fun course =>
        ({ room with guest, course, reply := some reply }, supply.outside guest)
  | .await =>
      match room.reply with
      | some .running =>
          let (reply, guest) := supply.handle.await (supply.enter factory files room.guest)
          some ({ room with guest, reply := some reply }, supply.outside guest)
      | _ => none
  | .report =>
      match room.reply with
      | some (.answered answer) =>
          (room.course.step? (.worker (.invoked answer))).map fun course => ({ room with course }, factory, files)
      | _ => none
  | .destroy =>
      let (answer, guest) := supply.handle.destroy (supply.enter factory files room.guest)
      (room.course.step? (.supervisor (.destroyed answer))).map fun course =>
        ({ room with guest, course }, supply.outside guest)
  | .leave =>
      if isDone room.course then
        some ({ room with left := true }, supply.leave (supply.enter factory files room.guest))
      else none

end Room

/-- What a call does next. -/
inductive Step where
  | validate
  | prepare
  | compile
  | sweep
  | create
  | answer

/-- All requests, the factory and the files they share, and their contexts. -/
structure Traffic (φ σ : Type) where
  factory : φ
  files : Tree
  calls : List Call
  rooms : List (Room σ)
  -- the directories calls have made to build in
  builds : List String
  -- those of them that were gone and are there again, made by others
  remade : List String

namespace Traffic
variable {φ σ : Type}

inductive Act where
  | arrive (snippet : String)
  | call (index : Nat) (step : Step)
  | room (number : Nat) (move : Move)
  -- the files change for reasons of their own
  | outside (files : Tree)

def start (factory : φ) (files : Tree) : Traffic φ σ :=
  { factory, files, calls := [], rooms := [], builds := [], remade := [] }

section Steps

def put (traffic : Traffic φ σ) (index : Nat) (call : Call) : Traffic φ σ :=
  { traffic with calls := traffic.calls.set index call }

/-- Others than the calls have been at the files. -/
def disturb (traffic : Traffic φ σ) (files : Tree) : Traffic φ σ :=
  let again := traffic.builds.filter fun path => !traffic.files.isDirectory path && files.isDirectory path
  { traffic with files, remade := again ++ traffic.remade }

variable (executor : Executor φ σ)

def scratch : String :=
  executor.settings.compiler.scratchDir.getD Compile.defaultRoot

def afterBuild : Except Compile.Fault Bytes → Stage
  | .error fault => .returned (ofCompileFault fault)
  | .ok image => .compiled image

def goOn? (traffic : Traffic φ σ) (index : Nat) (call : Call) : Step → Option (Traffic φ σ)
  | .validate =>
      match call.stage with
      | .arrived =>
          if executor.accepts call.snippet then some (traffic.put index (call.go .accepted (.judged true)))
          else some (traffic.put index (call.go (.returned .rejected) (.judged false)))
      | _ => none
  | .prepare =>
      match call.stage with
      | .accepted =>
          match traffic.files.makeTemporary (scratch executor) Compile.namePrefix with
          | .error cause =>
              let result := ofCompileFault (.toolchain cause)
              some (traffic.put index (call.go (.returned result) (.opened (.error cause))))
          | .ok (directory, files) =>
              let opened := traffic.put index (call.go (.building directory) (.opened (.ok directory)))
              some { opened with files, builds := directory :: traffic.builds }
      | _ => none
  | .compile =>
      match call.stage with
      | .building directory =>
          let program := Scaffold.wrap call.snippet executor.settings.namespaces
          let (answer, files) :=
            Compile.runCompiler executor.machine executor.settings.compiler program directory traffic.files
          some ((traffic.put index (call.go (.built directory answer) (.compiled answer))).disturb files)
      | _ => none
  | .sweep =>
      match call.stage with
      | .built directory answer =>
          let swept := traffic.put index (call.go (afterBuild answer) (.swept directory))
          some { swept with files := Compile.sweep traffic.files directory }
      | _ => none
  | .create =>
      match call.stage with
      | .compiled image =>
          match executor.supply.create traffic.factory traffic.files with
          | (.waits, _, _) => none
          | (.refused fault, factory, files) =>
              let result := Result.supervisionFault fault.message
              let refused := traffic.put index (call.go (.returned result) (.created (.error fault)))
              some ({ refused with factory }.disturb files)
          | (.made guest, factory, files) =>
              let number := traffic.rooms.length
              let made := traffic.put index (call.go (.running number) (.created (.ok number)))
              some ({ made with factory, rooms := traffic.rooms ++ [Room.new guest index image] }.disturb files)
      | _ => none
  | .answer =>
      match call.stage with
      | .running number =>
          (traffic.rooms[number]?).bind fun room =>
            match room.course.stage with
            | .returned event =>
                let result := ofVerdict executor.settings.timeout event.verdict
                some (traffic.put index (call.go (.returned result) (.supervised event.verdict)))
            | _ => none
      | _ => none

/-- The traffic after a step, if the step can be taken. -/
def step? (traffic : Traffic φ σ) : Act → Option (Traffic φ σ)
  | .arrive snippet => some { traffic with calls := traffic.calls ++ [.new snippet] }
  | .call index step => (traffic.calls[index]?).bind fun call => goOn? executor traffic index call step
  | .room number move =>
      (traffic.rooms[number]?).bind fun room =>
        if room.left then none
        else
          (room.move? executor.supply traffic.factory traffic.files move).map fun (room, factory, files) =>
            { traffic with factory, rooms := traffic.rooms.set number room }.disturb files
  | .outside files => some (traffic.disturb files)

def run? (traffic : Traffic φ σ) : List Act → Option (Traffic φ σ)
  | [] => some traffic
  | act :: rest => (step? executor traffic act).bind fun traffic => traffic.run? rest

end Steps

section Cases
variable (executor : Executor φ σ)

/-- All that can become of a context. -/
inductive RoomMoved (supply : Supply φ σ) (before : Room σ) (factory : φ) (files : Tree) :
    Room σ → φ × Tree → Prop where
  | plain (act : Supervision.Act) (course : Supervision.Course) (plain : Room.isPlain act = true)
      (taken : before.course.step? act = some course) :
      RoomMoved supply before factory files { before with course } (factory, files)
  | load (answer : Except Context.Fault Unit) (guest : σ) (course : Supervision.Course)
      (called : supply.handle.load before.image (supply.enter factory files before.guest) = (answer, guest))
      (taken : before.course.step? (.worker (.loaded answer)) = some course) :
      RoomMoved supply before factory files { before with guest, course, loads := before.image :: before.loads }
        (supply.outside guest)
  | invoke (reply : Reply) (guest : σ) (course : Supervision.Course)
      (called : supply.handle.invoke (supply.enter factory files before.guest) = (reply, guest))
      (taken : before.course.step? (.worker .invoke) = some course) :
      RoomMoved supply before factory files { before with guest, course, reply := some reply } (supply.outside guest)
  | await (reply : Reply) (guest : σ) (waited : before.reply = some .running)
      (called : supply.handle.await (supply.enter factory files before.guest) = (reply, guest)) :
      RoomMoved supply before factory files { before with guest, reply := some reply } (supply.outside guest)
  | report (answer : Except Context.Fault Run.Invocation) (course : Supervision.Course)
      (replied : before.reply = some (.answered answer))
      (taken : before.course.step? (.worker (.invoked answer)) = some course) :
      RoomMoved supply before factory files { before with course } (factory, files)
  | destroy (answer : Except Context.Fault Unit) (guest : σ) (course : Supervision.Course)
      (called : supply.handle.destroy (supply.enter factory files before.guest) = (answer, guest))
      (taken : before.course.step? (.supervisor (.destroyed answer)) = some course) :
      RoomMoved supply before factory files { before with guest, course } (supply.outside guest)
  | leave (done : Room.isDone before.course = true) :
      RoomMoved supply before factory files { before with left := true }
        (supply.leave (supply.enter factory files before.guest))

theorem room_cases (supply : Supply φ σ) (before after : Room σ) (factory : φ) (files : Tree) (outside : φ × Tree)
    (move : Move) (moved : before.move? supply factory files move = some (after, outside)) :
    RoomMoved supply before factory files after outside := by
  cases move with
  | plain act =>
      simp only [Room.move?] at moved
      split at moved
      · next plain =>
          obtain ⟨course, taken, same⟩ := Option.map_eq_some_iff.mp moved
          cases same
          exact .plain act course plain taken
      · cases moved
  | load =>
      obtain ⟨course, taken, same⟩ := Option.map_eq_some_iff.mp moved
      cases same
      exact .load _ _ course rfl taken
  | invoke =>
      obtain ⟨course, taken, same⟩ := Option.map_eq_some_iff.mp moved
      cases same
      exact .invoke _ _ course rfl taken
  | await =>
      simp only [Room.move?] at moved
      split at moved
      · next waited =>
          cases moved
          exact .await _ _ waited rfl
      · cases moved
  | report =>
      simp only [Room.move?] at moved
      split at moved
      · next answer replied =>
          obtain ⟨course, taken, same⟩ := Option.map_eq_some_iff.mp moved
          cases same
          exact .report answer course replied taken
      · cases moved
  | destroy =>
      obtain ⟨course, taken, same⟩ := Option.map_eq_some_iff.mp moved
      cases same
      exact .destroy _ _ course rfl taken
  | leave =>
      simp only [Room.move?] at moved
      split at moved
      · next done =>
          cases moved
          exact .leave done
      · cases moved

/-- All that can become of a call that goes on. -/
inductive CallMoved (before : Traffic φ σ) (index : Nat) (call : Call) : Traffic φ σ → Prop where
  | accepted (stage : call.stage = .arrived) (accepts : executor.accepts call.snippet = true) :
      CallMoved before index call (before.put index (call.go .accepted (.judged true)))
  | rejected (stage : call.stage = .arrived) (refuses : executor.accepts call.snippet = false) :
      CallMoved before index call (before.put index (call.go (.returned .rejected) (.judged false)))
  | unopened (cause : Host.Fault) (stage : call.stage = .accepted)
      (made : before.files.makeTemporary (scratch executor) Compile.namePrefix = .error cause) :
      CallMoved before index call
        (before.put index (call.go (.returned (ofCompileFault (.toolchain cause))) (.opened (.error cause))))
  | opened (directory : String) (files : Tree) (stage : call.stage = .accepted)
      (made : before.files.makeTemporary (scratch executor) Compile.namePrefix = .ok (directory, files)) :
      CallMoved before index call
        { before.put index (call.go (.building directory) (.opened (.ok directory))) with
          files, builds := directory :: before.builds }
  | compiled (directory : String) (answer : Except Compile.Fault Bytes) (files : Tree)
      (stage : call.stage = .building directory)
      (ran : Compile.runCompiler executor.machine executor.settings.compiler
        (Scaffold.wrap call.snippet executor.settings.namespaces) directory before.files = (answer, files)) :
      CallMoved before index call
        ((before.put index (call.go (.built directory answer) (.compiled answer))).disturb files)
  | swept (directory : String) (answer : Except Compile.Fault Bytes) (stage : call.stage = .built directory answer) :
      CallMoved before index call
        { before.put index (call.go (afterBuild answer) (.swept directory)) with
          files := Compile.sweep before.files directory }
  | refused (image : Bytes) (fault : Context.Fault) (factory : φ) (files : Tree) (stage : call.stage = .compiled image)
      (created : executor.supply.create before.factory before.files = (.refused fault, factory, files)) :
      CallMoved before index call
        ({ before.put index (call.go (.returned (.supervisionFault fault.message)) (.created (.error fault))) with
          factory }.disturb files)
  | made (image : Bytes) (guest : σ) (factory : φ) (files : Tree) (stage : call.stage = .compiled image)
      (created : executor.supply.create before.factory before.files = (.made guest, factory, files)) :
      CallMoved before index call
        ({ before.put index (call.go (.running before.rooms.length) (.created (.ok before.rooms.length))) with
          factory, rooms := before.rooms ++ [Room.new guest index image] }.disturb files)
  | answered (number : Nat) (room : Room σ) (event : Run.Supervision.Event) (stage : call.stage = .running number)
      (there : before.rooms[number]? = some room) (ended : room.course.stage = .returned event) :
      CallMoved before index call
        (before.put index (call.go (.returned (ofVerdict executor.settings.timeout event.verdict))
          (.supervised event.verdict)))

theorem call_cases (before after : Traffic φ σ) (index : Nat) (call : Call) (step : Step)
    (taken : goOn? executor before index call step = some after) : CallMoved executor before index call after := by
  cases step with
  | validate =>
      simp only [goOn?] at taken
      split at taken
      · next stage =>
          split at taken
          · next accepts =>
              cases taken
              exact .accepted stage accepts
          · next refuses =>
              cases taken
              exact .rejected stage (by simpa using refuses)
      · cases taken
  | prepare =>
      simp only [goOn?] at taken
      split at taken
      · next stage =>
          split at taken
          · next cause made =>
              cases taken
              exact .unopened cause stage made
          · next directory files made =>
              cases taken
              exact .opened directory files stage made
      · cases taken
  | compile =>
      simp only [goOn?] at taken
      split at taken
      · next directory stage =>
          cases taken
          exact .compiled directory _ _ stage rfl
      · cases taken
  | sweep =>
      simp only [goOn?] at taken
      split at taken
      · next directory answer stage =>
          cases taken
          exact .swept directory answer stage
      · cases taken
  | create =>
      simp only [goOn?] at taken
      split at taken
      · next image stage =>
          split at taken
          · cases taken
          · next fault factory files created =>
              cases taken
              exact .refused image fault factory files stage created
          · next guest factory files created =>
              cases taken
              exact .made image guest factory files stage created
      · cases taken
  | answer =>
      simp only [goOn?] at taken
      split at taken
      · next number stage =>
          obtain ⟨room, there, taken⟩ := Option.bind_eq_some_iff.mp taken
          split at taken
          · next event ended =>
              cases taken
              exact .answered number room event stage there ended
          · cases taken
      · cases taken

/-- All that a step can do. -/
inductive Moved (before : Traffic φ σ) : Traffic φ σ → Prop where
  | arrived (snippet : String) : Moved before { before with calls := before.calls ++ [.new snippet] }
  | call (index : Nat) (call : Call) (after : Traffic φ σ) (there : before.calls[index]? = some call)
      (moved : CallMoved executor before index call after) : Moved before after
  | room (number : Nat) (old new : Room σ) (outside : φ × Tree) (there : before.rooms[number]? = some old)
      (present : old.left = false) (moved : RoomMoved executor.supply old before.factory before.files new outside) :
      Moved before ({ before with factory := outside.1, rooms := before.rooms.set number new }.disturb outside.2)
  | outside (files : Tree) : Moved before (before.disturb files)

theorem step_moved (before after : Traffic φ σ) (act : Act) (taken : step? executor before act = some after) :
    Moved executor before after := by
  cases act with
  | arrive snippet =>
      cases taken
      exact .arrived snippet
  | call index step =>
      obtain ⟨call, there, taken⟩ := Option.bind_eq_some_iff.mp taken
      exact .call index call after there (call_cases executor before after index call step taken)
  | room number move =>
      obtain ⟨old, there, used⟩ := Option.bind_eq_some_iff.mp taken
      split at used
      · cases used
      · next present =>
          obtain ⟨⟨new, outside⟩, went, same⟩ := Option.map_eq_some_iff.mp used
          cases same
          exact .room number old new outside there (by simpa using present)
            (room_cases executor.supply old new _ _ outside move went)
  | outside files =>
      cases taken
      exact .outside files

theorem stepwise : Stepwise (step? executor) (run? executor) :=
  ⟨fun _ => rfl, fun _ _ _ => rfl⟩

/-- What every step keeps, a run keeps. -/
theorem run_preserves (kept : Traffic φ σ → Prop)
    (step : ∀ before after, kept before → Moved executor before after → kept after) (acts : List Act)
    {before after : Traffic φ σ} (begun : kept before) (ran : before.run? executor acts = some after) : kept after :=
  (stepwise executor).preserves kept
    (fun act before after now taken => step before after now (step_moved executor before after act taken))
    acts begun ran

end Cases
end Traffic
end SnippetRunner.Request

import SnippetRunner.Proofs.Requests.Leftovers
import SnippetRunner.Proofs.Requests.Progress

/-!
Requests that are under way at the same time do not come in each other's way. Each has the result that the answers
of its own stages dictate, in a context of its own if it comes to have one; and when all have returned, they have
left nothing behind.
-/

namespace SnippetRunner.Request
open Context (Supply Supply.Counting)
open Files (Tree)
open Run (Supervision.Course Supervision.Verdict)
variable {φ σ : Type}

section Answers

/-- What a stage answered, whatever the directories and the contexts of the calls are called. -/
def Note.bare : Note → Note
  | .opened (.ok _) => .opened (.ok "")
  | .swept _ => .swept ""
  | .created (.ok _) => .created (.ok 0)
  | note => note

def isCreated : Note → Bool
  | .created _ => true
  | _ => false

theorem dictated_bare (deadline : Span) (notes : List Note) :
    dictated deadline (notes.map Note.bare) = dictated deadline notes := by
  cases notes with
  | nil => rfl
  | cons last earlier =>
      cases last with
      | judged accepted => cases accepted <;> rfl
      | opened answer => cases answer <;> rfl
      | compiled answer => rfl
      | created answer => cases answer <;> rfl
      | supervised verdict => exact (dictated_verdict ..).trans (dictated_verdict ..).symm
      | swept directory =>
          cases earlier with
          | nil => rfl
          | cons before rest =>
              cases before with
              | compiled answer =>
                  cases answer with
                  | error fault => exact (dictated_failed ..).trans (dictated_failed ..).symm
                  | ok image => rfl
              | opened answer => cases answer <;> rfl
              | created answer => cases answer <;> rfl
              | _ => rfl

end Answers

namespace Traffic
variable (executor : Executor φ σ)

section Calls
variable {executor} {rooms : List (Room σ)} {index : Nat} {snippet : String} {stage : Stage} {notes : List Note}
  (reached : Reached executor rooms index snippet stage notes)
include reached

theorem Reached.compiled_accepted (answer : Except Compile.Fault Bytes) (noted : .compiled answer ∈ notes) :
    executor.accepts snippet = true := by
  cases reached <;> first | assumption | simp at noted

theorem Reached.created_compiled (answer : Except Context.Fault Nat) (noted : .created answer ∈ notes) :
    ∃ image, .compiled (.ok image) ∈ notes := by
  cases reached with
  | refused accepts directory image fault => exact ⟨image, by simp⟩
  | running accepts directory image number room own => exact ⟨image, by simp⟩
  | ended accepts directory image number room own verdict returned => exact ⟨image, by simp⟩
  | _ => simp at noted

theorem Reached.created_once : notes.countP isCreated ≤ 1 := by
  cases reached <;> simp [List.countP_cons, isCreated]

theorem Reached.created_same (first second : Nat) (one : .created (.ok first) ∈ notes)
    (other : .created (.ok second) ∈ notes) : first = second := by
  cases reached <;> simp_all

theorem Reached.supervised_own (verdict : Supervision.Verdict) (noted : .supervised verdict ∈ notes) :
    ∃ image number room, .created (.ok number) ∈ notes ∧ OwnRoom rooms index number image room ∧
      .returned verdict ∈ room.course.notes := by
  cases reached with
  | ended accepts directory image number room own verdict' returned =>
      have same : verdict = verdict' := by simpa using noted
      exact ⟨image, number, room, by simp, own, same ▸ returned⟩
  | _ => simp at noted

/-- A call that has come to have a context returns when the supervisor of that context has. -/
theorem Reached.context_returned (number : Nat) (created : .created (.ok number) ∈ notes)
    (returned : (Call.mk snippet stage notes).result? ≠ none) :
    ∃ verdict room, rooms[number]? = some room ∧ .returned verdict ∈ room.course.notes := by
  cases reached with
  | ended accepts directory image number' room own verdict ended =>
      have same : number = number' := by simpa using created
      exact ⟨verdict, room, same ▸ own.there, ended⟩
  | running accepts directory image number' room own => exact absurd rfl returned
  | _ => simp at created

end Calls

section Laws

/-- What can be said of a request, whatever the others do. -/
structure CallLawful (traffic : Traffic φ σ) (index : Nat) (call : Call) : Prop where
  reached : Reached executor traffic.rooms index call.snippet call.stage call.notes
  compiled (answer : Except Compile.Fault Bytes) : .compiled answer ∈ call.notes →
    executor.accepts call.snippet = true
  created (answer : Except Context.Fault Nat) : .created answer ∈ call.notes →
    ∃ image, .compiled (.ok image) ∈ call.notes
  once : call.notes.countP isCreated ≤ 1
  result : call.result? = dictated executor.settings.timeout call.notes
  supervised (verdict : Supervision.Verdict) : .supervised verdict ∈ call.notes →
    ∃ number room acts, .created (.ok number) ∈ call.notes ∧ traffic.rooms[number]? = some room ∧
      Supervision.Course.start.run? acts = some room.course ∧ .returned verdict ∈ room.course.notes
  opened (directory : String) : .opened (.ok directory) ∈ call.notes → directory ∈ traffic.builds
  -- whatever others did, and in whatever order, in a run where the stages of a call answered the same
  independent (factory : φ) (files : Tree) (acts : List Act) (other : Traffic φ σ) (place : Nat) (twin : Call) :
    (start factory files).run? executor acts = some other → other.calls[place]? = some twin →
      twin.notes.map Note.bare = call.notes.map Note.bare → twin.result? = call.result?
  finishes : Finishes executor index traffic

/-- What can be said of a context. -/
structure RoomLawful (traffic : Traffic φ σ) (number : Nat) (room : Room σ) : Prop where
  owned : Owned traffic.calls number room
  alone (place : Nat) (other : Room σ) : traffic.rooms[place]? = some other → other.owner = room.owner → place = number
  loaded : room.loads = [] ∨ room.loads = [room.image]

def AllReturned (traffic : Traffic φ σ) : Prop :=
  ∀ call ∈ traffic.calls, call.result? ≠ none

/-- What can be said of requests that began with a factory. -/
structure Lawful (begun : φ) (traffic : Traffic φ σ) : Prop where
  calls (index : Nat) (call : Call) : traffic.calls[index]? = some call → CallLawful executor traffic index call
  rooms (number : Nat) (room : Room σ) : traffic.rooms[number]? = some room → RoomLawful traffic number room
  swept : AllReturned traffic → ∀ path ∈ traffic.builds, traffic.files.isDirectory path = true → path ∈ traffic.remade
  live (counting : Supply.Counting executor.supply) : counting.Lawful → AllReturned traffic →
    (∀ room ∈ traffic.rooms, ¬FailedTwice room.course) →
    executor.supply.live traffic.factory = executor.supply.live begun

variable {executor} {traffic : Traffic φ σ}

theorem Kept.alone (kept : Kept executor traffic) {first second : Nat} {room other : Room σ}
    (one : traffic.rooms[first]? = some room) (two : traffic.rooms[second]? = some other)
    (same : other.owner = room.owner) : second = first := by
  obtain ⟨call, there, created, _⟩ := kept.owned first room one
  obtain ⟨call', there', created', _⟩ := kept.owned second other two
  rw [same, there] at there'
  cases there'
  exact (kept.reached room.owner call there).created_same second first created' created

theorem Tidy.gone (tidy : Tidy executor traffic) (returned : AllReturned traffic) (path : String)
    (built : path ∈ traffic.builds) (there : traffic.files.isDirectory path = true) : path ∈ traffic.remade := by
  rcases tidy.held path built there with ⟨call, found, building | ⟨answer, built⟩⟩ | remade
  · exact absurd (by simp [Call.result?, building]) (returned call found)
  · exact absurd (by simp [Call.result?, built]) (returned call found)
  · exact remade

/-- The context of a call that has returned has been destroyed, unless that failed twice. -/
theorem Kept.destroyed (kept : Kept executor traffic) (returned : AllReturned traffic) (room : Room σ)
    (there : room ∈ traffic.rooms) (once : ¬FailedTwice room.course) : .destroyed (.ok ()) ∈ room.course.notes := by
  obtain ⟨number, found⟩ := List.getElem?_of_mem there
  obtain ⟨call, owner, created, _⟩ := kept.owned number room found
  have done : (Call.mk call.snippet call.stage call.notes).result? ≠ none := returned call (List.mem_of_getElem? owner)
  obtain ⟨verdict, same, here, noted⟩ := (kept.reached room.owner call owner).context_returned number created done
  cases found.symm.trans here
  exact destroyed_of_returned (kept.rooms room there).supervision verdict noted once

theorem live_kept {counting : Supply.Counting executor.supply} {base : Nat} (counted : Counted counting base traffic)
    (kept : Kept executor traffic) (returned : AllReturned traffic)
    (once : ∀ room ∈ traffic.rooms, ¬FailedTwice room.course) : executor.supply.live traffic.factory = base := by
  have none : traffic.rooms.countP (counts counting) = 0 :=
    List.countP_eq_zero.mpr fun room there => by
      rw [counted.spent room there (kept.destroyed returned room there (once room there))]
      nofun
  rw [counted.live, none, Nat.add_zero]

theorem tidy_run (factory : φ) (files : Tree) (acts : List Act)
    (ran : (start factory files).run? executor acts = some traffic) : Tidy executor traffic :=
  (run_preserves executor (fun traffic => Kept executor traffic ∧ Tidy executor traffic)
    (fun before after now moved => ⟨kept_step executor before after now.1 moved, tidy_step executor now.2 now.1 moved⟩)
    acts ⟨kept_start executor factory files, tidy_start executor factory files⟩ ran).2

theorem counted_run {counting : Supply.Counting executor.supply} (lawful : counting.Lawful) (factory : φ) (files : Tree)
    (acts : List Act) (ran : (start factory files).run? executor acts = some traffic) :
    Counted counting (executor.supply.live factory) traffic :=
  run_preserves executor (Counted counting (executor.supply.live factory))
    (fun _ _ counted moved => counted_step lawful counted moved) acts (counted_start factory files) ran

/-- With a factory that settings ask for, no context is live when all requests have returned. -/
theorem live_of_settings (settings : Settings) (machine : Host.Machine) (files : Tree) (acts : List Act)
    (traffic : Traffic Supply.AnyFactory Supply.AnyGuest)
    (ran : (start (Supply.factoryOf settings) files).run? (.ofSettings settings machine) acts = some traffic)
    (returned : AllReturned traffic) (once : ∀ room ∈ traffic.rooms, ¬FailedTwice room.course) :
    (Supply.any machine).live traffic.factory = 0 := by
  let executor := Executor.ofSettings settings machine
  have counted : Counted (Supply.countAny machine) ((Supply.any machine).live (Supply.factoryOf settings)) traffic :=
    counted_run (Supply.countAny_lawful machine) (Supply.factoryOf settings) files acts ran
  have none : (Supply.any machine).live (Supply.factoryOf settings) = 0 := by
    unfold Supply.factoryOf
    split <;> rfl
  exact (live_kept counted (kept_run executor _ files acts traffic ran) returned once).trans none

theorem Kept.call_lawful (kept : Kept executor traffic) (tidy : Tidy executor traffic) {index : Nat} {call : Call}
    (there : traffic.calls[index]? = some call) : CallLawful executor traffic index call := by
  have reached := kept.reached index call there
  refine ⟨reached, reached.compiled_accepted, reached.created_compiled, reached.created_once, reached.dictates executor,
    fun verdict noted => ?_, tidy.noted call (List.mem_of_getElem? there),
    fun factory files acts other place twin ran found same => ?_, kept.finishes there⟩
  · obtain ⟨image, number, room, created, own, returned⟩ := reached.supervised_own verdict noted
    obtain ⟨acts, ran⟩ := (kept.rooms room (List.mem_of_getElem? own.there)).supervised
    exact ⟨number, room, acts, created, own.there, ran, returned⟩
  · have dictates := ((kept_run executor factory files acts other ran).reached place twin found).dictates executor
    calc
      twin.result? = dictated executor.settings.timeout twin.notes := dictates
      _ = dictated executor.settings.timeout (twin.notes.map Note.bare) := (dictated_bare ..).symm
      _ = dictated executor.settings.timeout (call.notes.map Note.bare) := by rw [same]
      _ = dictated executor.settings.timeout call.notes := dictated_bare ..
      _ = call.result? := (reached.dictates executor).symm

/-- Requests that are under way at the same time, with whatever validator, compiler and contexts, do not come in
each other's way: each runs the compiler only on what was accepted, has one context at most and only for what was
compiled, into which nothing else is loaded, and returns what the answers of its own stages dictate. When all have
returned, the directories of their builds are gone, and the factory counts as many contexts as before unless
destroying one of them failed twice. -/
theorem requests_are_independent (executor : Executor φ σ) (factory : φ) (files : Tree) (acts : List Act)
    (traffic : Traffic φ σ) (ran : (start factory files).run? executor acts = some traffic) :
    Lawful executor factory traffic := by
  have kept := kept_run executor factory files acts traffic ran
  have tidy := tidy_run factory files acts ran
  constructor
  · intro index call there
    exact kept.call_lawful tidy there
  · intro number room there
    exact ⟨kept.owned number room there, fun _ _ other same => kept.alone there other same,
      (kept.rooms room (List.mem_of_getElem? there)).loads_once⟩
  · exact tidy.gone
  · intro counting lawful returned once
    exact live_kept (counted_run lawful factory files acts ran) kept returned once

-- A compiler that writes an executable, and an executable that exits at once.
def toolchain : Host.Machine where
  search := []
  program? content := some fun launch files =>
    let output := launch.args.getD (launch.args.length - 2) ""
    let written := if content = [1] then files.write output [2] else .ok files
    { files := written.toOption.getD files, out := [], err := [], ending := .exit 0 }

def workshop : Executor Context.Directory.Factory Context.Directory.Guest where
  settings := { Settings.defaults with compiler := { CompilerSettings.defaults with binary := "/rustc", args := [] } }
  machine := toolchain
  accepts snippet := snippet != "no"
  supply := .directories toolchain

def workplace : Tree :=
  ⟨[(["tmp"], .directory), (["rustc"], .file [1] 0o755)], []⟩

def supervision (number : Nat) : List Act :=
  let moves : List Move :=
    [.plain (.supervisor (.spawn (.ok ()))), .plain (.worker (.boot (.ok ()))), .plain (.worker .load), .load, .invoke,
      .report, .plain (.worker .send), .plain (.supervisor .look), .plain (.supervisor .destroy), .destroy]
  moves.map (.room number)

-- Three calls side by side; what one of them asks for is not accepted.
def sideBySide : List Act :=
  [.arrive "1", .arrive "no", .arrive "2", .call 0 .validate, .call 2 .validate, .call 0 .prepare, .call 2 .prepare,
    .call 2 .compile, .call 1 .validate, .call 0 .compile, .call 0 .sweep, .call 0 .create, .call 2 .sweep,
    .call 2 .create] ++ supervision 0 ++ supervision 1 ++ [.call 2 .answer, .call 0 .answer]

theorem requests_side_by_side :
    ∃ traffic, (start (.new none) workplace).run? workshop sideBySide = some traffic ∧
      traffic.calls.map (·.result?) = [some (.value none), some .rejected, some (.value none)] ∧
      traffic.factory.live = 0 ∧ Lawful workshop (.new none) traffic := by
  have runs : ((start (.new none) workplace).run? workshop sideBySide).map (fun traffic =>
      (traffic.calls.map (·.result?), traffic.rooms.all fun room => room.course.notes.countP isFailedDestroy < 2)) =
        some ([some (.value none), some .rejected, some (.value none)], true) := by decide +kernel
  obtain ⟨traffic, ran, same⟩ := Option.map_eq_some_iff.mp runs
  obtain ⟨results, destroyed⟩ := Prod.mk.inj same
  have lawful := requests_are_independent workshop (.new none) workplace sideBySide traffic ran
  have returned : AllReturned traffic := fun call there none => by
    have shown := List.mem_map_of_mem (f := (·.result?)) there
    rw [results, none] at shown
    simp at shown
  have once (room : Room Context.Directory.Guest) (there : room ∈ traffic.rooms) : ¬FailedTwice room.course := by
    have := List.all_eq_true.mp destroyed room there
    simpa [FailedTwice] using this
  exact ⟨traffic, ran, results,
    lawful.live (Supply.countDirectories toolchain) (Supply.countDirectories_lawful toolchain) returned once, lawful⟩

end Laws
end Traffic
end SnippetRunner.Request

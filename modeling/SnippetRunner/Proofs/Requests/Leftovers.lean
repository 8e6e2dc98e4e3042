import SnippetRunner.Proofs.Requests.Histories
import SnippetRunner.Proofs.Requests.Supplies
import SnippetRunner.Proofs.TemporaryDirectories

/-!
What requests leave behind. The directory of a build is there as long as a call builds in it, unless others make
one of its path again; and the count of live contexts is what it was, and the contexts that calls have made and
not destroyed.
-/

namespace SnippetRunner
open Files (Tree)

namespace Compile
open Files.Tree (IsTemporary isDirectory_iff isDirectory_removed removeDirectory_iff removed_temporary)
variable {files : Tree} {directory other : String}

theorem namePrefix_single : Files.Path.separator ∉ namePrefix.toList := by
  decide

/-- A build leaves no directory. -/
theorem sweep_gone {root : String} (temporary : IsTemporary root namePrefix directory) :
    (sweep files directory).isDirectory directory = false := by
  rw [sweep]
  split
  · next removed => exact removed_temporary namePrefix_single temporary removed
  · next failed =>
      refine Bool.eq_false_iff.mpr fun there => ?_
      obtain ⟨place, resolved, found⟩ := (isDirectory_iff files directory).mp there
      cases failed.symm.trans (removeDirectory_iff.mpr ⟨place, resolved, found, rfl⟩)

theorem sweep_only (there : (sweep files directory).isDirectory other = true) : files.isDirectory other = true := by
  rw [sweep] at there
  split at there
  · next removed => exact isDirectory_removed removed there
  · exact there

end Compile

namespace Request
open Context (Supply Supply.Counting)
open Files.Tree (IsTemporary made_temporary)
open Run (Supervision.Act Supervision.Course Supervision.Note)
variable {φ σ : Type} (executor : Executor φ σ)

namespace Traffic
variable {before after : Traffic φ σ}

section Builds

/-- A call builds in a directory. -/
def Held (calls : List Call) (path : String) : Prop :=
  ∃ call ∈ calls, call.Holds path

theorem Held.append {calls : List Call} {path : String} (held : Held calls path) (more : List Call) :
    Held (calls ++ more) path := by
  obtain ⟨call, there, holds⟩ := held
  exact ⟨call, List.mem_append_left _ there, holds⟩

theorem Held.set {calls : List Call} {path : String} (held : Held calls path) {index : Nat} {old new : Call}
    (there : calls[index]? = some old) (keeps : old.Holds path → new.Holds path) : Held (calls.set index new) path := by
  obtain ⟨call, found, holds⟩ := held
  obtain ⟨bound, rfl⟩ := List.getElem?_eq_some_iff.mp there
  obtain ⟨other, inside, rfl⟩ := List.getElem_of_mem found
  by_cases same : other = index
  · subst same
    exact ⟨new, List.mem_set inside new, keeps holds⟩
  · refine ⟨calls[other], ?_, holds⟩
    rw [← List.getElem_set_ne (Ne.symm same) (by simpa using inside)]
    exact List.getElem_mem _

/-- The directories of builds are there for a call, or made again by others. -/
structure Tidy (traffic : Traffic φ σ) : Prop where
  temporary : ∀ path ∈ traffic.builds, IsTemporary (scratch executor) Compile.namePrefix path
  held : ∀ path ∈ traffic.builds, traffic.files.isDirectory path = true →
    Held traffic.calls path ∨ path ∈ traffic.remade
  noted : ∀ call ∈ traffic.calls, ∀ directory, .opened (.ok directory) ∈ call.notes → directory ∈ traffic.builds

theorem tidy_start (factory : φ) (files : Tree) : Tidy executor (start factory files : Traffic φ σ) :=
  ⟨fun _ none => (by cases none), fun _ none => (by cases none), fun _ none => (by cases none)⟩

theorem Tidy.elsewhere (tidy : Tidy executor before) (factory : φ) (rooms : List (Room σ)) :
    Tidy executor { before with factory, rooms } :=
  ⟨tidy.temporary, tidy.held, tidy.noted⟩

/-- What others do to the files. -/
theorem Tidy.disturb (tidy : Tidy executor before) (files : Tree) : Tidy executor (before.disturb files) := by
  refine ⟨tidy.temporary, fun path built there => ?_, tidy.noted⟩
  by_cases was : before.files.isDirectory path = true
  · exact (tidy.held path built was).imp_right (List.mem_append_right _)
  · exact .inr (List.mem_append_left _ (List.mem_filter.mpr ⟨built, by simp_all [Traffic.disturb]⟩))

/-- A call that goes on without making or removing a directory. -/
theorem Tidy.put (tidy : Tidy executor before) {index : Nat} {call : Call} (there : before.calls[index]? = some call)
    (stage : Stage) (note : Note) (keeps : ∀ path, call.Holds path → (call.go stage note).Holds path)
    (other : ∀ directory, note ≠ .opened (.ok directory)) : Tidy executor (before.put index (call.go stage note)) := by
  refine ⟨tidy.temporary, fun path built there' => ?_, fun found member directory noted => ?_⟩
  · exact (tidy.held path built there').imp_left fun held => held.set there (keeps path)
  · rcases List.mem_or_eq_of_mem_set member with old | rfl
    · exact tidy.noted found old directory noted
    · rcases List.mem_cons.mp noted with new | old
      · exact absurd new.symm (other directory)
      · exact tidy.noted call (List.mem_of_getElem? there) directory old

/-- A directory is made for a call, and none but it. -/
theorem Tidy.opened (tidy : Tidy executor before) {index : Nat} {call : Call}
    (there : before.calls[index]? = some call) (stage : call.stage = .accepted) (directory : String) (files : Tree)
    (made : before.files.makeTemporary (scratch executor) Compile.namePrefix = .ok (directory, files)) :
    Tidy executor { before.put index (call.go (.building directory) (.opened (.ok directory))) with
      files, builds := directory :: before.builds } := by
  obtain ⟨temporary, only⟩ := made_temporary Compile.namePrefix_single made
  have bound := (List.getElem?_eq_some_iff.mp there).1
  have here : Held (before.calls.set index (call.go (.building directory) (.opened (.ok directory)))) directory :=
    ⟨_, List.mem_set bound _, .inl rfl⟩
  have free (path : String) (holds : call.Holds path) : False := by
    rcases holds with building | ⟨answer, built⟩
    · cases stage.symm.trans building
    · cases stage.symm.trans built
  refine ⟨fun path built => ?_, fun path built there' => ?_, fun found member path noted => ?_⟩
  · rcases List.mem_cons.mp built with rfl | old
    · exact temporary
    · exact tidy.temporary path old
  · rcases List.mem_cons.mp built with rfl | old
    · exact .inl here
    · rcases only path (tidy.temporary path old) there' with rfl | was
      · exact .inl here
      · exact (tidy.held path old was).imp_left fun held => held.set there fun holds => (free path holds).elim
  · rcases List.mem_or_eq_of_mem_set member with old | rfl
    · exact List.mem_cons_of_mem _ (tidy.noted found old path noted)
    · rcases List.mem_cons.mp noted with new | old
      · cases new
        exact List.mem_cons_self ..
      · exact List.mem_cons_of_mem _ (tidy.noted call (List.mem_of_getElem? there) path old)

/-- The directory of a call is taken away, and those of the others stay theirs. -/
theorem Tidy.swept (tidy : Tidy executor before) {index : Nat} {call : Call}
    (there : before.calls[index]? = some call) (directory : String) (answer : Except Compile.Fault Bytes)
    (stage : call.stage = .built directory answer) (opened : .opened (.ok directory) ∈ call.notes) :
    Tidy executor { before.put index (call.go (afterBuild answer) (.swept directory)) with
      files := Compile.sweep before.files directory } := by
  have built := tidy.noted call (List.mem_of_getElem? there) directory opened
  refine ⟨tidy.temporary, fun path built' there' => ?_, fun found member path noted => ?_⟩
  · have other : path ≠ directory := by
      rintro rfl
      exact absurd there' (by rw [Compile.sweep_gone (tidy.temporary path built)]; nofun)
    refine (tidy.held path built' (Compile.sweep_only there')).imp_left fun held => held.set there fun holds => ?_
    rcases holds with building | ⟨answer', holds⟩
    · cases stage.symm.trans building
    · cases stage.symm.trans holds
      exact absurd rfl other
  · rcases List.mem_or_eq_of_mem_set member with old | rfl
    · exact tidy.noted found old path noted
    · rcases List.mem_cons.mp noted with new | old
      · cases new
      · exact tidy.noted call (List.mem_of_getElem? there) path old

theorem tidy_call (tidy : Tidy executor before) (kept : Kept executor before) {index : Nat} {call : Call}
    (there : before.calls[index]? = some call) (moved : CallMoved executor before index call after) :
    Tidy executor after := by
  have reached := kept.reached index call there
  cases moved with
  | accepted stage accepts =>
      exact tidy.put executor there .accepted (.judged true) (by simp [Call.Holds, stage]) (by simp)
  | rejected stage refuses =>
      exact tidy.put executor there (.returned .rejected) (.judged false) (by simp [Call.Holds, stage]) (by simp)
  | unopened cause stage made =>
      exact tidy.put executor there _ (.opened (.error cause)) (by simp [Call.Holds, stage]) (by simp)
  | opened directory files stage made => exact tidy.opened executor there stage directory files made
  | compiled directory answer files stage ran =>
      refine (tidy.put executor there _ (.compiled answer) (fun path holds => ?_) (by simp)).disturb executor files
      rcases holds with building | ⟨answer', built⟩
      · cases stage.symm.trans building
        exact .inr ⟨answer, rfl⟩
      · cases stage.symm.trans built
  | swept directory answer stage =>
      rw [stage] at reached
      refine tidy.swept executor there directory answer stage ?_
      rw [reached.awaiting.2]
      simp
  | refused image fault factory files stage created =>
      have put := tidy.put executor there (.returned (.supervisionFault fault.message)) (.created (.error fault))
        (by simp [Call.Holds, stage]) (by simp)
      exact (put.elsewhere executor factory before.rooms).disturb executor files
  | made image guest factory files stage created =>
      have put := tidy.put executor there (.running before.rooms.length) (.created (.ok before.rooms.length))
        (by simp [Call.Holds, stage]) (by simp)
      exact (put.elsewhere executor factory (before.rooms ++ [.new guest index image])).disturb executor files
  | answered number room event stage found ended =>
      exact tidy.put executor there _ (.supervised event.verdict) (by simp [Call.Holds, stage]) (by simp)

theorem tidy_step (tidy : Tidy executor before) (kept : Kept executor before) (moved : Moved executor before after) :
    Tidy executor after := by
  cases moved with
  | arrived snippet =>
      refine ⟨tidy.temporary, fun path built there => ?_, fun call member directory noted => ?_⟩
      · exact (tidy.held path built there).imp_left fun held => held.append _
      · rcases List.mem_append.mp member with old | new
        · exact tidy.noted call old directory noted
        · rw [List.mem_singleton.mp new] at noted
          cases noted
  | call index call after there moved => exact tidy_call executor tidy kept there moved
  | room number old new outside there present moved =>
      exact (tidy.elsewhere executor outside.1 (before.rooms.set number new)).disturb executor outside.2
  | outside files => exact tidy.disturb executor files

end Builds

section Courses
variable {course later : Supervision.Course} {act : Supervision.Act}

/-- That a call of destroy succeeded is noted when it has. -/
theorem destroyed_noted (taken : course.step? act = some later) (noted : .destroyed (.ok ()) ∈ later.notes) :
    .destroyed (.ok ()) ∈ course.notes ∨ act = .supervisor (.destroyed (.ok ())) := by
  cases act with
  | worker act =>
      cases act with
      | send =>
          simp only [Supervision.Course.step?, Supervision.Course.work?] at taken
          split at taken
          · cases taken
            unfold Supervision.Course.send at noted
            split at noted <;> exact .inl (by simpa [Supervision.Course.goOn] using noted)
          · cases taken
      | _ =>
          simp only [Supervision.Course.step?, Supervision.Course.work?] at taken
          split at taken <;> cases taken <;> exact .inl (by simpa [Supervision.Course.goOn] using noted)
  | supervisor act =>
      cases act with
      | destroyed answer =>
          rcases answer with fault | done
          · simp only [Supervision.Course.step?, Supervision.Course.watch?] at taken
            split at taken <;> cases taken <;>
              exact .inl (by simpa [Supervision.Course.enter, Supervision.Course.answer] using noted)
          · exact .inr rfl
      | _ =>
          simp only [Supervision.Course.step?, Supervision.Course.watch?] at taken
          split at taken <;> cases taken <;>
            exact .inl (by simpa [Supervision.Course.enter, Supervision.Course.look, Supervision.Course.settle]
              using noted)

def isFailedDestroy : Supervision.Note → Bool
  | .destroyed (.error _) => true
  | _ => false

/-- Destroying the context failed, and failed again. -/
def FailedTwice (course : Supervision.Course) : Prop :=
  2 ≤ course.notes.countP isFailedDestroy

/-- A supervisor that has returned has destroyed the context, unless that failed twice. -/
theorem destroyed_of_returned (sound : Supervision.Course.Sound course) (verdict : Run.Supervision.Verdict)
    (returned : .returned verdict ∈ course.notes) (once : ¬FailedTwice course) :
    .destroyed (.ok ()) ∈ course.notes := by
  obtain ⟨later, earlier, split⟩ := List.append_of_mem returned
  have grounded := sound.grounded
  rw [split] at grounded
  obtain ⟨⟨event, _, ends⟩, _⟩ := grounded.of_append
  have inside (note : Supervision.Note) (noted : note ∈ Run.Supervision.endings earlier) : note ∈ course.notes := by
    rw [split]
    exact List.mem_append_right _ (List.mem_cons_of_mem _ (List.mem_filter.mp noted).1)
  rcases ends with first | ⟨fault, answer, second⟩
  · exact inside _ (by simp [first])
  · cases answer with
    | ok done => exact inside _ (by simp [second])
    | error again =>
        refine absurd ?_ once
        have twice : (Run.Supervision.endings earlier).countP isFailedDestroy = 2 := by
          rw [second]
          rfl
        rw [FailedTwice, ← twice, split]
        have part : (Run.Supervision.endings earlier).Sublist (later ++ .returned verdict :: earlier) :=
          List.filter_sublist.trans ((List.sublist_cons_self _ _).trans (List.sublist_append_right _ _))
        exact part.countP_le

end Courses

section Counts
variable {executor : Executor φ σ} {counting : Supply.Counting executor.supply} {old new : Room σ} {factory : φ}
  {files : Tree} {outside : φ × Tree}

/-- The factory counts the context of a room. -/
def counts (counting : Supply.Counting executor.supply) (room : Room σ) : Bool :=
  !room.left && counting.counted room.guest

/-- What a change to a room does to the count. -/
structure Recounted (counting : Supply.Counting executor.supply) (factory : φ) (old new : Room σ) (after : φ) :
    Prop where
  fits : new.left = false → counting.fits after new.guest
  others (other : σ) : counting.fits factory other → counting.fits after other
  lasting : counts counting new = true → counts counting old = true
  live : executor.supply.live after =
    if counts counting old && !counts counting new then executor.supply.live factory - 1
    else executor.supply.live factory

theorem Recounted.same (fits : counting.fits factory old.guest) (guest : new.guest = old.guest)
    (left : new.left = old.left) : Recounted counting factory old new factory := by
  have counted : counts counting new = counts counting old := by rw [counts, counts, guest, left]
  exact ⟨fun _ => guest ▸ fits, fun _ fits => fits, fun there => counted ▸ there, by simp [counted]⟩

theorem Recounted.visit {after : φ} (steady : counting.Steady factory old.guest after new.guest)
    (present : old.left = false) (left : new.left = old.left) : Recounted counting factory old new after := by
  have oldCounts : counts counting old = counting.counted old.guest := by simp [counts, present]
  have newCounts : counts counting new = counting.counted new.guest := by simp [counts, left, present]
  refine ⟨fun _ => steady.fits, steady.others, ?_, ?_⟩
  · rw [oldCounts, newCounts]
    exact steady.lasting
  · rw [oldCounts, newCounts]
    exact steady.live

theorem RoomMoved.recounted (lawful : counting.Lawful) (fits : counting.fits factory old.guest)
    (present : old.left = false) (moved : RoomMoved executor.supply old factory files new outside) :
    Recounted counting factory old new outside.1 := by
  cases moved with
  | plain act course plain taken => exact .same fits rfl rfl
  | load answer guest course called taken =>
      have steady := lawful.load old.image factory files old.guest fits
      rw [called] at steady
      exact .visit steady present rfl
  | invoke reply guest course called taken =>
      have steady := lawful.invoke factory files old.guest fits
      rw [called] at steady
      exact .visit steady present rfl
  | await reply guest waited called =>
      have steady := lawful.await factory files old.guest fits
      rw [called] at steady
      exact .visit steady present rfl
  | report answer course replied taken => exact .same fits rfl rfl
  | destroy answer guest course called taken =>
      have steady := lawful.destroy factory files old.guest fits
      rw [called] at steady
      exact .visit steady present rfl
  | leave done =>
      obtain ⟨live, others⟩ := lawful.leave factory files old.guest fits
      refine ⟨nofun, others, nofun, ?_⟩
      rw [live]
      simp [counts, present]

/-- A context that was destroyed is not counted any more. -/
theorem RoomMoved.spent (lawful : counting.Lawful) (fits : counting.fits factory old.guest)
    (present : old.left = false) (moved : RoomMoved executor.supply old factory files new outside)
    (spent : .destroyed (.ok ()) ∈ old.course.notes → counts counting old = false)
    (noted : .destroyed (.ok ()) ∈ new.course.notes) : counts counting new = false := by
  have before (there : .destroyed (.ok ()) ∈ old.course.notes) : counts counting new = false := by
    refine Bool.eq_false_iff.mpr fun counted => ?_
    have was := (moved.recounted lawful fits present).lasting counted
    rw [spent there] at was
    cases was
  cases moved with
  | plain act course plain taken =>
      rcases destroyed_noted taken noted with there | rfl
      · exact before there
      · cases plain
  | load answer guest course called taken =>
      exact (destroyed_noted taken noted).elim before nofun
  | invoke reply guest course called taken =>
      exact (destroyed_noted taken noted).elim before nofun
  | await reply guest waited called => exact before noted
  | report answer course replied taken => exact (destroyed_noted taken noted).elim before nofun
  | destroy answer guest course called taken =>
      rcases destroyed_noted taken noted with there | same
      · exact before there
      · cases same
        have gone := lawful.destroyed factory files old.guest fits (congrArg Prod.fst called)
        rw [called] at gone
        simp [counts, gone]
  | leave done => exact before noted

/-- The factory counts what it counted before, and the contexts that calls have made and not destroyed. -/
structure Counted (counting : Supply.Counting executor.supply) (base : Nat) (traffic : Traffic φ σ) : Prop where
  fits : ∀ room ∈ traffic.rooms, room.left = false → counting.fits traffic.factory room.guest
  live : executor.supply.live traffic.factory = base + traffic.rooms.countP (counts counting)
  spent : ∀ room ∈ traffic.rooms, .destroyed (.ok ()) ∈ room.course.notes → counts counting room = false

theorem counted_start (factory : φ) (files : Tree) :
    Counted counting (executor.supply.live factory) (start factory files : Traffic φ σ) :=
  ⟨fun _ none => (by cases none), rfl, fun _ none => (by cases none)⟩

/-- A change to one room changes the count by that room. -/
theorem countP_replace {rooms : List (Room σ)} {number : Nat} (p : Room σ → Bool) (there : rooms[number]? = some old)
    (lasting : p new = true → p old = true) :
    (rooms.set number new).countP p = if p old && !p new then rooms.countP p - 1 else rooms.countP p := by
  obtain ⟨bound, rfl⟩ := List.getElem?_eq_some_iff.mp there
  have counted := List.countP_set (p := p) (a := new) bound
  have positive (here : p rooms[number] = true) : 0 < rooms.countP p :=
    List.countP_pos_iff.mpr ⟨_, List.getElem_mem bound, here⟩
  rw [counted]
  cases was : p rooms[number] <;> cases is : p new <;> simp_all

theorem Counted.room {base number : Nat} (counted : Counted counting base before)
    (there : before.rooms[number]? = some old) (recounted : Recounted counting before.factory old new factory)
    (spent : .destroyed (.ok ()) ∈ new.course.notes → counts counting new = false) (files : Tree) :
    Counted counting base ({ before with factory, rooms := before.rooms.set number new }.disturb files) := by
  have positive (here : counts counting old = true) : 0 < before.rooms.countP (counts counting) :=
    List.countP_pos_iff.mpr ⟨old, List.mem_of_getElem? there, here⟩
  refine ⟨fun room found present => ?_, ?_, fun room found noted => ?_⟩
  · rcases List.mem_or_eq_of_mem_set found with other | rfl
    · exact recounted.others room.guest (counted.fits room other present)
    · exact recounted.fits present
  · show executor.supply.live factory = base + (before.rooms.set number new).countP (counts counting)
    rw [recounted.live, counted.live, countP_replace (counts counting) there recounted.lasting]
    split
    · next changed =>
        have := positive (Bool.and_eq_true_iff.mp changed).1
        omega
    · rfl
  · rcases List.mem_or_eq_of_mem_set found with other | rfl
    · exact counted.spent room other noted
    · exact spent noted

theorem counted_step {base : Nat} (lawful : counting.Lawful) (counted : Counted counting base before)
    (moved : Moved executor before after) : Counted counting base after := by
  cases moved with
  | arrived snippet => exact ⟨counted.fits, counted.live, counted.spent⟩
  | call index call after there moved =>
      cases moved with
      | refused image fault factory files stage created =>
          obtain ⟨live, others⟩ := lawful.refused _ _ _ _ created
          exact ⟨fun room found present => others room.guest (counted.fits room found present),
            live.trans counted.live, counted.spent⟩
      | made image guest factory files stage created =>
          obtain ⟨live, new, fits, others⟩ := lawful.made _ _ _ _ created
          refine ⟨fun room found present => ?_, ?_, fun room found noted => ?_⟩
          · rcases List.mem_append.mp found with old | made
            · exact others room.guest (counted.fits room old present)
            · rw [List.mem_singleton.mp made]
              exact fits
          · have here : counts counting (Room.new guest index image) = true := by simp [counts, Room.new, new]
            show executor.supply.live factory = _ + (before.rooms ++ [Room.new guest index image]).countP _
            rw [List.countP_append, List.countP_singleton, here, live, counted.live]
            exact Nat.add_assoc _ _ _
          · rcases List.mem_append.mp found with old | made
            · exact counted.spent room old noted
            · rw [List.mem_singleton.mp made] at noted
              cases noted
      | _ => exact ⟨counted.fits, counted.live, counted.spent⟩
  | room number old new outside there present moved =>
      have fits := counted.fits old (List.mem_of_getElem? there) present
      exact counted.room there (moved.recounted lawful fits present)
        (moved.spent lawful fits present (counted.spent old (List.mem_of_getElem? there))) outside.2
  | outside files => exact ⟨counted.fits, counted.live, counted.spent⟩

end Counts
end Traffic
end Request
end SnippetRunner

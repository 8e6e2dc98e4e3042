import SnippetRunner.Proofs.FailedRuns
import SnippetRunner.Proofs.TruncatedText
import SnippetRunner.Proofs.WrittenFiles

/-!
Values as they are shown. What a program leaves in its result slot is the value of a clean exit, whatever it says on
its way: the whole text if it is not too long, and its longest front that fits otherwise. Only a program that puts a
directory in the place of what it said comes to a fault, as that cannot be read.
-/

namespace SnippetRunner

section Slots
variable {text : String}

namespace Utf8

theorem length_readFrom (done : List Char) (octets : Bytes) : done.length ≤ (readFrom done octets).length := by
  induction done, octets using readFrom.induct with
  | case1 done => simp [readFrom]
  | case2 done lead rest c more piece ih =>
      rw [readFrom, piece]
      exact Nat.le_trans (Nat.le_succ _) ih
  | case3 done lead rest more piece ih =>
      rw [readFrom, piece]
      exact Nat.le_trans (Nat.le_succ _) ih
  | case4 done lead rest more piece ih =>
      rw [readFrom, piece]
      exact Nat.le_trans (Nat.le_succ _) ih

theorem lossy_ne_empty (lead : UInt8) (rest : Bytes) : lossy (lead :: rest) ≠ "" := by
  intro empty
  have none := String.ofList_eq_empty_iff.mp empty
  have long : 1 ≤ (readLossy (lead :: rest)).length := by
    rw [readLossy, readFrom]
    split <;> exact length_readFrom [_] _
  rw [none] at long
  cases long

end Utf8

namespace Run

/-- What the text in the result slot comes to after a clean exit. -/
inductive Comes (text : String) : Outcome → Prop where
  | nothing (empty : text = "") : Comes text (.value none)
  | value (kept : List Char) (nonempty : text ≠ "") (cut : Utf8.Kept resultLimit text.toList kept) :
      Comes text (.value (some (String.ofList kept)))

theorem Comes.unique {outcome other : Outcome} (one : Comes text outcome) (two : Comes text other) :
    other = outcome := by
  cases one with
  | nothing empty =>
      cases two with
      | nothing => rfl
      | value _ nonempty => exact absurd empty nonempty
  | value kept nonempty cut =>
      cases two with
      | nothing empty => exact absurd empty nonempty
      | value same _ again => rw [cut.unique again]

/-- The first octets of the text, as many as are read. -/
def slotOf (text : String) : Bytes :=
  (Utf8.ofString text).take resultLimit

theorem valueOf_slot (text : String) : Comes text (.value (Outcome.valueOf (some (slotOf text)))) ∧
    ∀ said, Outcome.valueOf (some (slotOf text)) = some said → said ≠ "" := by
  by_cases empty : text = ""
  · have nothing : slotOf text = [] := by rw [slotOf, Utf8.ofString_eq, empty]; rfl
    rw [nothing]
    exact ⟨.nothing empty, nofun⟩
  · have some : slotOf text ≠ [] := by
      rw [slotOf, Utf8.ofString_eq, ne_eq, List.take_eq_nil_iff, not_or]
      refine ⟨by decide, ?_⟩
      obtain ⟨c, rest, letters⟩ := List.exists_cons_of_ne_nil fun none => empty (String.toList_inj.mp none)
      obtain ⟨lead, more, spelled, _⟩ := Utf8.piece_encode c
      rw [letters, Utf8.write, List.flatMap_cons, spelled]
      simp
    obtain ⟨lead, rest, content⟩ := List.exists_cons_of_ne_nil some
    have value : Outcome.valueOf (.some (slotOf text)) = .some (Utf8.lossy (slotOf text)) := by
      rw [content]
      rfl
    rw [value]
    constructor
    · refine .value _ empty ?_
      rw [slotOf, Utf8.ofString_eq]
      exact Utf8.kept_of_take resultLimit text.toList
    · rintro said ⟨⟩
      rw [content]
      exact Utf8.lossy_ne_empty lead rest

end Run

theorem Request.Result.text_value (said : String) (nonempty : said ≠ "") :
    (Request.Result.value (some said)).text = said := by
  have full : ¬said.isEmpty = true := by rwa [String.isEmpty_iff]
  exact if_neg full

end Slots

namespace Context
open Files (Tree Path.join)
open Run (Slot slotOf)

section Files
variable {files : Tree} {base text : String}

/-- A text is in the result slot. -/
def Holds (files : Tree) (base text : String) : Prop :=
  ∃ mode, files.node (Path.join base resultName) = .ok (.file (Utf8.ofString text) mode)

/-- What is said goes to its own file. -/
theorem Holds.keepSaid (holds : Holds files base text) (said : Bytes) :
    Holds (keepSaid files (Path.join base stderrName) said) base text := by
  unfold Context.keepSaid
  split
  · split
    · next written =>
        obtain ⟨mode, found⟩ := holds
        exact ⟨mode, Tree.node_beside stderrName_entry resultName_entry (by decide) written found⟩
    · exact holds
  · exact holds

theorem Holds.slot_read (holds : Holds files base text) :
    files.readCapped (Path.join base resultName) Run.resultLimit = .ok (some (slotOf text)) := by
  obtain ⟨mode, found⟩ := holds
  rw [Tree.readCapped, found]
  rfl

/-- Beside the result slot, what was said can be read unless a directory is in its place. -/
theorem Holds.stderr_read (holds : Holds files base text) :
    ∃ said, files.readCapped (Path.join base stderrName) Run.stderrLimit =
      if files.isDirectory (Path.join base stderrName) then .error .isDirectory else .ok said := by
  obtain ⟨mode, found⟩ := holds
  rw [Tree.readCapped, Tree.isDirectory]
  rcases Tree.node_near resultName_entry stderrName_entry rfl found with ⟨node, there⟩ | missing
  · rw [there]
    cases node with
    | file content mode => exact ⟨some (content.take Run.stderrLimit), rfl⟩
    | directory => exact ⟨none, rfl⟩
  · rw [missing]
    exact ⟨none, rfl⟩

end Files

section Starts
variable {machine : Host.Machine} {prepare : Tree → Except Fault (Host.Launch × Tree)} {slot after : Slot}
  {files prepared : Tree} {effect : Host.Effect}

theorem attempt_running (started : Slot.attempt machine prepare slot files = (.ok (after, effect), prepared)) :
    after.running = some effect.ending := by
  unfold Slot.attempt Slot.tryStart at started
  split at started
  · cases started
  · split at started
    · cases started
    · split at started
      · cases started
      · cases started
        rfl

/-- A slot into which a program was started holds that program. -/
theorem start_running (started : slot.start machine prepare files = (.ok (after, effect), prepared)) :
    after.running = some effect.ending := by
  unfold Slot.start at started
  generalize Slot.attempts - 1 = more at started
  induction more generalizing files with
  | zero => exact attempt_running started
  | succ more ih =>
      unfold Slot.startWithin at started
      split at started
      · exact ih started
      · exact attempt_running started

theorem poll_of_running {ending : Host.Ending} (running : slot.running = some ending) (ends : ending ≠ .never) :
    slot.poll = (.ended ending, { slot with running := none }) := by
  unfold Slot.poll
  rw [running]
  cases ending with
  | exit code => rfl
  | signal number => rfl
  | never => exact absurd rfl ends

end Starts

namespace Directory
variable {machine : Host.Machine} {context : Directory} {files left : Tree} {text : String}

/-- The loaded program can be started, leaves a text in its slot and exits cleanly; these are the files left then. -/
structure RunsTo (machine : Host.Machine) (context : Directory) (files : Tree) (text : String) (left : Tree) :
    Prop where
  loaded : context.loaded = true
  ended : ∃ slot effect prepared, context.slot.start machine context.prepare files = (.ok (slot, effect), prepared) ∧
    Run.Exit.ofEnding? effect.ending = some (.code 0) ∧ Holds effect.files context.path text ∧
    left = keepSaid effect.files (Path.join context.path stderrName) effect.err

theorem collect_left (context : Directory) (exit : Run.Exit) (holds : Holds files context.path text) :
    ∃ stderr, context.collect exit files =
      if files.isDirectory (Path.join context.path stderrName) then .error (.host .isDirectory)
      else .ok ⟨exit, some (slotOf text), stderr⟩ := by
  obtain ⟨said, read⟩ := holds.stderr_read
  refine ⟨said.getD [], ?_⟩
  rw [collect, holds.slot_read, read]
  split <;> rfl

theorem invoke_left (runs : RunsTo machine context files text left) : ∃ stderr,
    (context.invoke machine files).1 = .answered
      (if left.isDirectory (Path.join context.path stderrName) then .error (.host .isDirectory)
      else .ok ⟨.code 0, some (slotOf text), stderr⟩) := by
  obtain ⟨slot, effect, prepared, started, clean, holds, rfl⟩ := runs.ended
  have ends : effect.ending ≠ .never := fun never => by rw [never] at clean; cases clean
  have polled := poll_of_running (start_running started) ends
  obtain ⟨stderr, collected⟩ := collect_left { context with slot := { slot with running := none } }
    (.code 0) (holds.keepSaid effect.err)
  refine ⟨stderr, ?_⟩
  rw [invoke, if_neg (by simp [runs.loaded]), started]
  simp only [await, polled, clean, collected]

end Directory

namespace Boxed
variable {machine : Host.Machine} {context : Boxed} {files left : Tree} {text : String}

/-- The directory of a box that its programs see. -/
def inside (context : Boxed) : String :=
  Path.join context.box.path "box"

/-- The loaded program leaves a text in its slot, and by the account of the keeper it exits cleanly; these are the
files left then. -/
structure RunsTo (machine : Host.Machine) (context : Boxed) (files : Tree) (text : String) (left : Tree) :
    Prop where
  loaded : context.loaded = true
  ended : ∃ slot effect prepared, context.slot.start machine context.prepare files = (.ok (slot, effect), prepared) ∧
    effect.ending ≠ .never ∧ left = keepSaid effect.files context.logPath effect.err
  clean : ∃ account, Box.Account.load left (Path.join context.inside accountName) = .ok account ∧
    account.exit = .ok (.code 0)
  holds : Holds left context.inside text

theorem filePath_inside (context : Boxed) (name : String) (sound : Box.checkName name = .ok ()) :
    context.box.filePath name = .ok (Path.join context.inside name) := by
  simp only [Box.filePath, sound, bind, Except.bind]
  rfl

theorem readOptional_inside (context : Boxed) (name : String) (sound : Box.checkName name = .ok ()) (limit : Nat)
    (files : Tree) : context.box.readOptional name limit files =
      (files.readCapped (Path.join context.inside name) limit).mapError .host := by
  rw [Box.readOptional, filePath_inside context name sound]
  rfl

theorem collect_left (context : Boxed) {account : Box.Account}
    (told : Box.Account.load files (Path.join context.inside accountName) = .ok account)
    (clean : account.exit = .ok (.code 0)) (holds : Holds files context.inside text) :
    ∃ stderr, context.collect files =
      if files.isDirectory (Path.join context.inside stderrName) then .error (.box (.host .isDirectory))
      else .ok ⟨.code 0, some (slotOf text), stderr⟩ := by
  obtain ⟨said, read⟩ := holds.stderr_read
  obtain ⟨node, there⟩ := Box.Account.node_of_load told
  have account := filePath_inside context accountName rfl
  have result := readOptional_inside context resultName rfl Run.resultLimit files
  have stderr := readOptional_inside context stderrName rfl Run.stderrLimit files
  rw [holds.slot_read] at result
  rw [read] at stderr
  refine ⟨said.getD [], ?_⟩
  simp only [collect, account, there, told, clean, result, stderr, Except.mapError, Box.Account.inBox_ok, bind,
    Except.bind]
  cases files.isDirectory (Path.join context.inside stderrName) <;> rfl

theorem invoke_left (runs : RunsTo machine context files text left) : ∃ stderr,
    (context.invoke machine files).1 = .answered
      (if left.isDirectory (Path.join context.inside stderrName) then .error (.box (.host .isDirectory))
      else .ok ⟨.code 0, some (slotOf text), stderr⟩) := by
  obtain ⟨slot, effect, prepared, started, ends, rfl⟩ := runs.ended
  obtain ⟨account, told, clean⟩ := runs.clean
  have polled := poll_of_running (start_running started) ends
  obtain ⟨stderr, collected⟩ :=
    collect_left { context with slot := { slot with running := none } } told clean runs.holds
  refine ⟨stderr, ?_⟩
  rw [invoke, if_neg (by simp [runs.loaded]), started]
  simp only [await, polled, collected]
  rfl

end Boxed

section Examples

/-- A machine whose programs leave these files, say something else and exit cleanly. -/
def leaving (left : Tree) : Host.Machine where
  search := []
  program? _ := some fun _ _ => { files := left, out := [], err := Utf8.ofString "warning", ending := .exit 0 }

def loadedContext : Directory :=
  { id := 0, path := "/tmp/a", slot := .empty, loaded := true, destroyed := false, counted := true }

def loadedFiles : Tree :=
  ⟨[(["tmp"], .directory), (["tmp", "a"], .directory), (["tmp", "a", "program"], .file [1] Files.programMode)], []⟩

/-- The files after the program has run, with what stands in the place of what it said. -/
def leftFiles (said : Files.Node) : Tree :=
  ⟨(["tmp", "a", "result.txt"], .file (Utf8.ofString "42") Files.fileMode) :: (["tmp", "a", "stderr.txt"], said) ::
    loadedFiles.entries, []⟩

theorem leaving_runs (said : Files.Node) :
    Directory.RunsTo (leaving (leftFiles said)) loadedContext loadedFiles "42"
      (keepSaid (leftFiles said) "/tmp/a/stderr.txt" (Utf8.ofString "warning")) where
  loaded := rfl
  ended := by
    refine ⟨⟨some (.exit 0), false⟩, ⟨leftFiles said, [], Utf8.ofString "warning", .exit 0⟩,
      ⟨(["tmp", "a", "stderr.txt"], .file [] Files.fileMode) :: loadedFiles.entries, []⟩, ?_, ?_, ?_, ?_⟩
    · rfl
    · rfl
    · exact ⟨Files.fileMode, rfl⟩
    · rfl

def saidFile : Files.Node :=
  .file (Utf8.ofString "warning") Files.fileMode

def loadedBox : Boxed :=
  { box := { id := 0, path := "/boxes/0", keeper := "/bin/isolate", initialized := true, cgroup := false }
    wallTime := .ofNat 1, mounts := [], slot := .empty, loaded := true, destroyed := false
    lease := some 0, counted := true }

def boxFiles : Tree :=
  ⟨[(["boxes"], .directory), (["boxes", "0"], .directory), (["boxes", "0", "box"], .directory), (["bin"], .directory),
    (["bin", "isolate"], .file [1] Files.programMode)], []⟩

/-- The files after the keeper has run. -/
def leftBox (said : Files.Node) : Tree :=
  ⟨(["boxes", "0", "box", "result.txt"], .file (Utf8.ofString "42") Files.fileMode) ::
    (["boxes", "0", "box", "stderr.txt"], said) ::
    (["boxes", "0", "box", "meta.txt"], .file (Utf8.ofString "time:1") Files.fileMode) :: boxFiles.entries, []⟩

theorem leaving_runs_boxed (said : Files.Node) :
    Boxed.RunsTo (leaving (leftBox said)) loadedBox boxFiles "42"
      (keepSaid (leftBox said) "/boxes/0/isolate.log" (Utf8.ofString "warning")) where
  loaded := rfl
  ended := by
    refine ⟨⟨some (.exit 0), false⟩, ⟨leftBox said, [], Utf8.ofString "warning", .exit 0⟩,
      ⟨(["boxes", "0", "isolate.log"], .file [] Files.fileMode) :: boxFiles.entries, []⟩, ?_, nofun, ?_⟩
    · rfl
    · rfl
  clean := by
    have found : (keepSaid (leftBox said) "/boxes/0/isolate.log" (Utf8.ofString "warning")).node
        "/boxes/0/box/meta.txt" = .ok (.file (Utf8.ofString "time:1") Files.fileMode) := rfl
    exact ⟨⟨[("time".toList, ['1'])]⟩, Box.Account.load_file found rfl, rfl⟩
  holds := ⟨Files.fileMode, rfl⟩

end Examples
end Context
end SnippetRunner

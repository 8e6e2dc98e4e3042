import SnippetRunner.Proofs.FileChanges
import SnippetRunner.Proofs.Redaction
import SnippetRunner.Proofs.Requests.Leftovers

/-!
What a build comes to, and what it leaves. Its directory is made where nothing was. As long as all that is done to
the files is done in it, its path leads to it; so it is taken away with all that is in it, and every other place
has what it had. What the build answers is read off the ending of the compiler and, if that was clean, off the
file that it left.
-/

namespace SnippetRunner

namespace Files.Tree

section Inside
variable {tree before after : Tree} {place start found : Place} {names : List String} {root front path name : String}

/-- All that differs between two trees is in one directory. -/
structure Inside (place : Place) (before after : Tree) : Prop where
  here : before.here = after.here
  there : after.at? place = some .directory
  outside : ∀ other, ¬place <+: other → after.at? other = before.at? other

-- From below a place where nothing is, no step leads out.
theorem walk_below (free : tree.at? place = none) (below : place <+: start)
    (walked : tree.walk start names = .ok found) : place <+: found := by
  induction names generalizing start with
  | nil =>
      cases walked
      exact below
  | cons name rest ih =>
      obtain ⟨stands, next, moves, walked⟩ := walk_step_iff.mp walked
      refine ih ?_ walked
      cases moves with
      | stay => exact below
      | up =>
          obtain ⟨last, rfl⟩ := below
          have deeper : last ≠ [] := by
            rintro rfl
            rw [List.append_nil, free] at stands
            cases stands
          rw [List.dropLast_append_of_ne_nil deeper]
          exact List.prefix_append ..
      | down => exact below.trans (List.prefix_append ..)

/-- What is done where nothing was does not change the way to another directory. -/
theorem walk_outside (free : before.at? place = none)
    (outside : ∀ other, ¬place <+: other → after.at? other = before.at? other) (apart : ¬place <+: start)
    (walked : before.walk start names = .ok found) (there : before.at? found = some .directory) :
    after.walk start names = .ok found := by
  induction names generalizing start with
  | nil => exact walked
  | cons name rest ih =>
      obtain ⟨stands, next, moves, walked⟩ := walk_step_iff.mp walked
      refine walk_step_iff.mpr ⟨(outside start apart).trans stands, next, moves, ih ?_ walked⟩
      intro below
      cases moves with
      | stay => exact apart below
      | up => exact apart (below.trans (List.dropLast_prefix start))
      | down =>
          rcases List.prefix_concat_iff.mp below with same | below
          · have directory := walk_start walked there
            rw [← same, free] at directory
            cases directory
          · exact apart below

/-- A temporary directory is made where nothing was, and its path leads to it as long as all is done in it. -/
theorem temporary_inside (single : Path.separator ∉ front.toList)
    (made : before.makeTemporary root front = .ok (path, after)) : ∃ place, before.at? place = none ∧
      Inside place before after ∧ ∀ later, Inside place before later → later.resolve path = .ok place := by
  obtain ⟨rfl, found⟩ := makeTemporary_ok made
  obtain ⟨top, name, slot, free, rfl⟩ := makeDirectory_fresh found
  obtain ⟨number, path_eq⟩ := isTemporary_path before root front
  obtain ⟨names, split, _, _, _, _, fits⟩ := slot_named slot
  rw [path_eq] at slot split ⊢
  have single' := temporaryName_single single number
  have down := temporaryName_down front number
  obtain ⟨walked, stands, same⟩ := slot_temporary single' down slot
  cases same
  have apart : ¬top ++ [temporaryName front number] <+: top := by
    intro below
    have shorter := below.length_le
    rw [List.length_append, List.length_singleton] at shorter
    omega
  refine ⟨top ++ [temporaryName front number], free, ⟨rfl, ?_, fun other outside => ?_⟩, fun later inside => ?_⟩
  · exact at_put_here before top _ .directory
  · exact at_put_other before .directory fun same => outside (same ▸ List.prefix_rfl)
  · have started : ¬top ++ [temporaryName front number] <+: before.start root :=
      fun below => apart (walk_below free below walked)
    have walked' := walk_outside free inside.outside started walked stands
    rw [start, inside.here] at walked'
    exact (resolve_down single' down _).mpr
      ⟨⟨names, split⟩, fits, top, walked', (inside.outside top apart).trans stands, rfl⟩

theorem Inside.write {content : Bytes} (inside : Inside place before tree) (leads : tree.resolve path = .ok place)
    (unended : Path.endsInSeparator path = false) (entry : IsEntry name)
    (written : tree.write (Path.join path name) content = .ok after) : Inside place before after := by
  obtain ⟨_, top, last, mode, slot, _, rfl⟩ := write_ok written
  obtain ⟨walked, _, same⟩ := slot_temporary entry.single entry.toIsDown slot
  cases same
  obtain ⟨split, leads⟩ := resolve_iff.mp leads
  have nonempty := (pieces_ok split).1
  rw [Path.above, if_neg (by simpa using nonempty), if_neg (by simp [unended])] at walked
  cases leads.symm.trans walked
  refine ⟨inside.here, ?_, fun other outside => ?_⟩
  · rw [at_put_other _ _ (by simp)]
    exact inside.there
  · have apart : other ≠ place ++ [name] := by
      rintro rfl
      exact outside (List.prefix_append ..)
    rw [at_put_other _ _ apart]
    exact inside.outside other outside

/-- A directory that was made is taken away with all that was done in it. -/
theorem Inside.pruned (inside : Inside place before after) (free : before.at? place = none) (other : Place) :
    (after.prune place).at? other = if place.isPrefixOf other then none else before.at? other := by
  rw [at_prune]
  split
  · next root =>
      have apart : ¬place.isPrefixOf other = true := fun below => by
        rw [List.isEmpty_iff.mp root, List.isPrefixOf_iff_prefix, List.prefix_nil] at below
        rw [below] at free
        cases free
      rw [if_neg apart, at?, if_pos root]
  · split
    · rfl
    · next apart => exact inside.outside other fun below => apart (List.isPrefixOf_iff_prefix.mpr below)

end Inside
end Files.Tree

namespace Compile
open Files (Tree Place Path.join Path.endsInSeparator)
open Files.Tree (Inside)
open Run (Exit Exit.ofEnding?)

theorem sourceName_entry : Files.IsEntry sourceName := by
  decide

theorem outputName_entry : Files.IsEntry outputName := by
  decide

section Judging
variable {settings : CompilerSettings} {program : Program} {output : String} {effect : Host.Effect}

/-- What a build answers of a compiler that was started, by how it ended and what it left. -/
structure Judged (settings : CompilerSettings) (program : Program) (output : String) (effect : Host.Effect)
    (answer : Except Fault Bytes) : Prop where
  image : ∀ image, answer = .ok image ↔ Exit.ofEnding? effect.ending = some (.code 0) ∧ image ≠ [] ∧
    ∃ mode, effect.files.node output = .ok (.file image mode)
  empty : answer = .error .emitEmpty ↔ Exit.ofEnding? effect.ending = some (.code 0) ∧
    (effect.files.node output = .error .missing ∨ ∃ mode, effect.files.node output = .ok (.file [] mode))
  unreadable : ∀ cause, answer = .error (.toolchain cause) ↔ Exit.ofEnding? effect.ending = some (.code 0) ∧
    (effect.files.node output = .ok .directory ∧ cause = .isDirectory ∨
      effect.files.node output = .error cause ∧ cause ≠ .missing)
  refused : ∀ reports, answer = .error (.diagnostics reports) ↔
    (∃ exit, Exit.ofEnding? effect.ending = some exit ∧ exit ≠ .code 0) ∧
      reports = diagnostics (Utf8.readLossy effect.err) program
  late : ∀ limit, answer = .error (.timeout limit) ↔ effect.ending = .never ∧ limit = settings.timeout

theorem ofEnding_none {ending : Host.Ending} : Exit.ofEnding? ending = none ↔ ending = .never := by
  cases ending <;> simp [Exit.ofEnding?]

/-- What is collected of a compiler that ended cleanly. -/
theorem collect_cases (files : Tree) (output : String) :
    (∃ fault, files.node output = .error fault ∧
        collect files output = .error (if fault = .missing then .emitEmpty else .toolchain fault)) ∨
      (files.node output = .ok .directory ∧ collect files output = .error (.toolchain .isDirectory)) ∨
      ∃ image mode, files.node output = .ok (.file image mode) ∧
        collect files output = if image = [] then .error .emitEmpty else .ok image := by
  rw [collect, Tree.read]
  cases files.node output with
  | error fault =>
      refine .inl ⟨fault, rfl, ?_⟩
      show (if fault = .missing then _ else _) = _
      split <;> rfl
  | ok node =>
      cases node with
      | directory => exact .inr (.inl ⟨rfl, rfl⟩)
      | file image mode =>
          refine .inr (.inr ⟨image, mode, rfl, ?_⟩)
          cases image <;> rfl

theorem collect_judged (settings : CompilerSettings) (program : Program) (output : String)
    (clean : Exit.ofEnding? effect.ending = some (.code 0)) :
    Judged settings program output effect (collect effect.files output) := by
  have ends : effect.ending ≠ .never := fun never => by simp [ofEnding_none.mpr never] at clean
  rcases collect_cases effect.files output with
    ⟨fault, found, same⟩ | ⟨found, same⟩ | ⟨image, mode, found, same⟩ <;> rw [same]
  · by_cases missing : fault = .missing
    · constructor <;> simp [clean, ends, found, missing, eq_comm]
    · constructor <;> simp [clean, ends, found, missing]
  · constructor <;> simp [clean, ends, found, eq_comm]
  · by_cases none : image = []
    · constructor <;> simp [clean, ends, found, none, eq_comm]
    · constructor <;> simp [clean, ends, found, none]

theorem judge_judged (settings : CompilerSettings) (program : Program) (output : String) (effect : Host.Effect) :
    Judged settings program output effect (judge settings program output effect) := by
  rw [judge]
  cases ended : Exit.ofEnding? effect.ending with
  | none =>
      have never := ofEnding_none.mp ended
      constructor <;> simp [never, Exit.ofEnding?, eq_comm]
  | some exit =>
      dsimp only
      by_cases clean : exit = .code 0
      · rw [clean] at ended ⊢
        exact collect_judged settings program output ended
      · have ends : effect.ending ≠ .never := fun never => by simp [ofEnding_none.mpr never] at ended
        have unclean : exit.isClean = false := by simpa [Exit.isClean] using clean
        constructor <;> simp [ended, ends, clean, unclean, eq_comm]

end Judging

section Building
variable {machine : Host.Machine} {settings : CompilerSettings} {program : Program} {files : Tree}

/-- Where the directories of builds are made. -/
def scratch (settings : CompilerSettings) : String :=
  settings.scratchDir.getD defaultRoot

/-- How the compiler is started in a directory. -/
def launch (settings : CompilerSettings) (directory : String) : Host.Launch :=
  { binary := settings.binary
    args := arguments settings (Path.join directory outputName) (Path.join directory sourceName)
    directory := some directory }

/-- What the compiler does once the program is written to a directory, or what keeps it from starting. -/
def attempt (machine : Host.Machine) (settings : CompilerSettings) (program : Program) (directory : String)
    (files : Tree) : Except Host.Fault Host.Effect := do
  let written ← files.write (Path.join directory sourceName) (Utf8.ofString program.source)
  machine.run written (launch settings directory)

theorem compile_unmade {cause : Host.Fault}
    (failed : files.makeTemporary (scratch settings) namePrefix = .error cause) :
    compile machine settings program files = (.error (.toolchain cause), files) := by
  unfold scratch at failed
  unfold compile
  rw [failed]

variable {directory : String} {made left : Tree} {place : Place}

theorem compile_made (opened : files.makeTemporary (scratch settings) namePrefix = .ok (directory, made)) :
    compile machine settings program files =
      ((runCompiler machine settings program directory made).1,
        sweep (runCompiler machine settings program directory made).2 directory) := by
  unfold scratch at opened
  unfold compile
  rw [opened]

theorem runCompiler_eq (machine : Host.Machine) (settings : CompilerSettings) (program : Program)
    (directory : String) (made : Tree) : runCompiler machine settings program directory made =
      match made.write (Path.join directory sourceName) (Utf8.ofString program.source) with
      | .error cause => (.error (.toolchain cause), made)
      | .ok written =>
          match machine.run written (launch settings directory) with
          | .error cause => (.error (.toolchain cause), written)
          | .ok effect => (judge settings program (Path.join directory outputName) effect, effect.files) :=
  rfl

/-- A compiler that was not started leaves the files as they were, or as they were written for it. -/
theorem runCompiler_cases (machine : Host.Machine) (settings : CompilerSettings) (program : Program)
    (directory : String) (made : Tree) :
    (∃ cause left, attempt machine settings program directory made = .error cause ∧
        (left = made ∨ made.write (Path.join directory sourceName) (Utf8.ofString program.source) = .ok left) ∧
        runCompiler machine settings program directory made = (.error (.toolchain cause), left)) ∨
      ∃ effect, attempt machine settings program directory made = .ok effect ∧
        runCompiler machine settings program directory made =
          (judge settings program (Path.join directory outputName) effect, effect.files) := by
  rw [runCompiler_eq]
  unfold attempt
  cases made.write (Path.join directory sourceName) (Utf8.ofString program.source) with
  | error cause => exact .inl ⟨cause, made, rfl, .inl rfl, rfl⟩
  | ok written =>
      dsimp only [bind, Except.bind]
      cases machine.run written (launch settings directory) with
      | error cause => exact .inl ⟨cause, written, rfl, .inr rfl, rfl⟩
      | ok effect => exact .inr ⟨effect, rfl, rfl⟩

/-- The directory of a build is taken away from files that have changed in it alone. -/
theorem sweep_inside (free : files.at? place = none) (inside : Inside place files left)
    (leads : left.resolve directory = .ok place) : (sweep left directory).here = files.here ∧
      ∀ other, (sweep left directory).at? other = if place.isPrefixOf other then none else files.at? other := by
  have removed : sweep left directory = left.prune place := by
    rw [sweep, Tree.removeDirectory_iff.mpr ⟨place, leads, inside.there, rfl⟩]
  rw [removed]
  exact ⟨inside.here.symm, inside.pruned free⟩

theorem directory_unended (opened : files.makeTemporary (scratch settings) namePrefix = .ok (directory, made)) :
    Path.endsInSeparator directory = false := by
  obtain ⟨⟨number, rfl⟩, _⟩ := Tree.made_temporary namePrefix_single opened
  exact Files.Path.join_unended _ _ (Tree.temporaryName_single namePrefix_single number)
    (Tree.temporaryName_down namePrefix number).named

/-- A build without a directory answers why and changes nothing. Else, when the compiler could not be started, it
answers why; when it could, the answer is judged by how the compiler ended and by the file that it left. In the end
the directory is gone, and all else is as it was if the compiler kept to it. -/
theorem compile_judged_and_swept (machine : Host.Machine) (settings : CompilerSettings) (program : Program)
    (files : Tree) :
    match files.makeTemporary (scratch settings) namePrefix with
    | .error cause => compile machine settings program files = (.error (.toolchain cause), files)
    | .ok (directory, made) =>
        let attempted := attempt machine settings program directory made
        let (answer, after) := compile machine settings program files
        (∀ cause, attempted = .error cause → answer = .error (.toolchain cause)) ∧
          (∀ effect, attempted = .ok effect →
            Judged settings program (Path.join directory outputName) effect answer) ∧
          (∀ reports, answer = .error (.diagnostics reports) → reports ≠ []) ∧
          after.isDirectory directory = false ∧
          ∃ place, made.resolve directory = .ok place ∧
            ((∀ effect, attempted = .ok effect → Inside place files effect.files) → after.here = files.here ∧
              ∀ other, after.at? other = if place.isPrefixOf other then none else files.at? other) := by
  cases opened : files.makeTemporary (scratch settings) namePrefix with
  | error cause => exact compile_unmade opened
  | ok slot =>
      obtain ⟨directory, made⟩ := slot
      dsimp only
      rw [compile_made opened]
      have temporary := (Tree.made_temporary namePrefix_single opened).1
      obtain ⟨place, free, inside, leads⟩ := Tree.temporary_inside namePrefix_single opened
      have gone (left : Tree) : (sweep left directory).isDirectory directory = false := sweep_gone temporary
      rcases runCompiler_cases machine settings program directory made with
        ⟨cause, left, attempted, untouched, ended⟩ | ⟨effect, attempted, ended⟩
      · rw [attempted, ended]
        have kept : Inside place files left := by
          rcases untouched with rfl | wrote
          · exact inside
          · exact inside.write (leads made inside) (directory_unended opened) sourceName_entry wrote
        refine ⟨?_, nofun, nofun, gone left, place, leads made inside, fun _ => ?_⟩
        · rintro _ ⟨⟩
          rfl
        · exact sweep_inside free kept (leads left kept)
      · rw [attempted, ended]
        have judged := judge_judged settings program (Path.join directory outputName) effect
        refine ⟨nofun, ?_, fun reports refused => ?_, gone effect.files, place, leads made inside, fun stays => ?_⟩
        · rintro _ ⟨⟩
          exact judged
        · rw [((judged.refused reports).mp refused).2]
          exact diagnostics_ne_nil _ program
        · have kept := stays effect rfl
          exact sweep_inside free kept (leads effect.files kept)

/-- A machine on which every program leaves an executable of three octets where it starts. -/
def quickMachine : Host.Machine where
  search := ["/bin"]
  program? _ := some fun launch files =>
    let output := Path.join (launch.directory.getD "/") outputName
    { files := (files.write output [1, 2, 3]).toOption.getD files, out := [], err := [], ending := .exit 0 }

def quickFiles : Tree :=
  ⟨[(["bin"], .directory), (["bin", "rustc"], .file [1] 0o755), (["tmp"], .directory)], []⟩

theorem run_program {launch : Host.Launch} {effect : Host.Effect} (ran : machine.run files launch = .ok effect) :
    ∃ content program, machine.meaning files content = .ok program ∧ effect = program launch files := by
  unfold Host.Machine.run at ran
  dsimp only [bind, Except.bind] at ran
  repeat' split at ran
  -- A program was started where it was told to, or where the caller is; in all other cases it was not.
  all_goals cases ran
  all_goals
    next meant _ _ => exact ⟨_, _, meant, rfl⟩

/-- What is written to where the compiler starts is in its directory. -/
theorem quick_inside {effect : Host.Effect}
    (opened : files.makeTemporary (scratch settings) namePrefix = .ok (directory, made))
    (inside : Inside place files made)
    (leads : ∀ later, Inside place files later → later.resolve directory = .ok place)
    (attempted : attempt quickMachine settings program directory made = .ok effect) :
    Inside place files effect.files := by
  have unended := directory_unended opened
  unfold attempt at attempted
  cases source : made.write (Path.join directory sourceName) (Utf8.ofString program.source) with
  | error cause =>
      rw [source] at attempted
      cases attempted
  | ok written =>
      rw [source] at attempted
      have kept : Inside place files written := inside.write (leads made inside) unended sourceName_entry source
      obtain ⟨content, run, meant, rfl⟩ := run_program attempted
      cases meant
      show Inside place files ((written.write (Path.join directory outputName) [1, 2, 3]).toOption.getD written)
      cases output : written.write (Path.join directory outputName) [1, 2, 3] with
      | error cause => exact kept
      | ok after => exact kept.write (leads written kept) unended outputName_entry output

theorem quick_program_is_built :
    let (answer, after) := compile quickMachine .defaults ⟨"", 1, 0⟩ quickFiles
    answer = .ok [1, 2, 3] ∧ ∃ place, quickFiles.at? place = none ∧ ∀ other, after.at? other =
      if place.isPrefixOf other then none else quickFiles.at? other := by
  have left : (match quickFiles.makeTemporary (scratch .defaults) namePrefix with
      | .error _ => false
      | .ok (directory, made) =>
          match attempt quickMachine .defaults ⟨"", 1, 0⟩ directory made with
          | .error _ => false
          | .ok effect => decide (Exit.ofEnding? effect.ending = some (.code 0) ∧
              effect.files.node (Path.join directory outputName) = .ok (.file [1, 2, 3] Files.fileMode))) = true := by
    decide +kernel
  have judged := compile_judged_and_swept quickMachine .defaults ⟨"", 1, 0⟩ quickFiles
  rcases opened : quickFiles.makeTemporary (scratch .defaults) namePrefix with _ | ⟨directory, made⟩
  · rw [opened] at left
    cases left
  rw [opened] at left judged
  dsimp only at left judged
  cases attempted : attempt quickMachine .defaults ⟨"", 1, 0⟩ directory made with
  | error cause =>
      rw [attempted] at left
      cases left
  | ok effect =>
      rw [attempted] at left judged
      obtain ⟨clean, found⟩ := of_decide_eq_true left
      obtain ⟨place, free, inside, leads⟩ := Tree.temporary_inside namePrefix_single opened
      obtain ⟨_, ended, _, _, there, leads', swept⟩ := judged
      cases leads'.symm.trans (leads made inside)
      refine ⟨((ended effect rfl).image _).mpr ⟨clean, by decide, _, found⟩, place, free, (swept ?_).2⟩
      rintro _ ⟨⟩
      exact quick_inside opened inside leads attempted

end Building
end Compile
end SnippetRunner

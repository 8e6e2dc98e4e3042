import SnippetRunner.Proofs.FileChanges
import SnippetRunner.Proofs.ReadyGroup

/-!
What it changes to make the group of boxes ready. Its steps are tasks: each has directories it may make and a file it
may write, each has something that stands once it is done, and none undoes what another has done. So however many of
them were taken, nothing but these places has changed; and once all are done, doing all of them again changes
nothing.
-/

namespace SnippetRunner.Cgroup
open Files (Tree Place Path.join IsEntry)
open Files.Tree (Changes Same)

section Tasks

/-- What a step is to achieve. -/
inductive Task where
  | ensure (path : String)
  | write (base name text : String) (entry : IsEntry name)

namespace Task
variable {task other : Task} {files between after : Tree} {answer : Except Host.Fault Unit}
  {made written : Place → Prop}

def step : Task → Step
  | ensure path => Cgroup.ensure path
  | write base name text _ => Cgroup.write (Path.join base name) text

/-- The task may have made a directory at a place. -/
def Makes (after : Tree) (place : Place) : Task → Prop
  | ensure path => after.LeadsAbove path place
  | write .. => False

/-- The task may have written a file at a place. -/
def Writes (after : Tree) (place : Place) : Task → Prop
  | ensure _ => False
  | write base name _ _ => after.Leads (Path.join base name) place

/-- What the task is for stands. -/
def Done (files : Tree) : Task → Prop
  | ensure path => files.Stands (Files.Path.isAbsolute path) (Files.Path.names path)
  | write base name text _ => files.Holds (Path.join base name) (Utf8.ofString text)

/-- The tasks do not write different texts to entries of one name. -/
def Agrees : Task → Task → Prop
  | ensure _, _ => True
  | write .., ensure _ => True
  | write _ name text _, write _ name' text' _ => name = name' → text = text'

theorem write_cases {path text : String} (ended : Cgroup.write path text files = (answer, after)) :
    files.write path (Utf8.ofString text) = .ok after ∨ after = files := by
  rw [Cgroup.write] at ended
  split at ended
  · next written found =>
      cases ended
      exact .inl found
  · cases ended
    exact .inr rfl

theorem changes (ended : task.step files = (answer, after)) :
    Changes (task.Makes after ·) (task.Writes after ·) files after := by
  cases task with
  | ensure path => exact Tree.makeDirectories_changes ended
  | write base name text entry =>
      rcases write_cases ended with written | rfl
      · exact Tree.write_changes written
      · exact .refl _

theorem done (ended : task.step files = (.ok (), after)) : task.Done after := by
  cases task with
  | ensure path => exact Tree.makeDirectories_stands ended
  | write base name text entry => exact Tree.node_written (write_step ended)

/-- What was done stays done. -/
theorem Done.kept (done : task.Done files) (agrees : task.Agrees other) (ended : other.step files = (answer, after)) :
    task.Done after := by
  have changes := other.changes ended
  cases task with
  | ensure path => exact Tree.Stands.within changes.within changes.here done
  | write base name text entry =>
      cases other with
      | ensure path => exact Tree.Holds.within_changes done changes
      | write base' name' text' entry' =>
          rcases write_cases ended with written | rfl
          · exact Tree.Holds.kept entry entry' done written fun same => congrArg _ (agrees same)
          · exact done

/-- A step that was done can be taken again, and nothing changes. -/
theorem Done.again (done : task.Done files) : ∃ after, task.step files = (.ok (), after) ∧ Same files after := by
  cases task with
  | ensure path => exact ⟨files, Tree.makeDirectories_again done, .refl _⟩
  | write base name text entry =>
      obtain ⟨after, written, same⟩ := Tree.Holds.write_again entry done
      refine ⟨after, ?_, same⟩
      rw [step, Cgroup.write, written]

theorem Done.of_same (done : task.Done files) (same : Same files after) : task.Done after := by
  cases task with
  | ensure path => exact Tree.Stands.within same.within same.here done
  | write base name text entry => exact Tree.Holds.within_changes done same

theorem Makes.within {place : Place} (changes : Changes made written between after) (makes : task.Makes between place) :
    task.Makes after place := by
  cases task with
  | ensure path => exact Tree.Fronts.within changes.within changes.here makes
  | write => exact makes

theorem Writes.within {place : Place} (changes : Changes made written between after)
    (writes : task.Writes between place) : task.Writes after place := by
  cases task with
  | ensure path => exact writes
  | write base name text entry => exact Tree.Leads.within changes.within changes.here writes

end Task

section Lists
variable {tasks : List Task} {files after : Tree} {answer : Except Host.Fault Unit}

/-- Of some steps the first fails, or it is taken and then the others. -/
theorem steps_cons_cases {step : Step} {rest : List Step} (ended : steps (step :: rest) files = (answer, after)) :
    step files = (answer, after) ∧ answer ≠ .ok () ∨
      ∃ between, step files = (.ok (), between) ∧ steps rest between = (answer, after) := by
  rw [steps] at ended
  rcases first : step files with ⟨fault | ⟨⟩, between⟩
  · rw [first] at ended
    cases ended
    refine .inl ⟨rfl, fun same => ?_⟩
    cases same
  · rw [first] at ended
    exact .inr ⟨between, rfl, ended⟩

theorem steps_changes (ended : steps (tasks.map Task.step) files = (answer, after)) :
    Changes (fun place => ∃ task ∈ tasks, task.Makes after place) (fun place => ∃ task ∈ tasks, task.Writes after place)
      files after := by
  induction tasks generalizing files with
  | nil =>
      cases ended
      exact .refl _
  | cons task rest ih =>
      rcases steps_cons_cases ended with ⟨step, _⟩ | ⟨between, step, others⟩
      · refine (task.changes step).mono ?_ ?_
        · intro place makes _
          exact ⟨task, .head _, makes⟩
        · intro place writes
          exact ⟨task, .head _, writes⟩
      · have later := ih others
        refine .trans ((task.changes step).mono ?_ ?_) (later.mono ?_ ?_)
        · intro place makes _
          exact ⟨task, .head _, makes.within later⟩
        · intro place writes
          exact ⟨task, .head _, writes.within later⟩
        · rintro place ⟨other, member, makes⟩ _
          exact ⟨other, .tail _ member, makes⟩
        · rintro place ⟨other, member, writes⟩
          exact ⟨other, .tail _ member, writes⟩

theorem steps_kept {task : Task} (done : task.Done files) (agrees : ∀ other ∈ tasks, task.Agrees other)
    (ended : steps (tasks.map Task.step) files = (answer, after)) : task.Done after := by
  induction tasks generalizing files with
  | nil =>
      cases ended
      exact done
  | cons other rest ih =>
      rcases steps_cons_cases ended with ⟨step, _⟩ | ⟨between, step, others⟩
      · exact done.kept (agrees other (.head _)) step
      · have next := done.kept (agrees other (.head _)) step
        exact ih next (fun later member => agrees later (.tail _ member)) others

/-- When all steps were taken, what each is for stands at the end. -/
theorem steps_done (agree : tasks.Pairwise Task.Agrees) (ended : steps (tasks.map Task.step) files = (.ok (), after)) :
    ∀ task ∈ tasks, task.Done after := by
  induction tasks generalizing files with
  | nil => exact nofun
  | cons first rest ih =>
      obtain ⟨agrees, among⟩ := List.pairwise_cons.mp agree
      rcases steps_cons_cases ended with ⟨_, failed⟩ | ⟨between, step, others⟩
      · exact absurd rfl failed
      · rintro task (_ | ⟨_, member⟩)
        · exact steps_kept (first.done step) agrees others
        · exact ih among others task member

theorem steps_again (done : ∀ task ∈ tasks, task.Done files) :
    ∃ after, steps (tasks.map Task.step) files = (.ok (), after) ∧ Same files after := by
  induction tasks generalizing files with
  | nil => exact ⟨files, rfl, .refl _⟩
  | cons task rest ih =>
      obtain ⟨between, step, same⟩ := (done task (.head _)).again
      obtain ⟨after, others, further⟩ := ih fun other member => (done other (.tail _ member)).of_same same
      refine ⟨after, ?_, same.trans further⟩
      rw [List.map_cons, steps, step]
      exact others

end Lists

end Tasks

theorem leafName_entry : IsEntry leafName := by
  decide

theorem processesName_entry : IsEntry processesName := by
  decide

theorem controllersName_entry : IsEntry controllersName := by
  decide

theorem subtreeName_entry : IsEntry subtreeName := by
  decide

section Preparing
variable {mount root : String} {process : Nat} {files after : Tree}

/-- What is to be achieved when the controllers are handed down. -/
def tasks (mount root : String) (process : Nat) : List Task :=
  let leaf := Path.join mount leafName
  [ .ensure leaf, .write leaf processesName s!"{process}" processesName_entry,
    .write mount subtreeName enabling subtreeName_entry, .ensure root,
    .write root subtreeName enabling subtreeName_entry ]

theorem delegation_eq (mount root : String) (process : Nat) :
    delegation mount root process = steps ((tasks mount root process).map Task.step) :=
  rfl

theorem tasks_agree (mount root : String) (process : Nat) : (tasks mount root process).Pairwise Task.Agrees := by
  have apart : processesName ≠ subtreeName := by decide
  simp [tasks, Task.Agrees, apart]

/-- There are control groups for memory. -/
def Available (mount : String) (files : Tree) : Prop :=
  ∃ text, files.readText (Path.join mount controllersName) = .ok text ∧ lists text "memory" = true

/-- The group hands down the controller for memory. -/
def Listed (root : String) (files : Tree) : Prop :=
  ∃ text, files.readText (Path.join root subtreeName) = .ok text ∧ lists text "memory" = true

theorem prepareUnder_unavailable (unavailable : ¬Available mount files) :
    prepareUnder mount root process files = (.ok false, files) := by
  rw [prepareUnder]
  cases read : files.readText (Path.join mount controllersName) with
  | error fault => rfl
  | ok text =>
      have unlisted : ¬lists text "memory" = true := fun listed => unavailable ⟨text, read, listed⟩
      exact if_pos (by simp [unlisted])

theorem prepareUnder_listed (process : Nat) (available : Available mount files) (listed : Listed root files) :
    prepareUnder mount root process files = (.ok true, files) := by
  obtain ⟨text, read, memory⟩ := available
  obtain ⟨handed, found, there⟩ := listed
  simp [prepareUnder, read, memory, found, there]

theorem prepareUnder_delegating (available : Available mount files) (unlisted : ¬Listed root files)
    {answer : Except Host.Fault Unit} (ended : delegation mount root process files = (answer, after)) :
    prepareUnder mount root process files = ((answer.map fun _ => true).mapError .host, after) := by
  obtain ⟨text, read, memory⟩ := available
  have blank : lists "" "memory" = false := by decide
  rw [prepareUnder, read, ended]
  simp only [memory, Bool.not_true, Bool.false_eq_true, if_false]
  cases handed : files.readText (Path.join root subtreeName) with
  | error fault =>
      simp only [blank, Bool.false_eq_true, if_false]
      cases answer <;> rfl
  | ok text =>
      have other : ¬lists text "memory" = true := fun listed => unlisted ⟨text, handed, listed⟩
      simp only [if_neg other]
      cases answer <;> rfl

-- Where the list of controllers is read there are directories on the way to it, so only the leaf can be missing.
theorem leaf_of_made {made written : Place → Prop} {place : Place} (available : Available mount files)
    (changes : Changes made written files after) (above : after.LeadsAbove (Path.join mount leafName) place)
    (fresh : files.at? place = none) : after.Leads (Path.join mount leafName) place := by
  obtain ⟨text, read, _⟩ := available
  obtain ⟨node, found⟩ := Tree.node_of_readText read
  obtain ⟨_, resolved, _⟩ := Tree.node_iff.mp found
  obtain ⟨_, _, top, walked, there, _⟩ :=
    (Tree.resolve_down controllersName_entry.single controllersName_entry.toIsDown _).mp resolved
  obtain ⟨front, starts, leads⟩ := above
  have names := Files.Path.names_join mount leafName_entry.toIsDown leafName_entry.single
  rw [names, List.prefix_concat_iff] at starts
  rcases starts with whole | ⟨rest, shorter⟩
  · rw [Tree.Leads, names, ← whole]
    exact leads
  · have counted := Tree.walk_counted walked
    rw [← shorter] at counted
    obtain ⟨between, reached, directory⟩ := Tree.walk_front counted there
    rw [Files.Path.isAbsolute_join mount leafName leafName_entry.single, Tree.origin, ← changes.here] at leads
    cases (Tree.walk_within changes.within _ _ _ reached).symm.trans leads
    rw [directory] at fresh
    cases fresh

theorem available_kept (available : Available mount files) {answer : Except Host.Fault Unit}
    (ended : delegation mount root process files = (answer, after)) : Available mount after := by
  obtain ⟨text, read, memory⟩ := available
  rw [delegation_eq] at ended
  refine ⟨text, (steps_changes ended).readText_kept read ?_, memory⟩
  rintro place resolved ⟨task, member, writes⟩
  have last := Tree.leads_join_last controllersName_entry (Tree.leads_of_resolve resolved)
  have apart : controllersName ≠ processesName ∧ controllersName ≠ subtreeName := by decide
  simp only [tasks, List.mem_cons, List.not_mem_nil, or_false] at member
  rcases member with rfl | rfl | rfl | rfl | rfl
  · exact writes
  · exact apart.1 (Option.some.inj (last.symm.trans (Tree.leads_join_last processesName_entry writes)))
  · exact apart.2 (Option.some.inj (last.symm.trans (Tree.leads_join_last subtreeName_entry writes)))
  · exact writes
  · exact apart.2 (Option.some.inj (last.symm.trans (Tree.leads_join_last subtreeName_entry writes)))

theorem unlisted_delegated (ended : delegation mount root process files = (.ok (), after)) : ¬Listed root after := by
  rintro ⟨text, read, listed⟩
  cases (enabling_written ended).symm.trans read
  exact absurd listed (by decide)

theorem delegation_again (ended : delegation mount root process files = (.ok (), after)) :
    ∃ again, delegation mount root process after = (.ok (), again) ∧ Same after again := by
  rw [delegation_eq] at ended ⊢
  exact steps_again (steps_done (tasks_agree mount root process) ended)

theorem delegation_changes (available : Available mount files) {answer : Except Host.Fault Unit}
    (ended : delegation mount root process files = (answer, after)) :
    Changes (fun place => after.Leads (Path.join mount leafName) place ∨ after.LeadsAbove root place)
      (fun place => after.Leads (Path.join (Path.join mount leafName) processesName) place ∨
        after.Leads (Path.join mount subtreeName) place ∨ after.Leads (Path.join root subtreeName) place)
      files after := by
  rw [delegation_eq] at ended
  have changes := steps_changes ended
  refine changes.mono ?_ ?_
  · rintro place ⟨task, member, makes⟩ fresh
    simp only [tasks, List.mem_cons, List.not_mem_nil, or_false] at member
    rcases member with rfl | rfl | rfl | rfl | rfl
    · exact .inl (leaf_of_made available changes makes fresh)
    · exact makes.elim
    · exact makes.elim
    · exact .inr makes
    · exact makes.elim
  · rintro place ⟨task, member, writes⟩
    simp only [tasks, List.mem_cons, List.not_mem_nil, or_false] at member
    rcases member with rfl | rfl | rfl | rfl | rfl
    · exact writes.elim
    · exact .inl writes
    · exact .inr (.inl writes)
    · exact writes.elim
    · exact .inr (.inr writes)

/-- However it ends to make a group ready, nothing has changed but that the leaf of this process, or the group and
what is above it, may have been made, and the lists of the leaf's processes and of the controllers that the mount
and the group hand down may have been written. Nothing at all has when there are no control groups, or the group
was found ready. Once it is ready, making it ready again ends the same way and changes nothing. -/
theorem preparing_keeps_files (mount root : String) (process : Nat) (files : Tree) :
    let leaf := Path.join mount leafName
    let (answer, after) := prepareUnder mount root process files
    Changes (fun place => after.Leads leaf place ∨ after.LeadsAbove root place)
        (fun place => after.Leads (Path.join leaf processesName) place ∨
          after.Leads (Path.join mount subtreeName) place ∨ after.Leads (Path.join root subtreeName) place)
        files after ∧
      (answer = .ok false ∨ Listed root files → after = files) ∧
      (answer = .ok true →
        ∃ again, prepareUnder mount root process after = (.ok true, again) ∧ Same after again) := by
  dsimp only
  by_cases available : Available mount files
  · by_cases listed : Listed root files
    · have same := prepareUnder_listed process available listed
      rw [same]
      exact ⟨.refl _, fun _ => rfl, fun _ => ⟨files, same, .refl _⟩⟩
    · rcases ended : delegation mount root process files with ⟨cause | ⟨⟩, after⟩ <;>
        rw [prepareUnder_delegating available listed ended]
      · refine ⟨delegation_changes available ended, fun known => ?_, nofun⟩
        rcases known with answer | listed'
        · cases answer
        · exact absurd listed' listed
      · refine ⟨delegation_changes available ended, fun known => ?_, fun _ => ?_⟩
        · rcases known with answer | listed'
          · cases answer
          · exact absurd listed' listed
        · obtain ⟨again, repeated, same⟩ := delegation_again ended
          refine ⟨again, ?_, same⟩
          exact prepareUnder_delegating (available_kept available ended) (unlisted_delegated ended) repeated
  · rw [prepareUnder_unavailable available]
    exact ⟨.refl _, fun _ => rfl, nofun⟩

/-- Control groups for memory and processes, and no group for boxes. -/
def bareGroups : Tree :=
  ⟨[(["c"], .directory), (["c", controllersName], .file (Utf8.ofString "memory pids") 0o644)], []⟩

theorem bare_groups_prepared_twice :
    (prepareUnder "/c" "/c/boxes/isolate" 7 bareGroups).1 = .ok true ∧
      ∃ again, prepareUnder "/c" "/c/boxes/isolate" 7 (prepareUnder "/c" "/c/boxes/isolate" 7 bareGroups).2 =
          (.ok true, again) ∧
        Same (prepareUnder "/c" "/c/boxes/isolate" 7 bareGroups).2 again := by
  have ready : (prepareUnder "/c" "/c/boxes/isolate" 7 bareGroups).1 = .ok true := by decide +kernel
  obtain ⟨_, _, repeats⟩ := preparing_keeps_files "/c" "/c/boxes/isolate" 7 bareGroups
  exact ⟨ready, repeats ready⟩

end Preparing
end SnippetRunner.Cgroup

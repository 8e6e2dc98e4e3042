import SnippetRunner.Cgroup
import SnippetRunner.Proofs.WrittenFiles

/-!
The group that boxes are below, once it is said to be ready. When the controllers were handed down just now, it
enables all that a box needs. When it was found ready, only the controller for memory was looked for, and the
others are as they were.
-/

namespace SnippetRunner.Cgroup
open Files (Tree Path.join)

section Steps

theorem steps_append (front rest : List Step) (files : Tree) : steps (front ++ rest) files =
    match steps front files with
    | (.ok (), between) => steps rest between
    | failed => failed := by
  induction front generalizing files with
  | nil => rfl
  | cons step front ih =>
      rw [List.cons_append, steps, steps]
      rcases step files with ⟨_ | _, between⟩
      · rfl
      · exact ih between

theorem steps_single (step : Step) (files : Tree) : steps [step] files = step files := by
  rw [steps]
  rcases step files with ⟨_ | _, _⟩ <;> rfl

theorem write_step {path text : String} {files after : Tree} (done : write path text files = (.ok (), after)) :
    files.write path (Utf8.ofString text) = .ok after := by
  unfold write at done
  split at done
  · next written found =>
      cases done
      exact found
  · cases done

variable {mount root : String} {process : Nat} {files after : Tree}

/-- The last of the steps writes what the group enables. -/
theorem enabling_written (done : delegation mount root process files = (.ok (), after)) :
    after.readText (Path.join root subtreeName) = .ok enabling := by
  let leaf := Path.join mount leafName
  let front : List Step :=
    [ensure leaf, write (Path.join leaf processesName) s!"{process}", write (Path.join mount subtreeName) enabling,
      ensure root]
  have parts : delegation mount root process files =
      steps (front ++ [write (Path.join root subtreeName) enabling]) files := rfl
  rw [parts, steps_append] at done
  rcases before : steps front files with ⟨_ | _, between⟩
  · rw [before] at done
    cases done
  · rw [before] at done
    have last : steps [write (Path.join root subtreeName) enabling] between = (.ok (), after) := done
    rw [steps_single] at last
    exact Tree.readText_written (write_step last)

end Steps

section Preparing

/-- How it ends to make a group ready, and with which files. -/
inductive Prepared (mount root : String) (process : Nat) (files : Tree) : Except Box.Fault Bool × Tree → Prop where
  | unavailable (none : ∀ available, files.readText (Path.join mount controllersName) = .ok available →
      lists available "memory" = false) : Prepared mount root process files (.ok false, files)
  | found (text : String) (read : files.readText (Path.join root subtreeName) = .ok text)
      (listed : lists text "memory" = true) : Prepared mount root process files (.ok true, files)
  | delegated (after : Tree) (unlisted : ∀ text, files.readText (Path.join root subtreeName) = .ok text →
      lists text "memory" = false) (done : delegation mount root process files = (.ok (), after)) :
      Prepared mount root process files (.ok true, after)
  | failed (cause : Host.Fault) (after : Tree)
      (undone : delegation mount root process files = (.error cause, after)) :
      Prepared mount root process files (.error (.host cause), after)

theorem prepared (mount root : String) (process : Nat) (files : Tree) :
    Prepared mount root process files (prepareUnder mount root process files) := by
  unfold prepareUnder
  cases available : files.readText (Path.join mount controllersName) with
  | error fault => exact .unavailable fun text read => by cases available.symm.trans read
  | ok text =>
      dsimp only
      by_cases memory : lists text "memory"
      · rw [if_neg (by simp [memory])]
        cases delegated : files.readText (Path.join root subtreeName) with
        | error fault =>
            have blank : ¬lists "" "memory" = true := by decide
            dsimp only
            rw [if_neg blank]
            rcases done : delegation mount root process files with ⟨cause | ⟨⟩, after⟩
            · exact .failed cause after done
            · exact .delegated after (fun other read => by cases delegated.symm.trans read) done
        | ok handed =>
            dsimp only
            by_cases listed : lists handed "memory"
            · rw [if_pos listed]
              exact .found handed delegated listed
            · rw [if_neg listed]
              rcases done : delegation mount root process files with ⟨cause | ⟨⟩, after⟩
              · exact .failed cause after done
              · refine .delegated after (fun other read => ?_) done
                cases delegated.symm.trans read
                simpa using listed
      · rw [if_pos (by simp [memory])]
        refine .unavailable fun other read => ?_
        cases available.symm.trans read
        simpa using memory

/-- The text lists a controller, by its name or by its name after a plus sign. -/
def Enables (text controller : String) : Prop :=
  lists text controller = true ∨ lists text ("+" ++ controller) = true

instance (text controller : String) : Decidable (Enables text controller) :=
  inferInstanceAs (Decidable (_ ∨ _))

/-- The group said to be ready enables the controller for memory. It enables all controllers of boxes if and only
if it was not found with the one for memory and without the one for processes. -/
theorem ready_enables_iff (mount root : String) (process : Nat) (files after : Tree)
    (ready : prepareUnder mount root process files = (.ok true, after)) :
    ∃ text, after.readText (Path.join root subtreeName) = .ok text ∧ Enables text "memory" ∧
      ((∀ controller ∈ boxControllers, Enables text controller) ↔
        ∀ before, files.readText (Path.join root subtreeName) = .ok before → lists before "memory" = true →
          Enables before "pids") := by
  have ending := prepared mount root process files
  rw [ready] at ending
  cases ending with
  | found text read listed =>
      refine ⟨text, read, .inl listed, ?_, ?_⟩
      · intro all before same _
        cases read.symm.trans same
        exact all "pids" (.tail _ (.head _))
      · intro handed controller member
        rcases List.mem_cons.mp member with rfl | later
        · exact .inl listed
        · rw [List.mem_singleton.mp later]
          exact handed text read listed
  | delegated after unlisted done =>
      have all : ∀ controller ∈ boxControllers, Enables enabling controller := by decide +kernel
      refine ⟨enabling, enabling_written done, all "memory" (.head _), ?_, ?_⟩
      · intro _ before read listed
        rw [unlisted before read] at listed
        cases listed
      · intro _
        exact all

/-- Control groups for memory and processes at a place, and a group below for boxes that enables what a text has. -/
def groups (top : Files.Place) (enabled : String) : Tree :=
  let above := (List.range top.length).map fun length => (top.take (length + 1), .directory)
  let controllers := Utf8.ofString "memory pids"
  ⟨above ++ [(top ++ [controllersName], .file controllers 0o644), (top ++ ["isolate"], .directory),
    (top ++ ["isolate", subtreeName], .file (Utf8.ofString enabled) 0o644)], []⟩

theorem ready_group_enables_all :
    ∃ after, prepareUnder "/c" "/c/isolate" 1 (groups ["c"] "pids") = (.ok true, after) ∧
      ∃ text, after.readText "/c/isolate/cgroup.subtree_control" = .ok text ∧
        ∀ controller ∈ boxControllers, Enables text controller := by
  have ready : (prepareUnder "/c" "/c/isolate" 1 (groups ["c"] "pids")).1 = .ok true := by decide +kernel
  have handed : (groups ["c"] "pids").readText "/c/isolate/cgroup.subtree_control" = .ok "pids" := by decide +kernel
  have unlisted : lists "pids" "memory" = false := by decide +kernel
  have ended : prepareUnder "/c" "/c/isolate" 1 (groups ["c"] "pids") = (.ok true, _) := Prod.ext ready rfl
  obtain ⟨text, read, _, all⟩ := ready_enables_iff "/c" "/c/isolate" 1 (groups ["c"] "pids") _ ended
  refine ⟨_, ended, text, read, all.mpr fun before found listed => ?_⟩
  cases handed.symm.trans found
  rw [unlisted] at listed
  cases listed

theorem ready_group_without_pids :
    (prepare "/sys/fs/cgroup/isolate" 1 (groups ["sys", "fs", "cgroup"] "memory")).1 = .ok true ∧
      (prepare "/sys/fs/cgroup/isolate" 1 (groups ["sys", "fs", "cgroup"] "memory")).2.readText
        "/sys/fs/cgroup/isolate/cgroup.subtree_control" = .ok "memory" ∧
      ¬ ∀ controller ∈ boxControllers, Enables "memory" controller := by
  refine ⟨by decide +kernel, by decide +kernel, by decide +kernel⟩

end Preparing
end SnippetRunner.Cgroup

import SnippetRunner.Box.Basic

/-!
What the keeper of boxes did, by how it answered. A box is set up if the keeper ended well and said where the
box is; it counts as taken away only when the keeper ended well.
-/

namespace SnippetRunner.Box
open Files (Tree)

/-- The keeper ended well. -/
def agreed : Except Fault Host.Effect → Bool
  | .ok effect => succeeded effect.ending
  | .error _ => false

/-- The place the keeper named is there. -/
def placed : Except Fault Host.Effect → Bool
  | .ok effect => effect.files.isThere (said effect.out)
  | .error _ => false

section Cleanup
variable (machine : Host.Machine) (box : Box) (files : Tree)

theorem cleanup_gone (gone : box.initialized = false) :
    box.cleanup machine files = (.ok (), box, files) := by
  simp [cleanup, gone]

theorem cleanup_agreed (there : box.initialized = true)
    (ended : agreed (ask machine files box.cleanupCommand) = true) :
    ∃ after, box.cleanup machine files = (.ok (), { box with initialized := false }, after) := by
  cases asked : ask machine files box.cleanupCommand with
  | error fault =>
      rw [asked] at ended
      cases ended
  | ok effect =>
      rw [asked] at ended
      have well : succeeded effect.ending = true := ended
      exact ⟨effect.files, by simp [cleanup, there, asked, well]⟩

theorem cleanup_refused (there : box.initialized = true)
    (refused : agreed (ask machine files box.cleanupCommand) = false) :
    ∃ fault after, box.cleanup machine files = (.error fault, box, after) := by
  cases asked : ask machine files box.cleanupCommand with
  | error fault => exact ⟨fault, files, by simp [cleanup, there, asked]⟩
  | ok effect =>
      rw [asked] at refused
      have badly : succeeded effect.ending = false := refused
      exact ⟨.cleanup box.id (said effect.err), effect.files, by simp [cleanup, there, asked, badly]⟩

/-- A box is taken away, or it is as it was. -/
theorem cleanup_box :
    (box.cleanup machine files).2.1 = box ∨
      (box.cleanup machine files).1 = .ok () ∧
        (box.cleanup machine files).2.1 = { box with initialized := false } := by
  cases there : box.initialized with
  | false => exact .inl (by rw [cleanup_gone machine box files there])
  | true =>
      cases ended : agreed (ask machine files box.cleanupCommand) with
      | false =>
          obtain ⟨fault, after, refused⟩ := cleanup_refused machine box files there ended
          exact .inl (by rw [refused])
      | true =>
          obtain ⟨after, cleaned⟩ := cleanup_agreed machine box files there ended
          exact .inr (by rw [cleaned]; exact ⟨rfl, rfl⟩)

theorem cleanup_failed (fault : Fault) (failed : (box.cleanup machine files).1 = .error fault) :
    (box.cleanup machine files).2.1 = box := by
  rcases cleanup_box machine box files with same | ⟨ok, _⟩
  · exact same
  · rw [ok] at failed
    cases failed

end Cleanup

section Setup
variable (machine : Host.Machine) (keeper : String) (id : Nat) (cgroup : Bool) (files : Tree)

theorem setup_placed
    (ended : agreed (ask machine files (setupCommand keeper id cgroup)) = true)
    (found : placed (ask machine files (setupCommand keeper id cgroup)) = true) :
    ∃ path after, setup machine keeper id cgroup files =
      (.ok { id, path, keeper, initialized := true, cgroup }, after) := by
  cases asked : ask machine files (setupCommand keeper id cgroup) with
  | error fault =>
      rw [asked] at ended
      cases ended
  | ok effect =>
      rw [asked] at ended found
      have well : succeeded effect.ending = true := ended
      have there : effect.files.isThere (said effect.out) = true := found
      exact ⟨said effect.out, effect.files, by simp [setup, asked, well, there]⟩

theorem setup_refused
    (refused : (agreed (ask machine files (setupCommand keeper id cgroup)) &&
      placed (ask machine files (setupCommand keeper id cgroup))) = false) :
    ∃ fault after, setup machine keeper id cgroup files = (.error fault, after) := by
  cases asked : ask machine files (setupCommand keeper id cgroup) with
  | error fault => exact ⟨fault, files, by simp [setup, asked]⟩
  | ok effect =>
      rw [asked] at refused
      cases well : succeeded effect.ending with
      | false => exact ⟨.setup id (said effect.err), effect.files, by simp [setup, asked, well]⟩
      | true =>
          have missing : effect.files.isThere (said effect.out) = false := by
            simpa [agreed, placed, well] using refused
          exact ⟨.setup id s!"box path does not exist: {said effect.out}", effect.files,
            by simp [setup, asked, well, missing]⟩

end Setup
end SnippetRunner.Box

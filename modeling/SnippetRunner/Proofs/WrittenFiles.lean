import SnippetRunner.Context.Layout
import SnippetRunner.Proofs.Octets
import SnippetRunner.Proofs.TemporaryDirectories

/-!
Files that were written. A file is written in a directory, where no directory stands in its place; so the path
it was written at leads to it afterwards, and what is read there is what was written.
-/

namespace SnippetRunner.Files

namespace Path

/-- A path that does not end in a separator ends in a name. -/
theorem pieces_ended (path : String) (nonempty : path ≠ "") (unended : endsInSeparator path = false) :
    ∃ front name, pieces path = front ++ [name] ∧ name ≠ "" := by
  by_cases single : separator ∈ path.toList
  · obtain ⟨back, front, turned, plain⟩ := List.eq_append_cons_of_mem (List.mem_reverse.mpr single)
    have letters : path.toList = front.reverse ++ separator :: back.reverse := by
      rw [← List.reverse_reverse path.toList, turned]
      simp
    have parts : path = String.ofList front.reverse ++ "/" ++ String.ofList back.reverse := by
      apply String.toList_inj.mp
      rw [letters]
      simp [separator]
    refine ⟨pieces (String.ofList front.reverse), String.ofList back.reverse, ?_, fun none => ?_⟩
    · conv_lhs => rw [parts]
      exact pieces_below _ _ (by simpa using plain)
    · have empty : back.reverse = [] := String.ofList_eq_empty_iff.mp none
      rw [endsInSeparator, letters, empty] at unended
      simp at unended
  · exact ⟨[], path, pieces_name path single, nonempty⟩

theorem withoutEnd_pieces (path : String) (nonempty : path ≠ "") (unended : endsInSeparator path = false) :
    withoutEnd (pieces path) = pieces path := by
  obtain ⟨front, name, whole, named⟩ := pieces_ended path nonempty unended
  rw [whole, withoutEnd_concat front name named]

theorem join_ne_empty (front name : String) (named : name ≠ "") : join front name ≠ "" := by
  intro none
  have letters := congrArg String.toList none
  have some : name.toList ≠ [] := fun empty => named (String.toList_inj.mp empty)
  rw [join] at letters
  split at letters
  · exact some letters
  · split at letters <;> simp [some] at letters

theorem join_unended (front name : String) (single : separator ∉ name.toList) (named : name ≠ "") :
    endsInSeparator (join front name) = false := by
  cases ends : name.toList.getLast? with
  | none => exact absurd (String.toList_inj.mp (List.getLast?_eq_none_iff.mp ends)) named
  | some c =>
      obtain ⟨letters, whole⟩ := List.getLast?_eq_some_iff.mp ends
      have other : c ≠ separator := fun same => single (by simp [whole, same])
      rw [endsInSeparator, join]
      split
      · simpa [whole] using other
      · split <;> simpa [whole, ← List.cons_append, ← List.append_assoc] using other

end Path

/-- A name that an entry of a directory can have. -/
structure IsEntry (name : String) : Prop extends IsDown name where
  single : Path.separator ∉ name.toList
  plain : Tree.holdsNul name = false

theorem isEntry_iff (name : String) : IsEntry name ↔
    (name ≠ "" ∧ name ≠ "." ∧ name ≠ "..") ∧ Path.separator ∉ name.toList ∧ Tree.holdsNul name = false :=
  ⟨fun entry => ⟨⟨entry.named, entry.moves, entry.descends⟩, entry.single, entry.plain⟩,
    fun ⟨⟨named, moves, descends⟩, single, plain⟩ => ⟨⟨named, moves, descends⟩, single, plain⟩⟩

instance (name : String) : Decidable (IsEntry name) :=
  decidable_of_iff _ (isEntry_iff name).symm

namespace Tree
variable {tree after : Tree} {path : String} {place : Place} {name : String} {content : Bytes}

theorem pieces_ok {names : List String} (split : pieces path = .ok names) : path ≠ "" ∧ names = Path.pieces path := by
  unfold pieces at split
  split at split
  · cases split
  · split at split
    · cases split
    · next nonempty =>
        split at split
        · cases split
        · cases split
          exact ⟨fun none => nonempty (String.isEmpty_iff.mpr none), rfl⟩

/-- The slot of a path is a name below the directory that the pieces before it lead to. -/
theorem slot_named (found : tree.slot path = .ok (place, some name)) :
    ∃ names, pieces path = .ok names ∧ (Path.withoutEnd names).getLast? = some name ∧
      tree.walk (tree.start path) (Path.withoutEnd names).dropLast = .ok place ∧
      tree.at? place = some .directory ∧ IsDown name ∧ ¬nameLimit < name.utf8ByteSize := by
  unfold slot at found
  cases split : pieces path with
  | error fault =>
      rw [split] at found
      cases found
  | ok names =>
      simp only [split, bind, Except.bind] at found
      cases walked : tree.walk (tree.start path) (Path.withoutEnd names).dropLast with
      | error fault =>
          simp only [walked] at found
          cases found
      | ok top =>
          simp only [walked] at found
          split at found
          · cases found
          · cases found
          · next there =>
              split at found
              · cases found
              · next last ends =>
                  split at found
                  · cases found
                  · next down =>
                      split at found
                      · cases found
                      · next fits =>
                          cases found
                          simp only [Bool.or_eq_true, beq_iff_eq, String.isEmpty_iff, not_or] at down
                          exact ⟨names, rfl, ends, walked, there, ⟨down.1.1, down.1.2, down.2⟩, fits⟩

/-- A file is put in its slot, unless a directory is there. -/
theorem write_ok (written : tree.write path content = .ok after) :
    Path.endsInSeparator path = false ∧ ∃ place name mode, tree.slot path = .ok (place, some name) ∧
      tree.at? (place ++ [name]) ≠ some .directory ∧ after = tree.put (place ++ [name]) (.file content mode) := by
  unfold write at written
  cases found : tree.slot path with
  | error fault =>
      rw [found] at written
      cases written
  | ok slot =>
      obtain ⟨place, _ | name⟩ := slot
      · rw [found] at written
        cases written
      · simp only [found, bind, Except.bind] at written
        split at written
        · cases written
        · next unended =>
            refine ⟨by simpa using unended, place, name, ?_⟩
            cases there : tree.at? (place ++ [name]) with
            | none =>
                rw [there] at written
                cases written
                exact ⟨fileMode, rfl, by simp, rfl⟩
            | some node =>
                rw [there] at written
                cases node with
                | directory => cases written
                | file held mode =>
                    cases written
                    exact ⟨mode, rfl, by simp, rfl⟩

theorem within_put_file (free : tree.at? place ≠ some .directory) (node : Node) :
    Within tree (tree.put place node) := by
  intro other found
  rw [at_put, found]
  split
  · rfl
  · rw [if_neg]
    intro same
    exact free (same ▸ found)

/-- What was written stands where the path leads. -/
theorem node_written (written : tree.write path content = .ok after) :
    ∃ mode, after.node path = .ok (.file content mode) := by
  obtain ⟨unended, place, name, mode, found, free, rfl⟩ := write_ok written
  obtain ⟨names, split, last, walked, there, down, fits⟩ := slot_named found
  obtain ⟨nonempty, rfl⟩ := pieces_ok split
  rw [Path.withoutEnd_pieces path nonempty unended] at last walked
  have within := within_put_file free (.file content mode)
  have same : (tree.put (place ++ [name]) (.file content mode)).start path = tree.start path := rfl
  have whole : (tree.put (place ++ [name]) (.file content mode)).resolve path = .ok (place ++ [name]) := by
    rw [resolve, split]
    show Tree.walk _ _ (Path.pieces path) = _
    rw [← List.dropLast_append_getLast? name last, walk_append, same, walk_within within _ _ place walked]
    exact (walk_down down).mpr ⟨within place there, fits, rfl⟩
  refine ⟨mode, ?_⟩
  simp only [node, whole, bind, Except.bind]
  rw [at_put, if_neg (by simp), if_pos rfl]

theorem readText_file {text : String} {mode : Nat} (found : tree.node path = .ok (.file (Utf8.ofString text) mode)) :
    tree.readText path = .ok text := by
  simp only [readText, read, found, bind, Except.bind, Utf8.readStrict_ofString, String.ofList_toList]

theorem readText_written {text : String} (written : tree.write path (Utf8.ofString text) = .ok after) :
    after.readText path = .ok text := by
  obtain ⟨mode, found⟩ := node_written written
  exact readText_file found

section Beside
variable {base other : String} {node : Node}

theorem node_iff : tree.node path = .ok node ↔ ∃ place, tree.resolve path = .ok place ∧ tree.at? place = some node := by
  rw [Tree.node]
  cases tree.resolve path with
  | error fault => simp [bind, Except.bind]
  | ok place =>
      simp only [bind, Except.bind, Except.ok.injEq, exists_eq_left']
      cases tree.at? place <;> simp

theorem holdsNul_join (base name : String) (entry : IsEntry name) : holdsNul (Path.join base name) = holdsNul base := by
  have plain := entry.plain
  unfold holdsNul at plain ⊢
  rw [Path.join, if_neg (by simp [Path.not_isAbsolute name entry.single])]
  split <;> simp [List.any_append, plain]

theorem size_join (base : String) (entry : IsEntry name) (beside : IsEntry other)
    (same : name.utf8ByteSize = other.utf8ByteSize) :
    (Path.join base name).utf8ByteSize = (Path.join base other).utf8ByteSize := by
  have first : ¬Path.isAbsolute name = true := by simp [Path.not_isAbsolute name entry.single]
  have second : ¬Path.isAbsolute other = true := by simp [Path.not_isAbsolute other beside.single]
  rw [Path.join, Path.join, if_neg first, if_neg second]
  split <;> simp [String.utf8ByteSize_append, same]

/-- A file that is written changes nothing beside it. -/
theorem node_beside (entry : IsEntry name) (beside : IsEntry other) (apart : name ≠ other)
    (written : tree.write (Path.join base name) content = .ok after)
    (found : tree.node (Path.join base other) = .ok node) : after.node (Path.join base other) = .ok node := by
  obtain ⟨_, place, last, mode, slot, free, rfl⟩ := write_ok written
  obtain ⟨walked, there, same⟩ := slot_temporary entry.single entry.toIsDown slot
  cases same
  obtain ⟨found, resolved, holds⟩ := node_iff.mp found
  obtain ⟨followed, fits, top, walked', _, found_eq⟩ := (resolve_down beside.single beside.toIsDown found).mp resolved
  cases walked.symm.trans walked'
  have within := within_put_file free (.file content mode)
  refine node_iff.mpr ⟨found, ?_, ?_⟩
  · exact (resolve_down beside.single beside.toIsDown found).mpr
      ⟨followed, fits, place, walk_within within _ _ _ walked, within place there, found_eq⟩
  · rw [at_put, if_neg (by simp [found_eq]), if_neg (by simpa [found_eq] using Ne.symm apart)]
    exact holds

/-- Beside an entry whose name is as long, there is another or none. -/
theorem node_near (entry : IsEntry name) (beside : IsEntry other) (same : name.utf8ByteSize = other.utf8ByteSize)
    (found : tree.node (Path.join base name) = .ok node) :
    (∃ node, tree.node (Path.join base other) = .ok node) ∨ tree.node (Path.join base other) = .error .missing := by
  obtain ⟨_, resolved, _⟩ := node_iff.mp found
  obtain ⟨⟨names, split⟩, fits, top, walked, there, _⟩ :=
    (resolve_down entry.single entry.toIsDown _).mp resolved
  have followed : ∃ names, pieces (Path.join base other) = .ok names := by
    have blank : ¬(Path.join base other).isEmpty = true :=
      fun none => Path.join_ne_empty base other beside.named (String.isEmpty_iff.mp none)
    unfold pieces at split ⊢
    rw [holdsNul_join base name entry, size_join base entry beside same] at split
    rw [holdsNul_join base other beside, if_neg blank]
    split at split
    · cases split
    · next clean =>
        rw [if_neg clean]
        split at split
        · cases split
        · split at split
          · cases split
          · next short => exact ⟨_, if_neg short⟩
  have reached : tree.resolve (Path.join base other) = .ok (top ++ [other]) :=
    (resolve_down beside.single beside.toIsDown _).mpr ⟨followed, same ▸ fits, top, walked, there, rfl⟩
  rw [Tree.node, reached]
  cases holds : tree.at? (top ++ [other]) with
  | none => exact .inr (by simp only [bind, Except.bind, holds])
  | some node => exact .inl ⟨node, by simp only [bind, Except.bind, holds]⟩

end Beside
end Tree
end SnippetRunner.Files

namespace SnippetRunner.Context

theorem resultName_entry : Files.IsEntry resultName := by
  decide

theorem stderrName_entry : Files.IsEntry stderrName := by
  decide

end SnippetRunner.Context

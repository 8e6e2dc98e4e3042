import SnippetRunner.Files.Tree

/-!
Temporary directories. A path leads the same way through a tree that only has more directories; so a directory
that is made below a root changes nothing for the others there, and one that is taken away, with everything in
it, is gone from its path.
-/

namespace SnippetRunner.Files

section Names

/-- A name that leads one step down. -/
structure IsDown (name : String) : Prop where
  named : name ≠ ""
  moves : name ≠ "."
  descends : name ≠ ".."

namespace Path

/-- The pieces above a name that is put below a base. -/
def above (base : String) : List String :=
  if base.isEmpty then []
  else if endsInSeparator base then (pieces base).dropLast
  else pieces base

theorem pieces_name (name : String) (single : separator ∉ name.toList) : pieces name = [name] := by
  have whole : name.toList.splitOn separator = [name.toList] := by
    rw [List.splitOn_eq_splitOnP]
    exact List.splitOnP_eq_singleton fun c there => beq_false_of_ne fun same => single (same ▸ there)
  rw [pieces, whole, List.map_singleton, String.ofList_toList]

theorem pieces_separated (base rest : String) : pieces (base ++ "/" ++ rest) = pieces base ++ pieces rest := by
  have cut : (base ++ "/" ++ rest).toList = base.toList ++ separator :: rest.toList := by
    simp [separator]
  rw [pieces, pieces, pieces, cut, List.splitOn_append_cons_self, List.map_append]

theorem pieces_below (base name : String) (single : separator ∉ name.toList) :
    pieces (base ++ "/" ++ name) = pieces base ++ [name] := by
  rw [pieces_separated, pieces_name name single]

theorem not_isAbsolute (name : String) (single : separator ∉ name.toList) : isAbsolute name = false := by
  rw [isAbsolute]
  cases letters : name.toList with
  | nil => rfl
  | cons c rest =>
      rw [letters] at single
      have other : c ≠ separator := fun same => single (same ▸ List.mem_cons_self ..)
      simpa using other

theorem pieces_join (base name : String) (single : separator ∉ name.toList) :
    pieces (join base name) = above base ++ [name] := by
  rw [join, if_neg (by simp [not_isAbsolute name single])]
  by_cases blank : base.isEmpty
  · have none : base = "" := String.isEmpty_iff.mp blank
    subst none
    simp [above, pieces_name name single]
  · by_cases ends : endsInSeparator base
    · obtain ⟨front, shape⟩ : ∃ front, base = front ++ "/" := by
        obtain ⟨letters, last⟩ := List.getLast?_eq_some_iff.mp (beq_iff_eq.mp ends)
        refine ⟨String.ofList letters, String.toList_inj.mp ?_⟩
        simp [last, separator]
      subst shape
      have front_eq : above (front ++ "/") = pieces front := by
        have cut := pieces_below front "" (by simp)
        rw [String.append_empty] at cut
        rw [above, if_neg blank, if_pos ends, cut, List.dropLast_concat]
      rw [if_pos (by simp [ends]), pieces_below front name single, front_eq]
    · rw [if_neg (by simp [blank, ends]), pieces_below base name single, above, if_neg blank, if_neg ends]

theorem isAbsolute_join (base name : String) (single : separator ∉ name.toList) :
    isAbsolute (join base name) = isAbsolute base := by
  rw [join, if_neg (by simp [not_isAbsolute name single])]
  by_cases blank : base.isEmpty
  · have none : base = "" := String.isEmpty_iff.mp blank
    subst none
    rw [if_pos (by simp), String.empty_append, not_isAbsolute name single]
    rfl
  · obtain ⟨c, rest, letters⟩ : ∃ c rest, base.toList = c :: rest := by
      refine List.exists_cons_of_ne_nil fun none => blank ?_
      rw [String.isEmpty_iff, ← String.ofList_toList (s := base), none]
    split <;> simp [isAbsolute, letters]

theorem withoutEnd_concat (front : List String) (name : String) (named : name ≠ "") :
    withoutEnd (front ++ [name]) = front ++ [name] := by
  rw [withoutEnd, List.reverse_concat, List.dropWhile_cons_of_neg, List.reverse_cons, List.reverse_reverse]
  rwa [String.isEmpty_iff]

end Path
end Names

namespace Tree

section Entries
variable {tree : Tree} {place : Place}

-- What is not there does not hide what is.
theorem find_filter (entries : List (Place × Node)) (keeps : Place × Node → Bool)
    (kept : ∀ entry, entry.1 = place → keeps entry = true) :
    ((entries.filter keeps).find? fun entry => entry.1 == place) = entries.find? fun entry => entry.1 == place := by
  rw [List.find?_filter]
  congr 1
  funext entry
  by_cases here : entry.1 = place
  · simp [here, kept entry here]
  · simp [here]

theorem at_put (node : Node) (other : Place) :
    (tree.put place node).at? other =
      if other.isEmpty then some .directory else if other = place then some node else tree.at? other := by
  rw [at?, at?]
  split
  · rfl
  · by_cases same : other = place
    · subst same
      simp [put]
    · let others (entry : Place × Node) : Bool := entry.1 != place
      have kept := find_filter tree.entries others (fun entry (here : entry.1 = other) => by simp [others, here, same])
      rw [put, List.find?_cons_of_neg (by simpa using Ne.symm same), kept, if_neg same]

theorem at_prune (other : Place) :
    (tree.prune place).at? other =
      if other.isEmpty then some .directory else if place.isPrefixOf other then none else tree.at? other := by
  rw [at?, at?]
  split
  · rfl
  · split
    · next below =>
        refine Option.map_eq_none_iff.mpr (List.find?_eq_none.mpr fun entry there here => ?_)
        have spared := (List.mem_filter.mp there).2
        rw [beq_iff_eq.mp here, below] at spared
        cases spared
    · next apart =>
        rw [prune, find_filter]
        intro entry here
        rw [here, Bool.eq_false_iff.mpr apart]
        rfl

end Entries

section Walking
variable {less more : Tree}

/-- All directories of a tree are ones of another. -/
def Within (less more : Tree) : Prop :=
  ∀ place, less.at? place = some .directory → more.at? place = some .directory

theorem prune_within (tree : Tree) (place : Place) : Within (tree.prune place) tree := by
  intro other found
  rw [at_prune] at found
  split at found
  · next root =>
      rw [at?, if_pos root]
  · split at found
    · cases found
    · exact found

theorem within_put (tree : Tree) (place : Place) : Within tree (tree.put place .directory) := by
  intro other found
  rw [at_put, found]
  split
  · rfl
  · split <;> rfl

theorem walk_within (within : Within less more) (names : List String) (place found : Place)
    (walked : less.walk place names = .ok found) : more.walk place names = .ok found := by
  induction names generalizing place with
  | nil => exact walked
  | cons name rest ih =>
      rw [walk] at walked ⊢
      split at walked
      · cases walked
      · cases walked
      · next there =>
          rw [within place there]
          split at walked
          · next stays => exact (if_pos stays).trans (ih _ walked)
          · next moves =>
              refine (if_neg moves).trans ?_
              split at walked
              · next up => exact (if_pos up).trans (ih _ walked)
              · next down =>
                  refine (if_neg down).trans ?_
                  split at walked
                  · cases walked
                  · next fits => exact (if_neg fits).trans (ih _ walked)

theorem walk_append (tree : Tree) (place : Place) (front rest : List String) :
    tree.walk place (front ++ rest) = (tree.walk place front).bind fun place => tree.walk place rest := by
  induction front generalizing place with
  | nil => rfl
  | cons name front ih =>
      rw [List.cons_append, walk, walk]
      split
      · rfl
      · rfl
      · split
        · exact ih _
        · split
          · exact ih _
          · split
            · rfl
            · exact ih _

theorem walk_down {tree : Tree} {place found : Place} {name : String} (down : IsDown name) :
    tree.walk place [name] = .ok found ↔
      tree.at? place = some .directory ∧ ¬nameLimit < name.utf8ByteSize ∧ found = place ++ [name] := by
  rw [walk]
  cases tree.at? place with
  | none => simp
  | some node =>
      cases node with
      | file content mode => simp
      | directory =>
          have stays : ¬(name.isEmpty || name == ".") = true := by simp [down.named, down.moves]
          have up : ¬(name == "..") = true := by simp [down.descends]
          simp only [if_neg stays, if_neg up, true_and]
          split
          · next long => exact ⟨nofun, fun fits => absurd long fits.1⟩
          · next fits => exact ⟨fun same => ⟨fits, (Except.ok.inj same).symm⟩, fun right => congrArg _ right.2.symm⟩

theorem isDirectory_iff (tree : Tree) (path : String) :
    tree.isDirectory path = true ↔ ∃ place, tree.resolve path = .ok place ∧ tree.at? place = some .directory := by
  rw [isDirectory, node]
  cases tree.resolve path with
  | error fault => simp [bind, Except.bind]
  | ok place =>
      simp only [bind, Except.bind, Except.ok.injEq, exists_eq_left']
      cases tree.at? place with
      | none => simp
      | some node => cases node <;> simp

theorem isDirectory_within (within : Within less more) (here : less.here = more.here) (path : String)
    (there : less.isDirectory path = true) : more.isDirectory path = true := by
  obtain ⟨place, resolved, found⟩ := (isDirectory_iff less path).mp there
  rw [isDirectory_iff]
  refine ⟨place, ?_, within place found⟩
  rw [resolve] at resolved ⊢
  cases split : pieces path with
  | error fault =>
      rw [split] at resolved
      cases resolved
  | ok names =>
      rw [split] at resolved
      rw [start, ← here]
      exact walk_within within names _ _ resolved

end Walking

section Temporary
variable {tree after : Tree} {root front path other : String}

/-- The path of one of the temporary directories below a root. -/
def IsTemporary (root front path : String) : Prop :=
  ∃ number, path = Path.join root (temporaryName front number)

theorem temporaryName_single (single : Path.separator ∉ front.toList) (number : Nat) :
    Path.separator ∉ (temporaryName front number).toList := by
  simp only [temporaryName, String.toList_append, String.toList_ofList, List.mem_append, List.mem_replicate]
  rintro (there | ⟨_, zero⟩ | digit)
  · exact single there
  · exact absurd zero (by decide)
  · exact absurd (Nat.isDigit_of_mem_toDigits (by decide) (by decide) digit) (by decide)

-- Six digits are more than a step has letters.
theorem temporaryName_down (front : String) (number : Nat) : IsDown (temporaryName front number) := by
  have long : 6 ≤ (temporaryName front number).toList.length := by
    simp only [temporaryName, String.toList_append, String.toList_ofList, List.length_append, List.length_replicate]
    omega
  constructor <;> intro same <;> rw [same] at long <;> exact absurd long (by decide)

section Names
variable {name : String} (single : Path.separator ∉ name.toList)
include single

theorem pieces_temporary {names : List String} (split : pieces (Path.join root name) = .ok names) :
    names = Path.above root ++ [name] := by
  rw [← Path.pieces_join root name single]
  unfold pieces at split
  repeat' split at split
  all_goals cases split
  rfl

theorem start_temporary : tree.start (Path.join root name) = tree.start root := by
  rw [start, start, Path.isAbsolute_join root name single]

theorem slot_temporary (down : IsDown name) {place : Place} {last : Option String}
    (found : tree.slot (Path.join root name) = .ok (place, last)) :
    tree.walk (tree.start root) (Path.above root) = .ok place ∧ tree.at? place = some .directory ∧
      last = some name := by
  rw [slot] at found
  cases split : pieces (Path.join root name) with
  | error fault =>
      rw [split] at found
      cases found
  | ok names =>
      simp only [split, pieces_temporary single split, Path.withoutEnd_concat _ _ down.named, List.dropLast_concat,
        start_temporary single, List.getLast?_concat, bind, Except.bind] at found
      split at found
      · cases found
      · next top walked =>
          split at found
          · cases found
          · cases found
          · next there =>
              rw [if_neg (by simp [down.named, down.moves, down.descends])] at found
              split at found
              · cases found
              · cases found
                exact ⟨walked, there, rfl⟩

/-- A path that ends in a name leads one step below the directory that its front leads to. -/
theorem resolve_down (down : IsDown name) (place : Place) : tree.resolve (Path.join root name) = .ok place ↔
    (∃ names, pieces (Path.join root name) = .ok names) ∧ ¬nameLimit < name.utf8ByteSize ∧
      ∃ top, tree.walk (tree.start root) (Path.above root) = .ok top ∧ tree.at? top = some .directory ∧
        place = top ++ [name] := by
  rw [resolve, start_temporary single]
  cases split : pieces (Path.join root name) with
  | error fault => simp [bind, Except.bind]
  | ok names =>
      rw [pieces_temporary single split]
      show tree.walk _ _ = .ok place ↔ _
      rw [walk_append]
      cases tree.walk (tree.start root) (Path.above root) with
      | error fault => simp [Except.bind]
      | ok top =>
          rw [Except.bind, walk_down down]
          simp [and_left_comm]

end Names

/-- A temporary directory is one step below the directory its root leads to. -/
theorem resolve_temporary (single : Path.separator ∉ front.toList) (number : Nat) (place : Place) :
    tree.resolve (Path.join root (temporaryName front number)) = .ok place ↔
      (∃ names, pieces (Path.join root (temporaryName front number)) = .ok names) ∧
        ¬nameLimit < (temporaryName front number).utf8ByteSize ∧
        ∃ top, tree.walk (tree.start root) (Path.above root) = .ok top ∧ tree.at? top = some .directory ∧
          place = top ++ [temporaryName front number] :=
  resolve_down (temporaryName_single single number) (temporaryName_down front number) place

theorem removeDirectory_iff : tree.removeDirectory path = .ok after ↔
    ∃ place, tree.resolve path = .ok place ∧ tree.at? place = some .directory ∧ after = tree.prune place := by
  rw [removeDirectory]
  cases tree.resolve path with
  | error fault => simp [bind, Except.bind]
  | ok place =>
      simp only [bind, Except.bind, Except.ok.injEq, exists_eq_left']
      cases tree.at? place with
      | none => simp
      | some node => cases node <;> simp [eq_comm]

/-- Taking a directory away makes no other. -/
theorem isDirectory_removed (removed : tree.removeDirectory path = .ok after)
    (there : after.isDirectory other = true) : tree.isDirectory other = true := by
  obtain ⟨place, _, _, rfl⟩ := removeDirectory_iff.mp removed
  exact isDirectory_within (prune_within tree place) rfl other there

/-- A temporary directory that was taken away is gone. -/
theorem removed_temporary (single : Path.separator ∉ front.toList) (temporary : IsTemporary root front path)
    (removed : tree.removeDirectory path = .ok after) : after.isDirectory path = false := by
  obtain ⟨number, rfl⟩ := temporary
  obtain ⟨place, resolved, _, rfl⟩ := removeDirectory_iff.mp removed
  rw [Bool.eq_false_iff]
  intro there
  obtain ⟨_, _, top, walked, _, place_eq⟩ := (resolve_temporary single number place).mp resolved
  obtain ⟨found, again, left⟩ := (isDirectory_iff _ _).mp there
  obtain ⟨_, _, top', walked', _, found_eq⟩ := (resolve_temporary single number found).mp again
  have same : found = place := by
    have further := walk_within (prune_within tree place) _ _ _ walked'
    cases walked.symm.trans further
    rw [found_eq, place_eq]
  rw [same, at_prune, if_neg (by simp [place_eq]), if_pos (by simp)] at left
  cases left

theorem makeDirectory_ok (made : tree.makeDirectory path = .ok after) :
    ∃ place name, tree.slot path = .ok (place, some name) ∧ after = tree.put (place ++ [name]) .directory := by
  rw [makeDirectory] at made
  cases found : tree.slot path with
  | error fault =>
      rw [found] at made
      cases made
  | ok slot =>
      obtain ⟨place, _ | name⟩ := slot
      · rw [found] at made
        cases made
      · simp only [found, bind, Except.bind] at made
        split at made
        · cases made
          exact ⟨place, name, rfl, rfl⟩
        · cases made

theorem makeTemporary_ok (made : tree.makeTemporary root front = .ok (path, after)) :
    path = tree.temporaryPath root front ∧ tree.makeDirectory path = .ok after := by
  unfold makeTemporary at made
  dsimp only at made
  split at made
  · next found =>
      cases made
      exact ⟨rfl, found⟩
  · cases made

theorem isTemporary_path (tree : Tree) (root front : String) :
    IsTemporary root front (tree.temporaryPath root front) :=
  ⟨_, rfl⟩

/-- Making a temporary directory makes no other of its root. -/
theorem made_temporary (single : Path.separator ∉ front.toList)
    (made : tree.makeTemporary root front = .ok (path, after)) :
    IsTemporary root front path ∧ ∀ other, IsTemporary root front other → after.isDirectory other = true →
      other = path ∨ tree.isDirectory other = true := by
  obtain ⟨rfl, found⟩ := makeTemporary_ok made
  refine ⟨isTemporary_path tree root front, ?_⟩
  rintro other ⟨number, rfl⟩ there
  obtain ⟨place, last, slot, rfl⟩ := makeDirectory_ok found
  obtain ⟨first, path_eq⟩ := isTemporary_path tree root front
  rw [path_eq] at slot ⊢
  obtain ⟨walked, top_there, last_eq⟩ :=
    slot_temporary (temporaryName_single single first) (temporaryName_down front first) slot
  cases last_eq
  obtain ⟨found', resolved, left⟩ := (isDirectory_iff _ _).mp there
  obtain ⟨followed, fits, top, walked', _, found_eq⟩ := (resolve_temporary single number found').mp resolved
  have same : place = top :=
    Except.ok.inj ((walk_within (within_put tree _) _ _ _ walked).symm.trans walked')
  subst same
  by_cases named : temporaryName front number = temporaryName front first
  · exact .inl (congrArg _ named)
  · rw [found_eq, at_put, if_neg (by simp), if_neg (by simpa using named)] at left
    refine .inr ((isDirectory_iff _ _).mpr ⟨_, ?_, left⟩)
    exact (resolve_temporary single number _).mpr ⟨followed, fits, place, walked, top_there, rfl⟩

end Temporary
end Tree
end SnippetRunner.Files

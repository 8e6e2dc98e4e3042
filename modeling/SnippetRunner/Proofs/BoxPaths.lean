import SnippetRunner.Box.Basic
import SnippetRunner.Proofs.FileChanges

/-!
Names in a box. A name that is accepted is put below the directory of the box, on the host and inside alike: what it
adds to either path is the same, and no step to the parent is in it. So a file that is written under it is below the
place that the path of the directory leads to. A name that starts at the root or steps to a parent is refused, and
no file is looked at.
-/

namespace SnippetRunner

namespace Text

theorem occursIn_iff (part text : List Char) : occursIn part text = true ↔ part <:+: text := by
  induction text with
  | nil => rw [occursIn, List.isEmpty_iff, List.infix_nil]
  | cons c rest ih => rw [occursIn, Bool.or_eq_true, List.isPrefixOf_iff_prefix, ih, List.infix_cons_iff]

theorem infix_intercalate {between part : List Char} {parts : List (List Char)} (member : part ∈ parts) :
    part <:+: between.intercalate parts := by
  induction parts with
  | nil => cases member
  | cons first rest ih =>
      cases rest with
      | nil =>
          cases List.mem_singleton.mp member
          exact ⟨[], [], by rw [List.nil_append, List.append_nil, List.intercalate_singleton]⟩
      | cons next rest =>
          rw [List.intercalate_cons_cons, List.append_assoc]
          rcases List.mem_cons.mp member with rfl | later
          · exact (List.prefix_append ..).isInfix
          · exact ((ih later).trans (List.suffix_append ..).isInfix).trans (List.suffix_append ..).isInfix

end Text

namespace Files

namespace Path

/-- What a path is made of: the root, where it starts there, and its names. -/
def components (path : String) : List String :=
  (if isAbsolute path then ["/"] else []) ++ names path

/-- The names that a relative path adds to the one it is put below. -/
def steps (name : String) : List String :=
  (pieces name).filter fun piece => !piece.isEmpty && piece != "."

/-- Something can be put below the path behind a separator. -/
structure IsBase (base : String) : Prop where
  nonempty : base ≠ ""
  unended : endsInSeparator base = false

theorem isBase_join (front : String) {name : String} (isName : IsName name) : IsBase (join front name) where
  nonempty := join_ne_empty front name isName.named
  unended := join_unended front name isName.single isName.named

theorem pieces_ne_nil (path : String) : pieces path ≠ [] := by
  rw [pieces, Ne, List.map_eq_nil_iff]
  exact List.splitOn_ne_nil separator path.toList

theorem counted_append {front : List String} (nonempty : front ≠ []) (rest : List String) :
    counted (front ++ rest) = counted front ++ rest.filter fun name => !name.isEmpty && name != "." := by
  obtain ⟨first, others, rfl⟩ := List.exists_cons_of_ne_nil nonempty
  rw [List.cons_append, counted, counted, List.filter_append, List.append_assoc]

variable {base name : String}

theorem join_relative (isBase : IsBase base) (relative : isAbsolute name = false) :
    join base name = base ++ "/" ++ name := by
  rw [join, if_neg (by simp [relative]), if_neg (by simp [isBase.nonempty, isBase.unended])]

theorem names_join_relative (isBase : IsBase base) (relative : isAbsolute name = false) :
    names (join base name) = names base ++ steps name := by
  rw [join_relative isBase relative, names_eq, names_eq, pieces_separated, counted_append (pieces_ne_nil base), steps]

theorem isAbsolute_join_relative (isBase : IsBase base) (relative : isAbsolute name = false) :
    isAbsolute (join base name) = isAbsolute base := by
  have letters : base.toList ≠ [] := fun none => isBase.nonempty (String.toList_inj.mp none)
  rw [join_relative isBase relative, isAbsolute, isAbsolute, String.append_assoc, String.toList_append,
    List.head?_append_of_ne_nil _ letters]

theorem components_join (isBase : IsBase base) (relative : isAbsolute name = false) :
    components (join base name) = components base ++ steps name := by
  rw [components, components, isAbsolute_join_relative isBase relative, names_join_relative isBase relative,
    List.append_assoc]

-- A piece of a name is a part of its letters.
theorem infix_of_mem_pieces {path piece : String} (member : piece ∈ pieces path) : piece.toList <:+: path.toList := by
  obtain ⟨letters, among, rfl⟩ := List.mem_map.mp member
  have whole : [separator].intercalate (path.toList.splitOn separator) = path.toList :=
    List.intercalate_splitOn separator
  rw [String.toList_ofList, ← whole]
  exact Text.infix_intercalate among

theorem names_subset_pieces (path : String) : names path ⊆ pieces path := by
  rw [names_eq]
  cases pieces path with
  | nil => exact List.Subset.refl _
  | cons first rest =>
      intro name member
      rw [counted, List.mem_append] at member
      rcases member with alone | later
      · split at alone
        · cases alone
        · exact List.mem_cons.mpr (.inl (List.mem_singleton.mp alone))
      · exact List.mem_cons_of_mem first (List.mem_filter.mp later).1

end Path

namespace Tree
variable {tree : Tree} {place found : Place} {list : List String}

/-- Without a step to a parent the way leads down. -/
theorem walk_descends (walked : tree.walk place list = .ok found) (descends : ".." ∉ list) : place <+: found := by
  induction list generalizing place with
  | nil =>
      cases walked
      exact List.prefix_rfl
  | cons name rest ih =>
      obtain ⟨_, next, moves, walked⟩ := walk_step_iff.mp walked
      have below := ih walked fun later => descends (List.mem_cons_of_mem name later)
      cases moves with
      | stay => exact below
      | up ascends => exact absurd (ascends ▸ List.mem_cons_self) descends
      | down => exact (List.prefix_append ..).trans below

/-- The place is the one that a path leads to, or below it. -/
def IsBelow (tree : Tree) (path : String) (place : Place) : Prop :=
  ∃ top, tree.Leads path top ∧ top <+: place

end Tree
end Files

namespace Box
open Files (Tree Place)
open Files.Path (isAbsolute components join names pieces steps IsName IsBase isBase_join)
open Files.Tree (Changes)

section Names
variable {name : String}

/-- The fault of a name that may lead out. -/
def refused (name : String) : Fault :=
  .path s!"path traversal not allowed: {name}"

theorem checkName_ok_iff : checkName name = .ok () ↔ ¬"..".toList <:+: name.toList ∧ isAbsolute name = false := by
  rw [checkName]
  split
  · next refuse =>
      simp only [reduceCtorEq, false_iff, not_and]
      rcases Bool.or_eq_true_iff.mp refuse with inside | absolute
      · exact fun apart => absurd ((Text.occursIn_iff ..).mp inside) apart
      · exact fun _ => by simp [absolute]
  · next accept =>
      rw [Bool.or_eq_true, not_or, Bool.not_eq_true (isAbsolute name)] at accept
      exact iff_of_true rfl ⟨fun inside => accept.1 ((Text.occursIn_iff ..).mpr inside), accept.2⟩

theorem checkName_error (refuses : checkName name ≠ .ok ()) : checkName name = .error (refused name) := by
  rw [checkName] at refuses ⊢
  split at refuses
  · next refuse => rw [if_pos refuse, refused]
  · exact absurd rfl refuses

/-- A piece that is a step to the parent is seen by the check. -/
theorem parent_not_mem_steps (accepted : checkName name = .ok ()) : ".." ∉ steps name := by
  intro member
  have piece := (List.mem_filter.mp member).1
  exact (checkName_ok_iff.mp accepted).1 (Files.Path.infix_of_mem_pieces piece)

theorem checkName_of_leading_out (leads : isAbsolute name = true ∨ ".." ∈ names name) :
    checkName name = .error (refused name) := by
  refine checkName_error fun accepted => ?_
  obtain ⟨apart, relative⟩ := checkName_ok_iff.mp accepted
  rcases leads with absolute | parent
  · rw [relative] at absolute
    cases absolute
  · exact apart (Files.Path.infix_of_mem_pieces (Files.Path.names_subset_pieces name parent))

end Names

section Paths
variable (box : Box) {name : String} {files after : Tree} {content : Bytes}

/-- The directory of a box that programs inside see, as it is on the host. -/
def outerRoot : String :=
  join box.path "box"

theorem isBase_outerRoot : IsBase box.outerRoot :=
  isBase_join box.path ⟨by decide, by decide⟩

theorem isBase_innerRoot : IsBase innerRoot :=
  ⟨by decide, by decide⟩

theorem filePath_accepted (accepted : checkName name = .ok ()) : box.filePath name = .ok (join box.outerRoot name) := by
  rw [filePath, accepted]
  rfl

theorem innerPath_accepted (accepted : checkName name = .ok ()) : innerPath name = .ok (join innerRoot name) := by
  rw [innerPath, accepted]
  rfl

theorem writeFile_inside (accepted : checkName name = .ok ()) (written : box.writeFile name content files = .ok after) :
    Changes (fun _ => False) (after.IsBelow box.outerRoot) files after := by
  rw [writeFile, filePath_accepted box accepted] at written
  cases done : files.write (join box.outerRoot name) content with
  | error fault =>
      simp only [bind, Except.bind, done] at written
      cases written
  | ok changed =>
      simp only [bind, Except.bind, done] at written
      cases written
      refine (Files.Tree.write_changes done).mono (fun _ never _ => never) fun place leads => ?_
      have relative := (checkName_ok_iff.mp accepted).2
      rw [Files.Tree.Leads, Files.Path.names_join_relative box.isBase_outerRoot relative,
        Files.Tree.start, Files.Path.isAbsolute_join_relative box.isBase_outerRoot relative] at leads
      obtain ⟨top, above, below⟩ := Files.Tree.walk_parts.mp leads
      exact ⟨top, above, Files.Tree.walk_descends below (parent_not_mem_steps accepted)⟩

/-- A refused name is refused by all that take one, before they look at a file. -/
theorem refused_everywhere (refuses : checkName name = .error (refused name)) :
    box.filePath name = .error (refused name) ∧ innerPath name = .error (refused name) ∧
      (∀ content files, box.writeFile name content files = .error (refused name)) ∧
      ∀ limit files, box.readOptional name limit files = .error (refused name) := by
  have path : box.filePath name = .error (refused name) := by
    rw [filePath, refuses]
    rfl
  refine ⟨path, ?_, fun content files => ?_, fun limit files => ?_⟩
  · rw [innerPath, refuses]
    rfl
  · rw [writeFile, path]
    rfl
  · rw [readOptional, path]
    rfl

/-- Accepted names stay inside a box, and a name that leads out of it is refused. -/
theorem names_stay_in_box (box : Box) (name : String) :
    (checkName name = .ok () →
      ∃ path inner steps, box.filePath name = .ok path ∧ innerPath name = .ok inner ∧
        components path = components (join box.path "box") ++ steps ∧
        components inner = components "/box" ++ steps ∧ ".." ∉ steps ∧
        ∀ content files after, box.writeFile name content files = .ok after →
          Changes (fun _ => False) (after.IsBelow (join box.path "box")) files after) ∧
    (isAbsolute name = true ∨ ".." ∈ components name →
      box.filePath name = .error (refused name) ∧ innerPath name = .error (refused name) ∧
        (∀ content files, box.writeFile name content files = .error (refused name)) ∧
        ∀ limit files, box.readOptional name limit files = .error (refused name)) := by
  constructor
  · intro accepted
    have relative := (checkName_ok_iff.mp accepted).2
    refine ⟨_, _, steps name, box.filePath_accepted accepted, innerPath_accepted accepted, ?_, ?_, ?_, ?_⟩
    · exact Files.Path.components_join box.isBase_outerRoot relative
    · exact Files.Path.components_join isBase_innerRoot relative
    · exact parent_not_mem_steps accepted
    · intro content files after written
      exact box.writeFile_inside accepted written
  · intro leads
    refine box.refused_everywhere (checkName_of_leading_out (leads.imp_right fun parent => ?_))
    rcases List.mem_append.mp parent with root | named
    · split at root
      · exact absurd (List.mem_singleton.mp root) (by decide)
      · cases root
    · exact named

theorem names_stay_in_seventh_box :
    let box : Box := { id := 7, path := "/var/boxes/7", keeper := "isolate", initialized := true, cgroup := false }
    checkName "a//./b" = .ok () ∧
      (∃ path inner steps, box.filePath "a//./b" = .ok path ∧ innerPath "a//./b" = .ok inner ∧
        components path = components "/var/boxes/7/box" ++ steps ∧ components inner = components "/box" ++ steps ∧
        ".." ∉ steps) ∧
      ".." ∈ components "a/../b" ∧ box.filePath "a/../b" = .error (refused "a/../b") := by
  intro box
  have accepted : checkName "a//./b" = .ok () := rfl
  have parent : ".." ∈ components "a/../b" := by decide
  have root : join box.path "box" = "/var/boxes/7/box" := by decide
  obtain ⟨path, inner, steps, outside, inside, whole, within, descends, _⟩ :=
    (names_stay_in_box box "a//./b").1 accepted
  exact ⟨accepted, ⟨path, inner, steps, outside, inside, root ▸ whole, within, descends⟩, parent,
    ((names_stay_in_box box "a/../b").2 (.inr parent)).1⟩

end Paths
end Box
end SnippetRunner

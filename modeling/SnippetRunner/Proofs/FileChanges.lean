import SnippetRunner.Proofs.WrittenFiles

/-!
What steps on files change. A file is written in a place without a directory, and a directory is made where nothing
was; the place is where the names of the path lead afterwards. Directories that are made with those above them
stand where some front of the names leads. Where a path leads to a directory, or to a file with some content,
making the one or writing the other again changes nothing.
-/

namespace SnippetRunner.Files
open Host (Fault)

namespace Path

/-- Those of the pieces of a path that are its names. -/
def counted : List String → List String
  | [] => []
  | first :: rest => (if first.isEmpty then [] else [first]) ++ rest.filter fun name => !name.isEmpty && name != "."

theorem names_eq (path : String) : names path = counted (pieces path) := by
  rw [names]
  cases pieces path <;> rfl

theorem counted_concat (front : List String) {name : String} (down : IsDown name) :
    counted (front ++ [name]) = counted front ++ [name] := by
  cases front with
  | nil => simp [counted, down.named]
  | cons first rest => simp [counted, down.named, down.moves]

theorem names_join (base : String) {name : String} (down : IsDown name) (single : separator ∉ name.toList) :
    names (join base name) = counted (above base) ++ [name] := by
  rw [names_eq, pieces_join base name single, counted_concat _ down]

/-- Pieces are the ones before the end and empty ones. -/
theorem withoutEnd_append (list : List String) :
    ∃ blanks, list = withoutEnd list ++ blanks ∧ ∀ name ∈ blanks, name.isEmpty = true := by
  refine ⟨(list.reverse.takeWhile String.isEmpty).reverse, ?_, ?_⟩
  · rw [withoutEnd, ← List.reverse_append, List.takeWhile_append_dropWhile, List.reverse_reverse]
  · intro name member
    exact List.all_eq_true.mp List.all_takeWhile name (List.mem_reverse.mp member)

theorem counted_withoutEnd {list : List String} (nonempty : withoutEnd list ≠ []) :
    counted (withoutEnd list) = counted list := by
  obtain ⟨blanks, whole, empty⟩ := withoutEnd_append list
  obtain ⟨first, rest, front⟩ := List.exists_cons_of_ne_nil nonempty
  conv_rhs => rw [whole, front]
  have none : blanks.filter (fun name => !name.isEmpty && name != ".") = [] :=
    List.filter_eq_nil_iff.mpr fun name member => by simp [empty name member]
  rw [front, List.cons_append, counted, counted, List.filter_append, none, List.append_nil]

theorem not_mem_of_splitOn {text piece : List Char} (member : piece ∈ text.splitOn separator) : separator ∉ piece := by
  induction text generalizing piece with
  | nil =>
      rw [List.splitOn_nil, List.mem_singleton] at member
      rw [member]
      exact List.not_mem_nil
  | cons c rest ih =>
      rw [List.splitOn_cons_eq_if_modifyHead] at member
      split at member
      · rcases List.mem_cons.mp member with rfl | later
        · exact List.not_mem_nil
        · exact ih later
      · next other =>
          cases parts : rest.splitOn separator with
          | nil => exact absurd parts (List.splitOn_ne_nil separator rest)
          | cons first others =>
              rw [parts] at member ih
              rcases List.mem_cons.mp member with rfl | later
              · rw [List.mem_cons, not_or]
                exact ⟨fun same => other (by simp [same]), ih (.head _)⟩
              · exact ih (.tail _ later)

theorem pieces_single {path name : String} (member : name ∈ pieces path) : separator ∉ name.toList := by
  obtain ⟨letters, piece, rfl⟩ := List.mem_map.mp member
  rw [String.toList_ofList]
  exact not_mem_of_splitOn piece

/-- A name as it stands in a path. -/
structure IsName (name : String) : Prop where
  named : name ≠ ""
  single : separator ∉ name.toList

theorem names_named {path name : String} (member : name ∈ names path) : IsName name := by
  rw [names_eq] at member
  cases split : pieces path with
  | nil =>
      rw [split] at member
      cases member
  | cons first rest =>
      rw [split, counted, List.mem_append, List.mem_filter] at member
      have among : ∀ other ∈ first :: rest, separator ∉ other.toList := fun other there =>
        pieces_single (split ▸ there)
      rcases member with alone | ⟨later, counts⟩
      · split at alone
        · cases alone
        · next some =>
            cases List.mem_singleton.mp alone
            exact ⟨fun none => some (String.isEmpty_iff.mpr none), among name (.head _)⟩
      · refine ⟨fun none => ?_, among name (.tail _ later)⟩
        simp [none] at counts

variable {absolute : Bool} {list : List String}

theorem pieces_ofNames (nonempty : list ≠ []) (named : ∀ name ∈ list, IsName name) :
    pieces (ofNames absolute list) = (if absolute then [""] else []) ++ list := by
  have cut : (String.intercalate "/" list).toList.splitOn separator = list.map String.toList := by
    rw [String.toList_intercalate]
    refine List.splitOn_intercalate separator (fun letters piece => ?_) (by simpa using nonempty)
    obtain ⟨name, member, rfl⟩ := List.mem_map.mp piece
    exact (named name member).single
  have back : (list.map String.toList).map String.ofList = list := by simp
  cases absolute with
  | false =>
      have letters : (ofNames false list).toList = (String.intercalate "/" list).toList := by simp [ofNames]
      rw [pieces, letters, cut, back]
      rfl
  | true =>
      have letters : (ofNames true list).toList = [] ++ separator :: (String.intercalate "/" list).toList := by
        simp [ofNames, separator]
      rw [pieces, letters, List.splitOn_append_cons_self, cut, List.splitOn_nil, List.map_append, back]
      rfl

theorem isAbsolute_ofNames (nonempty : list ≠ []) (named : ∀ name ∈ list, IsName name) :
    isAbsolute (ofNames absolute list) = absolute := by
  cases absolute with
  | true => simp [isAbsolute, ofNames, separator]
  | false =>
      have whole := @pieces_ofNames false list nonempty named
      rw [Bool.eq_false_iff]
      intro starts
      obtain ⟨letters, text⟩ : ∃ letters, (ofNames false list).toList = [] ++ separator :: letters :=
        List.head?_eq_some_iff.mp (beq_iff_eq.mp starts)
      rw [pieces, text, List.splitOn_append_cons_self] at whole
      have first : "" ∈ list := by
        rw [show list = _ from whole.symm]
        simp
      exact (named "" first).named rfl

end Path

namespace Tree

section Leading
variable {tree more : Tree} {path : String} {place found : Place} {name : String}

theorem walk_parts {front rest : List String} : tree.walk place (front ++ rest) = .ok found ↔
    ∃ between, tree.walk place front = .ok between ∧ tree.walk between rest = .ok found := by
  rw [walk_append]
  cases tree.walk place front <;> simp [Except.bind]

/-- Where a step leads, if it is made from a directory. -/
inductive Moves (place : Place) (name : String) : Place → Prop where
  | stay (stays : (name.isEmpty || name == ".") = true) : Moves place name place
  | up (ascends : name = "..") : Moves place name place.dropLast
  | down (down : IsDown name) (fits : ¬nameLimit < name.utf8ByteSize) : Moves place name (place ++ [name])

theorem walk_step_iff {rest : List String} : tree.walk place (name :: rest) = .ok found ↔
    tree.at? place = some .directory ∧ ∃ next, Moves place name next ∧ tree.walk next rest = .ok found := by
  constructor
  · intro walked
    rw [walk] at walked
    split at walked
    · cases walked
    · cases walked
    · next there =>
        refine ⟨there, ?_⟩
        split at walked
        · next stays => exact ⟨place, .stay stays, walked⟩
        · next moves =>
            split at walked
            · next up => exact ⟨place.dropLast, .up (beq_iff_eq.mp up), walked⟩
            · next down =>
                split at walked
                · cases walked
                · next fits =>
                    simp only [Bool.or_eq_true, beq_iff_eq, String.isEmpty_iff, not_or] at moves down
                    exact ⟨place ++ [name], .down ⟨moves.1, moves.2, down⟩ fits, walked⟩
  · rintro ⟨there, next, moves, walked⟩
    rw [walk, there]
    cases moves with
    | stay stays => exact (if_pos stays).trans walked
    | up ascends =>
        subst ascends
        exact walked
    | down down fits =>
        have stays : ¬(name.isEmpty || name == ".") = true := by simp [down.named, down.moves]
        have up : ¬(name == "..") = true := by simp [down.descends]
        simp only [if_neg stays, if_neg up, if_neg fits]
        exact walked

theorem walk_first {rest : List String} (walked : tree.walk place (name :: rest) = .ok found) :
    tree.at? place = some .directory :=
  (walk_step_iff.mp walked).1

theorem walk_start {list : List String} (walked : tree.walk place list = .ok found)
    (there : tree.at? found = some .directory) : tree.at? place = some .directory := by
  cases list with
  | nil =>
      cases walked
      exact there
  | cons name rest => exact walk_first walked

/-- A list that leads to a directory leads through directories. -/
theorem walk_front {front rest : List String} (walked : tree.walk place (front ++ rest) = .ok found)
    (there : tree.at? found = some .directory) :
    ∃ between, tree.walk place front = .ok between ∧ tree.at? between = some .directory := by
  obtain ⟨between, first, second⟩ := walk_parts.mp walked
  exact ⟨between, first, walk_start second there⟩

theorem walk_stays {rest : List String} (stays : (name.isEmpty || name == ".") = true)
    (walked : tree.walk place (name :: rest) = .ok found) : tree.walk place rest = .ok found := by
  obtain ⟨_, next, moves, walked⟩ := walk_step_iff.mp walked
  cases moves with
  | stay => exact walked
  | up ascends =>
      subst ascends
      cases stays
  | down down => simp [down.named, down.moves] at stays

theorem walk_filter {list : List String} (walked : tree.walk place list = .ok found) :
    tree.walk place (list.filter fun name => !name.isEmpty && name != ".") = .ok found := by
  induction list generalizing place with
  | nil => exact walked
  | cons name rest ih =>
      rw [List.filter_cons]
      split
      · obtain ⟨there, next, moves, others⟩ := walk_step_iff.mp walked
        exact walk_step_iff.mpr ⟨there, next, moves, ih others⟩
      · next stays =>
          refine ih (walk_stays ?_ walked)
          cases empty : name.isEmpty <;> simp_all

/-- The pieces of a path that are no names do not change where it leads. -/
theorem walk_counted {list : List String} (walked : tree.walk place list = .ok found) :
    tree.walk place (Path.counted list) = .ok found := by
  cases list with
  | nil => exact walked
  | cons first rest =>
      rw [Path.counted]
      split
      · next empty => exact walk_filter (walk_stays (by simp [empty]) walked)
      · obtain ⟨there, next, moves, others⟩ := walk_step_iff.mp walked
        exact walk_step_iff.mpr ⟨there, next, moves, walk_filter others⟩

/-- Where the names of a path start. -/
def origin (tree : Tree) (absolute : Bool) : Place :=
  if absolute then [] else tree.here

/-- The places that the fronts of a list lead to. -/
def Fronts (tree : Tree) (absolute : Bool) (list : List String) (place : Place) : Prop :=
  ∃ front, front <+: list ∧ tree.walk (tree.origin absolute) front = .ok place

/-- The place that the names of a path lead to. -/
def Leads (tree : Tree) (path : String) (place : Place) : Prop :=
  tree.walk (tree.start path) (Path.names path) = .ok place

/-- The places that the names of a path and of those above it lead to. -/
def LeadsAbove (tree : Tree) (path : String) (place : Place) : Prop :=
  tree.Fronts (Path.isAbsolute path) (Path.names path) place

theorem resolve_iff : tree.resolve path = .ok place ↔
    pieces path = .ok (Path.pieces path) ∧ tree.walk (tree.start path) (Path.pieces path) = .ok place := by
  rw [resolve]
  cases split : pieces path with
  | error fault => simp [bind, Except.bind]
  | ok names =>
      cases (pieces_ok split).2
      simp [bind, Except.bind]

theorem leads_of_resolve (resolved : tree.resolve path = .ok place) : tree.Leads path place := by
  rw [Leads, Path.names_eq]
  exact walk_counted (resolve_iff.mp resolved).2

theorem resolve_within (within : Within tree more) (here : tree.here = more.here)
    (resolved : tree.resolve path = .ok place) : more.resolve path = .ok place := by
  obtain ⟨split, walked⟩ := resolve_iff.mp resolved
  rw [resolve_iff, start, ← here]
  exact ⟨split, walk_within within _ _ _ walked⟩

theorem Leads.within (within : Within tree more) (here : tree.here = more.here) (leads : tree.Leads path place) :
    more.Leads path place := by
  rw [Leads, start, ← here]
  exact walk_within within _ _ _ leads

theorem Fronts.within {absolute : Bool} {list : List String} (within : Within tree more) (here : tree.here = more.here)
    (fronts : tree.Fronts absolute list place) : more.Fronts absolute list place := by
  obtain ⟨front, starts, walked⟩ := fronts
  refine ⟨front, starts, ?_⟩
  rw [origin, ← here]
  exact walk_within within _ _ _ walked

/-- The pieces of a path lead to its slot. -/
theorem walk_slot (found : tree.slot path = .ok (place, some name)) :
    tree.walk (tree.start path) (Path.withoutEnd (Path.pieces path)) = .ok (place ++ [name]) := by
  obtain ⟨names, split, last, walked, there, down, fits⟩ := slot_named found
  cases (pieces_ok split).2
  rw [← List.dropLast_append_getLast? name last]
  exact walk_parts.mpr ⟨place, walked, (walk_down down).mpr ⟨there, fits, rfl⟩⟩

theorem leads_slot (found : tree.slot path = .ok (place, some name)) : tree.Leads path (place ++ [name]) := by
  have walked := walk_slot found
  have nonempty : Path.withoutEnd (Path.pieces path) ≠ [] := by
    obtain ⟨names, split, last, _⟩ := slot_named found
    cases (pieces_ok split).2
    intro none
    rw [none] at last
    cases last
  rw [Leads, Path.names_eq, ← Path.counted_withoutEnd nonempty]
  exact walk_counted walked

end Leading

section Changes
variable {made written made' written' : Place → Prop} {before between after : Tree} {place : Place}

/-- What becomes of a place where a directory may be made and a file written. -/
inductive Turned (made written : Prop) : Option Node → Option Node → Prop where
  | kept (node : Option Node) : Turned made written node node
  | made (here : made) : Turned made written none (some .directory)
  | written (here : written) {node : Option Node} (free : node ≠ some .directory) (content : Bytes) (mode : Nat) :
      Turned made written node (some (.file content mode))

/-- All that differs between two trees: directories that were made, and files that were written. -/
structure Changes (made written : Place → Prop) (before after : Tree) : Prop where
  here : before.here = after.here
  turned : ∀ place, Turned (made place) (written place) (before.at? place) (after.at? place)

/-- The trees have the same in every place. -/
def Same (before after : Tree) : Prop :=
  Changes (fun _ => False) (fun _ => False) before after

theorem Changes.refl (tree : Tree) : Changes made written tree tree where
  here := rfl
  turned _ := .kept _

theorem Changes.trans (first : Changes made written before between) (second : Changes made written between after) :
    Changes made written before after where
  here := first.here.trans second.here
  turned place := by
    have earlier := first.turned place
    have later := second.turned place
    generalize before.at? place = old, between.at? place = middle, after.at? place = new at earlier later
    cases earlier with
    | kept => exact later
    | made here =>
        cases later with
        | kept => exact .made here
        | written _ free => exact absurd rfl free
    | written here free content mode =>
        cases later with
        | kept => exact .written here free content mode
        | written _ _ content mode => exact .written here free content mode

/-- A change is named by where it is seen. -/
theorem Changes.mono (changes : Changes made written before after)
    (makes : ∀ place, made place → before.at? place = none → made' place)
    (writes : ∀ place, written place → written' place) : Changes made' written' before after where
  here := changes.here
  turned place := by
    have turned := changes.turned place
    generalize nodes : before.at? place = old, after.at? place = new at turned ⊢
    cases turned with
    | kept => exact .kept _
    | made here => exact .made (makes place here nodes)
    | written here free content mode => exact .written (writes place here) free content mode

theorem Changes.within (changes : Changes made written before after) : Within before after := by
  intro place there
  have turned := changes.turned place
  rw [there] at turned
  generalize after.at? place = node at turned
  cases turned with
  | kept => rfl
  | written _ free => exact absurd rfl free

theorem at_put_here (tree : Tree) (place : Place) (name : String) (node : Node) :
    (tree.put (place ++ [name]) node).at? (place ++ [name]) = some node := by
  rw [at_put, if_neg (by simp), if_pos rfl]

theorem at_put_other (tree : Tree) (node : Node) {other : Place} (apart : other ≠ place) :
    (tree.put place node).at? other = tree.at? other := by
  rw [at_put, if_neg apart]
  split
  · next root => rw [at?, if_pos root]
  · rfl

theorem changes_put_directory (free : before.at? place = none) :
    Changes (· = place) (fun _ => False) before (before.put place .directory) where
  here := rfl
  turned other := by
    by_cases same : other = place
    · subst same
      have named : ¬other.isEmpty = true := fun root => by simp [at?, root] at free
      rw [at_put, if_neg named, if_pos rfl, free]
      exact .made rfl
    · rw [at_put_other _ _ same]
      exact .kept _

theorem changes_put_file (free : before.at? place ≠ some .directory) (content : Bytes) (mode : Nat) :
    Changes (fun _ => False) (· = place) before (before.put place (.file content mode)) where
  here := rfl
  turned other := by
    rw [at_put]
    split
    · next root =>
        rw [at?, if_pos root]
        exact .kept _
    · split
      · next same =>
          rw [same]
          exact .written rfl free content mode
      · exact .kept _

end Changes

section Writing
variable {tree after : Tree} {path base name : String} {content : Bytes}

/-- A file with some content is where the path leads. -/
def Holds (tree : Tree) (path : String) (content : Bytes) : Prop :=
  ∃ mode, tree.node path = .ok (.file content mode)

theorem write_changes (written : tree.write path content = .ok after) :
    Changes (fun _ => False) (after.Leads path) tree after := by
  obtain ⟨_, place, name, mode, found, free, rfl⟩ := write_ok written
  have changes := changes_put_file free content mode
  refine changes.mono (fun _ never _ => never) ?_
  rintro other rfl
  exact (leads_slot found).within changes.within rfl

/-- What a path leads to is kept where no file is written. -/
theorem Changes.node_kept {made written : Place → Prop} {node : Node} (changes : Changes made written tree after)
    (found : tree.node path = .ok node) (unwritten : ∀ place, after.resolve path = .ok place → ¬written place) :
    after.node path = .ok node := by
  obtain ⟨place, resolved, there⟩ := node_iff.mp found
  have again := resolve_within changes.within changes.here resolved
  refine node_iff.mpr ⟨place, again, ?_⟩
  have turned := changes.turned place
  generalize after.at? place = new at turned ⊢
  rw [there] at turned
  cases turned with
  | kept => rfl
  | written here => exact absurd here (unwritten place again)

theorem node_of_readText {text : String} (read : tree.readText path = .ok text) :
    ∃ node, tree.node path = .ok node := by
  cases found : tree.node path with
  | error fault =>
      rw [readText, Tree.read, found] at read
      cases read
  | ok node => exact ⟨node, rfl⟩

theorem Changes.readText_kept {made written : Place → Prop} {text : String}
    (changes : Changes made written tree after) (read : tree.readText path = .ok text)
    (unwritten : ∀ place, after.resolve path = .ok place → ¬written place) : after.readText path = .ok text := by
  obtain ⟨node, found⟩ := node_of_readText read
  rw [readText, Tree.read, found] at read
  rw [readText, Tree.read, changes.node_kept found unwritten]
  exact read

/-- Names are told apart by where paths lead that end in them. -/
theorem leads_join_last {place : Place} (entry : IsEntry name) (leads : tree.Leads (Path.join base name) place) :
    place.getLast? = some name := by
  rw [Leads, Path.names_join base entry.toIsDown entry.single, walk_parts] at leads
  obtain ⟨top, _, step⟩ := leads
  rw [((walk_down entry.toIsDown).mp step).2.2, List.getLast?_concat]

/-- A file keeps what it holds unless something else is written to an entry of its name. -/
theorem Holds.kept {base' other : String} {text : Bytes} (entry : IsEntry name) (beside : IsEntry other)
    (holds : tree.Holds (Path.join base name) content)
    (written : tree.write (Path.join base' other) text = .ok after) (apart : name = other → content = text) :
    after.Holds (Path.join base name) content := by
  obtain ⟨mode, found⟩ := holds
  have changes := write_changes written
  by_cases same : ∃ place, after.resolve (Path.join base name) = .ok place ∧ after.Leads (Path.join base' other) place
  · obtain ⟨place, resolved, leads⟩ := same
    have last := leads_join_last entry (leads_of_resolve resolved)
    cases last.symm.trans (leads_join_last beside leads)
    cases apart rfl
    obtain ⟨mode, stands⟩ := node_written written
    obtain ⟨place', resolved', there⟩ := node_iff.mp stands
    cases leads.symm.trans (leads_of_resolve resolved')
    exact ⟨mode, node_iff.mpr ⟨place, resolved, there⟩⟩
  · exact ⟨mode, changes.node_kept found fun place resolved leads => same ⟨place, resolved, leads⟩⟩

theorem Holds.within_changes {made : Place → Prop} (holds : tree.Holds path content)
    (changes : Changes made (fun _ => False) tree after) : after.Holds path content := by
  obtain ⟨mode, found⟩ := holds
  exact ⟨mode, changes.node_kept found fun _ _ never => never⟩

theorem slot_entry {node : Node} (entry : IsEntry name) (found : tree.node (Path.join base name) = .ok node) :
    ∃ place, tree.slot (Path.join base name) = .ok (place, some name) ∧ tree.at? (place ++ [name]) = some node := by
  obtain ⟨_, resolved, there⟩ := node_iff.mp found
  obtain ⟨⟨names, split⟩, fits, top, walked, above, rfl⟩ := (resolve_down entry.single entry.toIsDown _).mp resolved
  refine ⟨top, ?_, there⟩
  have step : ¬(name.isEmpty || name == "." || name == "..") = true := by
    simp [entry.named, entry.moves, entry.descends]
  simp only [slot, split, pieces_temporary entry.single split, Path.withoutEnd_concat _ _ entry.named,
    List.dropLast_concat, List.getLast?_concat, start_temporary entry.single, bind, Except.bind, walked, above,
    if_neg step, if_neg fits]

/-- What a file holds already can be written to it again, and nothing changes. -/
theorem Holds.write_again (entry : IsEntry name) (holds : tree.Holds (Path.join base name) content) :
    ∃ again, tree.write (Path.join base name) content = .ok again ∧ Same tree again := by
  obtain ⟨mode, found⟩ := holds
  obtain ⟨place, slot, there⟩ := slot_entry entry found
  have unended := Path.join_unended base name entry.single entry.named
  refine ⟨tree.put (place ++ [name]) (.file content mode), ?_, rfl, fun other => ?_⟩
  · simp only [write, slot, unended, bind, Except.bind, there, Bool.false_eq_true, if_false]
  · have same : (tree.put (place ++ [name]) (.file content mode)).at? other = tree.at? other := by
      by_cases here : other = place ++ [name]
      · rw [here, at_put_here, there]
      · rw [at_put_other _ _ here]
    rw [same]
    exact .kept _

end Writing

section Making
variable {tree after : Tree} {path : String}

/-- A directory that is made stands where nothing was. -/
theorem makeDirectory_fresh (made : tree.makeDirectory path = .ok after) :
    ∃ place name, tree.slot path = .ok (place, some name) ∧ tree.at? (place ++ [name]) = none ∧
      after = tree.put (place ++ [name]) .directory := by
  obtain ⟨place, name, found, rfl⟩ := makeDirectory_ok made
  refine ⟨place, name, found, ?_, rfl⟩
  rw [makeDirectory] at made
  simp only [found, bind, Except.bind] at made
  split at made
  · next free => exact free
  · cases made

/-- Empty pieces at the end lead from a directory to itself. -/
theorem walk_blanks {place : Place} {blanks : List String} (empty : ∀ name ∈ blanks, name.isEmpty = true)
    (there : tree.at? place = some .directory) : tree.walk place blanks = .ok place := by
  induction blanks with
  | nil => rfl
  | cons name rest ih =>
      have stays : (name.isEmpty || name == ".") = true := by simp [empty name (.head _)]
      exact walk_step_iff.mpr ⟨there, place, .stay stays, ih fun other later => empty other (.tail _ later)⟩

theorem isDirectory_made (made : tree.makeDirectory path = .ok after) : after.isDirectory path = true := by
  obtain ⟨place, name, found, free, rfl⟩ := makeDirectory_fresh made
  have changes := changes_put_directory free
  have walked := walk_within changes.within _ _ _ (walk_slot found)
  obtain ⟨names, split, _⟩ := slot_named found
  cases (pieces_ok split).2
  obtain ⟨blanks, whole, empty⟩ := Path.withoutEnd_append (Path.pieces path)
  have stands := at_put_here tree place name .directory
  refine (isDirectory_iff _ _).mpr ⟨place ++ [name], resolve_iff.mpr ⟨split, ?_⟩, stands⟩
  rw [whole]
  exact walk_parts.mpr ⟨_, walked, walk_blanks empty stands⟩

/-- A path to a directory has a step for its last name, or a slot in which the directory is. -/
theorem slot_there (there : tree.isDirectory path = true) : ∃ place last, tree.slot path = .ok (place, last) ∧
    ∀ name, last = some name → tree.at? (place ++ [name]) = some .directory := by
  obtain ⟨found, resolved, stands⟩ := (isDirectory_iff _ _).mp there
  obtain ⟨split, walked⟩ := resolve_iff.mp resolved
  obtain ⟨blanks, whole, empty⟩ := Path.withoutEnd_append (Path.pieces path)
  rw [whole] at walked
  obtain ⟨between, front, directory⟩ := walk_front walked stands
  obtain ⟨_, same, rest⟩ := walk_parts.mp walked
  cases front.symm.trans same
  cases (walk_blanks empty directory).symm.trans rest
  simp only [slot, split, bind, Except.bind]
  rcases List.eq_nil_or_concat (Path.withoutEnd (Path.pieces path)) with empty | ⟨above, name, shape⟩
  · rw [empty] at front
    cases front
    simp only [empty, List.dropLast_nil, walk, directory, List.getLast?_nil]
    exact ⟨_, none, rfl, fun _ other => by cases other⟩
  · rw [List.concat_eq_append] at shape
    rw [shape] at front
    obtain ⟨top, walked, step⟩ := walk_parts.mp front
    simp only [shape, List.dropLast_concat, walked, walk_first step, List.getLast?_concat]
    split
    · exact ⟨_, none, rfl, fun _ other => by cases other⟩
    · next down =>
        simp only [Bool.or_eq_true, beq_iff_eq, String.isEmpty_iff, not_or] at down
        obtain ⟨_, fits, rfl⟩ := (walk_down ⟨down.1.1, down.1.2, down.2⟩).mp step
        rw [if_neg fits]
        refine ⟨_, _, rfl, ?_⟩
        rintro other ⟨⟩
        exact directory

/-- Where a directory is, none is made. -/
theorem makeDirectory_there (there : tree.isDirectory path = true) : tree.makeDirectory path = .error .taken := by
  obtain ⟨place, last, found, stands⟩ := slot_there there
  rw [makeDirectory, found]
  cases last with
  | none => rfl
  | some name => simp only [bind, Except.bind, stands name rfl]

/-- Makes a directory, unless there is one. -/
def settle (tree : Tree) (path : String) : Except Fault Unit × Tree :=
  match tree.makeDirectory path with
  | .ok made => (.ok (), made)
  | .error fault => (if tree.isDirectory path then .ok () else .error fault, tree)

theorem settle_cases (tree : Tree) (path : String) :
    (∃ made, tree.makeDirectory path = .ok made ∧ tree.settle path = (.ok (), made)) ∨
      (tree.settle path).2 = tree ∧ ((tree.settle path).1 = .ok () → tree.isDirectory path = true) := by
  rw [settle]
  cases tree.makeDirectory path with
  | ok made => exact .inl ⟨made, rfl, rfl⟩
  | error fault =>
      refine .inr ⟨rfl, fun done => ?_⟩
      by_contra absent
      simp [absent] at done

theorem settle_isDirectory (done : tree.settle path = (.ok (), after)) : after.isDirectory path = true := by
  rcases settle_cases tree path with ⟨made, fresh, ended⟩ | ⟨same, there⟩
  · cases ended.symm.trans done
    exact isDirectory_made fresh
  · rw [done] at same there
    cases same
    exact there rfl

theorem settle_there (there : tree.isDirectory path = true) : tree.settle path = (.ok (), tree) := by
  rw [settle, makeDirectory_there there]
  exact Prod.ext (if_pos there) rfl

variable {absolute : Bool} {list : List String}

theorem walk_ofNames {place : Place} {name : String} (nonempty : list ≠ [])
    (named : ∀ name ∈ list, Path.IsName name)
    (found : tree.slot (Path.ofNames absolute list) = .ok (place, some name)) :
    tree.walk (tree.origin absolute) list = .ok (place ++ [name]) := by
  have walked := walk_slot found
  obtain ⟨front, last, shape⟩ := (List.eq_nil_or_concat list).resolve_left nonempty
  rw [List.concat_eq_append] at shape
  have ends : last ≠ "" := (named last (by simp [shape])).named
  rw [Path.pieces_ofNames nonempty named, shape, ← List.append_assoc, Path.withoutEnd_concat _ _ ends,
    List.append_assoc, ← shape, start, Path.isAbsolute_ofNames nonempty named] at walked
  cases absolute with
  | false => exact walked
  | true => exact walk_stays (by simp) walked

theorem settle_changes (nonempty : list ≠ []) (named : ∀ name ∈ list, Path.IsName name) {answer : Except Fault Unit}
    (ended : tree.settle (Path.ofNames absolute list) = (answer, after)) :
    Changes (after.Fronts absolute list) (fun _ => False) tree after := by
  rcases settle_cases tree (Path.ofNames absolute list) with ⟨made, fresh, done⟩ | ⟨same, _⟩
  · cases done.symm.trans ended
    obtain ⟨place, name, found, free, rfl⟩ := makeDirectory_fresh fresh
    have changes := changes_put_directory free
    refine changes.mono ?_ fun _ never => never
    rintro other rfl _
    exact ⟨list, List.prefix_rfl, walk_within changes.within _ _ _ (walk_ofNames nonempty named found)⟩
  · rw [ended] at same
    cases same
    exact .refl _

theorem makeAll_cons (tree : Tree) (absolute : Bool) (name : String) (above : List String) :
    let path := Path.ofNames absolute (name :: above).reverse
    tree.makeAll absolute (name :: above) = tree.settle path ∨
      (∃ made, tree.makeAll absolute above = (.ok (), made) ∧
        tree.makeAll absolute (name :: above) = made.settle path) ∨
      ∃ fault made, tree.makeAll absolute above = (.error fault, made) ∧
        tree.makeAll absolute (name :: above) = (.error fault, made) := by
  intro path
  rw [makeAll]
  split
  · rcases tree.makeAll absolute above with ⟨fault | ⟨⟩, made⟩
    · exact .inr (.inr ⟨fault, made, rfl, rfl⟩)
    · exact .inr (.inl ⟨made, rfl, rfl⟩)
  · exact .inl rfl

theorem makeAll_changes (named : ∀ name ∈ list, Path.IsName name) {answer : Except Fault Unit}
    (ended : tree.makeAll absolute list = (answer, after)) :
    Changes (after.Fronts absolute list.reverse) (fun _ => False) tree after := by
  induction list generalizing answer after with
  | nil =>
      cases ended
      exact .refl _
  | cons name above ih =>
      have some : (name :: above).reverse ≠ [] := by simp
      have all : ∀ other ∈ (name :: above).reverse, Path.IsName other := fun other member =>
        named other (List.mem_reverse.mp member)
      have longer : above.reverse <+: (name :: above).reverse := by simp
      have rest : ∀ other ∈ above, Path.IsName other := fun other later => named other (.tail _ later)
      rcases makeAll_cons tree absolute name above with same | ⟨made, below, same⟩ | ⟨fault, made, below, same⟩
      · exact settle_changes some all (same.symm.trans ended)
      · have last := settle_changes some all (same.symm.trans ended)
        refine ((ih rest below).mono (fun place fronts _ => ?_) fun _ never => never).trans last
        obtain ⟨front, starts, walked⟩ := fronts.within last.within last.here
        exact ⟨front, starts.trans longer, walked⟩
      · cases same.symm.trans ended
        refine (ih rest below).mono (fun place fronts _ => ?_) fun _ never => never
        obtain ⟨front, starts, walked⟩ := fronts
        exact ⟨front, starts.trans longer, walked⟩

/-- Names lead to a directory, if there are any. -/
def Stands (tree : Tree) (absolute : Bool) (list : List String) : Prop :=
  list = [] ∨ tree.isDirectory (Path.ofNames absolute list) = true

theorem Stands.within {more : Tree} (within : Within tree more) (here : tree.here = more.here)
    (stands : tree.Stands absolute list) : more.Stands absolute list :=
  stands.imp_right (isDirectory_within within here _)

theorem makeAll_stands (ended : tree.makeAll absolute list = (.ok (), after)) : after.Stands absolute list.reverse := by
  cases list with
  | nil => exact .inl rfl
  | cons name above =>
      rcases makeAll_cons tree absolute name above with same | ⟨made, _, same⟩ | ⟨fault, made, _, same⟩
      · exact .inr (settle_isDirectory (same.symm.trans ended))
      · exact .inr (settle_isDirectory (same.symm.trans ended))
      · cases same.symm.trans ended

theorem makeAll_again (stands : tree.Stands absolute list.reverse) : tree.makeAll absolute list = (.ok (), tree) := by
  cases list with
  | nil => rfl
  | cons name above =>
      have there := stands.resolve_left (by simp)
      rw [makeAll, makeDirectory_there there]
      exact settle_there there

theorem makeDirectories_changes {answer : Except Fault Unit} (ended : tree.makeDirectories path = (answer, after)) :
    Changes (after.LeadsAbove path) (fun _ => False) tree after := by
  have changes := makeAll_changes (fun name member => Path.names_named (List.mem_reverse.mp member)) ended
  rw [List.reverse_reverse] at changes
  exact changes

theorem makeDirectories_stands (ended : tree.makeDirectories path = (.ok (), after)) :
    after.Stands (Path.isAbsolute path) (Path.names path) := by
  have stands := makeAll_stands ended
  rwa [List.reverse_reverse] at stands

/-- Where the directories are, making them changes nothing. -/
theorem makeDirectories_again (stands : tree.Stands (Path.isAbsolute path) (Path.names path)) :
    tree.makeDirectories path = (.ok (), tree) := by
  rw [← List.reverse_reverse (Path.names path)] at stands
  exact makeAll_again stands

end Making

end Tree
end SnippetRunner.Files

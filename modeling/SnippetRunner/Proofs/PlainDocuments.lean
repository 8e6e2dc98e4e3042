import Mathlib.Data.List.Nodup
import SnippetRunner.Settings.Document

/-!
Documents without key paths. A TOML document names nothing twice in a table, however the table was put together; so
where no name at the top is a path, what is read from the document is its own table.
-/

namespace SnippetRunner.Settings

section Tables

namespace Fields

def names (fields : Fields) : List String :=
  fields.map Prod.fst

variable {fields : Fields} {name : String}

theorem get_none_iff : fields.get? name = none ↔ name ∉ fields.names := by
  simp only [get?, names, Option.map_eq_none_iff, List.find?_eq_none, beq_iff_eq, List.mem_map, not_exists, not_and]

theorem put_fresh (fresh : name ∉ fields.names) (value : Value) :
    fields.put name value = fields ++ [(name, value)] := by
  induction fields with
  | nil => rfl
  | cons field rest ih =>
      rw [names, List.map_cons, List.mem_cons, not_or] at fresh
      rw [put, if_neg (by simpa using Ne.symm fresh.1), ih fresh.2]
      rfl

theorem names_put (there : name ∈ fields.names) (value : Value) : (fields.put name value).names = fields.names := by
  induction fields with
  | nil => cases there
  | cons field rest ih =>
      rw [put]
      split
      · next same => rw [names, names, List.map_cons, List.map_cons, beq_iff_eq.mp same]
      · next other =>
          have later : name ∈ names rest :=
            (List.mem_cons.mp there).resolve_left fun same => other (beq_iff_eq.mpr same.symm)
          exact congrArg (List.cons field.1) (ih later)

theorem distinct_put (distinct : fields.names.Nodup) (name : String) (value : Value) :
    (fields.put name value).names.Nodup := by
  by_cases there : name ∈ fields.names
  · rw [names_put there]
    exact distinct
  · rw [put_fresh there, names, List.map_append, List.nodup_append]
    refine ⟨distinct, List.nodup_singleton _, ?_⟩
    rintro one member other alone rfl
    cases List.mem_singleton.mp alone
    exact there member

theorem mem_put {value : Value} {field : String × Value} (member : field ∈ fields.put name value) :
    field = (name, value) ∨ field ∈ fields := by
  induction fields with
  | nil => exact .inl (List.mem_singleton.mp member)
  | cons first rest ih =>
      rw [put] at member
      split at member
      · exact (List.mem_cons.mp member).imp id (List.mem_cons_of_mem first)
      · rcases List.mem_cons.mp member with rfl | later
        · exact .inr List.mem_cons_self
        · exact (ih later).imp id (List.mem_cons_of_mem first)

end Fields

def isTable : Value → Bool
  | .table _ => true
  | _ => false

/-- No table in the value names anything twice; what stands in arrays is not looked at. -/
inductive Single : Value → Prop where
  | table (fields : Fields) (distinct : fields.names.Nodup) (each : ∀ field ∈ fields, Single field.2) :
      Single (.table fields)
  | other (value : Value) (leaf : isTable value = false) : Single value

theorem Single.put {fields : Fields} {value : Value} (single : Single (.table fields)) (name : String)
    (inner : Single value) : Single (.table (fields.put name value)) := by
  cases single with
  | other _ leaf => exact Bool.noConfusion leaf
  | table _ distinct each =>
      refine .table _ ?_ fun field member => ?_
      · exact Fields.distinct_put distinct name value
      · rcases Fields.mem_put member with rfl | old
        · exact inner
        · exact each field old

theorem Single.of_get {fields : Fields} {name : String} {value : Value} (single : Single (.table fields))
    (there : fields.get? name = some value) : Single value := by
  cases single with
  | other _ leaf => exact Bool.noConfusion leaf
  | table _ distinct each =>
      obtain ⟨field, found, rfl⟩ := Option.map_eq_some_iff.mp there
      exact each field (List.mem_of_find?_eq_some found)

end Tables

section Merging

theorem fresh_of_distinct {done rest : Fields} {name : String} {value : Value}
    (distinct : (Fields.names (done ++ (name, value) :: rest)).Nodup) : name ∉ Fields.names done := by
  rw [Fields.names, List.map_append, List.map_cons] at distinct
  exact fun member => (List.nodup_append.mp distinct).2.2 _ member _ List.mem_cons_self rfl

theorem mergeFields_fresh {fields : Fields} (same : ∀ field ∈ fields, merge .null field.2 = field.2) (done : Fields)
    (distinct : (Fields.names (done ++ fields)).Nodup) :
    mergeFields (.table done) fields = .table (done ++ fields) := by
  induction fields generalizing done with
  | nil => rw [mergeFields, List.append_nil]
  | cons field rest ih =>
      obtain ⟨name, value⟩ := field
      obtain ⟨here, later⟩ := List.forall_mem_cons.mp same
      have fresh := fresh_of_distinct distinct
      rw [List.append_cons] at distinct ⊢
      rw [mergeFields, fieldsOf, Fields.get_none_iff.mpr fresh, Option.getD_none, here, Fields.put_fresh fresh]
      exact ih later _ distinct

theorem Single.merge_null {value : Value} (single : Single value) : merge .null value = value := by
  induction single with
  | table fields distinct each ih =>
      rw [merge]
      exact mergeFields_fresh ih [] distinct
  | other value leaf =>
      cases value with
      | table fields => exact Bool.noConfusion leaf
      | _ => rfl

/-- The name says no other place than its own. -/
def IsPlain (name : String) : Prop :=
  KeyPath.ofKey? name = none ∨ KeyPath.ofKey? name = some [.name name]

theorem change_name (f : Value → Value) (name : String) (root : Fields) :
    change f [.name name] (.table root) = .table (root.put name (f ((root.get? name).getD .null))) :=
  rfl

theorem place_plain {fields : Fields} (single : Single (.table fields)) (plain : ∀ field ∈ fields, IsPlain field.1) :
    place fields = .table fields := by
  -- the fields placed so far stand in their order, and none of them has a name that is still to come
  have placed (done rest : Fields) (each : ∀ field ∈ rest, IsPlain field.1 ∧ Single field.2)
      (distinct : (Fields.names (done ++ rest)).Nodup) :
      rest.foldl (fun root field =>
        change (fun old => merge old field.2) ((KeyPath.ofKey? field.1).getD [.name field.1]) root) (.table done) =
      .table (done ++ rest) := by
    induction rest generalizing done with
    | nil => rw [List.foldl_nil, List.append_nil]
    | cons field rest ih =>
        obtain ⟨name, value⟩ := field
        obtain ⟨⟨alone, inner⟩, later⟩ := List.forall_mem_cons.mp each
        have steps : (KeyPath.ofKey? name).getD [.name name] = [.name name] := by
          rcases alone with none | self
          · rw [none, Option.getD_none]
          · rw [self, Option.getD_some]
        have fresh := fresh_of_distinct distinct
        rw [List.append_cons] at distinct ⊢
        rw [List.foldl_cons, steps, change_name, Fields.get_none_iff.mpr fresh, Option.getD_none, inner.merge_null,
          Fields.put_fresh fresh]
        exact ih _ later distinct
  cases single with
  | other _ leaf => exact Bool.noConfusion leaf
  | table _ distinct each =>
      exact placed [] fields (fun field member => ⟨plain field member, each field member⟩) distinct

end Merging

namespace Toml

section Reading
variable {entries after : Entries} {name : String} {node : Node} {value : Value} {path : List String}

theorem toFields_put (entries : Entries) (name : String) (node : Node) :
    toFields (entries.put name node) = Fields.put name node.toValue (toFields entries) := by
  induction entries with
  | nil => rfl
  | cons entry rest ih =>
      obtain ⟨other, held⟩ := entry
      rw [Entries.put, toFields, Fields.put]
      split
      · rfl
      · rw [toFields, ih]

theorem toFields_get (entries : Entries) (name : String) :
    Fields.get? name (toFields entries) = (entries.get? name).map Node.toValue := by
  induction entries with
  | nil => rfl
  | cons entry rest ih =>
      obtain ⟨other, held⟩ := entry
      rw [Fields.get?, Entries.get?] at ih ⊢
      rw [toFields, List.find?_cons, List.find?_cons]
      cases other == name with
      | true => rfl
      | false => exact ih

/-- No table that the entries are of names anything twice. -/
def SingleEntries (entries : Entries) : Prop :=
  Single (.table (toFields entries))

theorem singleEntries_nil : SingleEntries [] :=
  .table [] List.nodup_nil (List.forall_mem_nil _)

theorem SingleEntries.put (single : SingleEntries entries) (name : String) (inner : Single node.toValue) :
    SingleEntries (entries.put name node) := by
  rw [SingleEntries, toFields_put]
  exact Single.put single name inner

theorem SingleEntries.of_get (single : SingleEntries entries) (there : entries.get? name = some node) :
    Single node.toValue := by
  have found : Fields.get? name (toFields entries) = some node.toValue := by
    rw [toFields_get, there, Option.map_some]
  exact Single.of_get single found

theorem single_tables (newest : Entries) (older : List Entries) : Single (Node.tables newest older).toValue :=
  .other _ rfl

theorem assign_single (single : SingleEntries entries) (inner : Single value)
    (assigned : entries.assign name value path = some after) : SingleEntries after := by
  induction path generalizing entries after with
  | nil =>
      rw [Entries.assign] at assigned
      split at assigned
      · cases assigned
      · cases assigned
        exact single.put name inner
  | cons step path ih =>
      rw [Entries.assign] at assigned
      split at assigned
      · obtain ⟨below, made, rfl⟩ := Option.map_eq_some_iff.mp assigned
        exact single.put step (ih singleEntries_nil made)
      · next origin held there =>
          split at assigned
          · cases assigned
          · obtain ⟨below, made, rfl⟩ := Option.map_eq_some_iff.mp assigned
            exact single.put step (ih (single.of_get there) made)
      · split at assigned
        · cases assigned
        · obtain ⟨below, made, rfl⟩ := Option.map_eq_some_iff.mp assigned
          exact single.put step (single_tables _ _)
      · cases assigned

theorem at_single (change : Entries → Option Entries)
    (keeps : ∀ entries after, SingleEntries entries → change entries = some after → SingleEntries after)
    (single : SingleEntries entries) (changed : entries.at? change path = some after) : SingleEntries after := by
  induction path generalizing entries after with
  | nil => exact keeps entries after single changed
  | cons step path ih =>
      rw [Entries.at?] at changed
      split at changed
      · obtain ⟨below, made, rfl⟩ := Option.map_eq_some_iff.mp changed
        exact single.put step (ih singleEntries_nil made)
      · next there =>
          obtain ⟨below, made, rfl⟩ := Option.map_eq_some_iff.mp changed
          exact single.put step (ih (single.of_get there) made)
      · obtain ⟨below, made, rfl⟩ := Option.map_eq_some_iff.mp changed
        exact single.put step (single_tables _ _)
      · cases changed

theorem openTable_single (single : SingleEntries entries) (opened : entries.openTable name = some after) :
    SingleEntries after := by
  rw [Entries.openTable] at opened
  split at opened
  · cases opened
    exact single.put name singleEntries_nil
  · next there =>
      cases opened
      have inner := single.of_get there
      exact single.put name inner
  · cases opened

theorem pushTable_single (single : SingleEntries entries) (pushed : entries.pushTable name = some after) :
    SingleEntries after := by
  rw [Entries.pushTable] at pushed
  split at pushed
  · cases pushed
    exact single.put name (single_tables _ _)
  · cases pushed
    exact single.put name (single_tables _ _)
  · cases pushed

end Reading

section Values

theorem inRange_leaf {n : Int} {value : Value} (read : inRange n = some value) : isTable value = false := by
  rw [inRange] at read
  split at read
  · cases read
    rfl
  · cases read

theorem based_leaf {word : List Char} {value : Value} (read : based? word = some value) : isTable value = false := by
  rw [based?.eq_def] at read
  split at read
  · obtain ⟨n, -, fits⟩ := Option.bind_eq_some_iff.mp read
    exact inRange_leaf fits
  · cases read

theorem integer_leaf {word : List Char} {value : Value} (read : integer? word = some value) :
    isTable value = false := by
  obtain ⟨digits, -, fits⟩ := Option.bind_eq_some_iff.mp read
  exact inRange_leaf fits

theorem finite_leaf {number : Binary64} {value : Value}
    (read : (if number.isInfinite then none else some (Value.float number)) = some value) : isTable value = false := by
  split at read
  · cases read
  · cases read
    rfl

theorem float_leaf {word : List Char} {value : Value} (read : float? word = some value) : isTable value = false := by
  rw [float?] at read
  dsimp only at read
  split at read
  · cases read
    rfl
  · split at read
    · cases read
      rfl
    · obtain ⟨exponent, -, read⟩ := Option.bind_eq_some_iff.mp read
      obtain ⟨whole, -, read⟩ := Option.bind_eq_some_iff.mp read
      split at read
      · split at read
        · cases read
        · exact finite_leaf read
      · obtain ⟨fraction, -, read⟩ := Option.bind_eq_some_iff.mp read
        exact finite_leaf read

theorem word_leaf {word : List Char} {value : Value} (read : word? word = some value) : isTable value = false := by
  rw [word?] at read
  split at read
  · cases read
    rfl
  · split at read
    · cases read
      rfl
    · obtain ⟨reader, member, found⟩ := List.exists_of_findSome?_eq_some read
      simp only [List.mem_cons, List.not_mem_nil, or_false] at member
      rcases member with rfl | rfl | rfl | rfl
      · exact based_leaf found
      · exact integer_leaf found
      · exact float_leaf found
      · obtain ⟨text, -, rfl⟩ := Option.map_eq_some_iff.mp found
        rfl

theorem scalar_leaf {text : List Char} {value : Value} {size : Nat} (read : scalar? text = some (value, size)) :
    isTable value = false := by
  cases text with
  | nil => cases read
  | cons c rest =>
      rw [scalar?] at read
      by_cases quote : (c == '"' || c == '\'') = true
      · rw [if_pos quote] at read
        cases block : many? c (c :: rest) with
        | some found =>
            rw [block] at read
            cases read
            rfl
        | none =>
            rw [block] at read
            by_cases broken : [c, c, c].isPrefixOf (c :: rest) = true
            · rw [if_pos broken] at read
              cases read
            · rw [if_neg broken] at read
              obtain ⟨found, -, same⟩ := Option.map_eq_some_iff.mp read
              cases same
              rfl
      · rw [if_neg quote] at read
        obtain ⟨word, found, same⟩ := Option.map_eq_some_iff.mp read
        cases same
        exact word_leaf found

/-- What is open holds no table that names anything twice. -/
def SingleFrame : Frame → Prop
  | .inline entries _ _ => SingleEntries entries
  | .array _ => True

def SingleExpected : Expected → Prop
  | .field entries => SingleEntries entries
  | .after value => Single value
  | .value | .item _ => True

theorem valueFrom_single {opened : List Frame} {expected : Expected} {count : Nat} {text : List Char} {value : Value}
    {size : Nat} (frames : ∀ frame ∈ opened, SingleFrame frame) (sound : SingleExpected expected)
    (read : valueFrom opened expected count text = some (value, size)) : Single value := by
  have array (items : List Value) : Single (.array items) := .other _ rfl
  -- by the reader's own cases: what is open is handed on, and only an inline table grows, by one assignment at a time
  fun_induction valueFrom opened expected count text with
  | case2 _ _ _ _ ih => exact ih frames trivial read
  | case4 _ _ _ _ ih => exact ih frames singleEntries_nil read
  | case6 _ _ _ _ _ _ _ _ scalar ih =>
      rw [scalar] at read
      exact ih frames (.other _ (scalar_leaf scalar)) read
  | case5 _ _ _ _ _ _ scalar =>
      rw [scalar] at read
      cases read
  | case8 _ _ _ _ _ _ _ ih => exact ih frames (array _) (by simpa using read)
  | case10 _ _ _ done _ _ _ _ ih => exact ih (List.forall_mem_cons.mpr ⟨trivial, frames⟩) trivial read
  | case12 _ _ _ done _ _ _ _ ih => exact ih (List.forall_mem_cons.mpr ⟨trivial, frames⟩) singleEntries_nil read
  | case14 _ _ _ done _ _ _ _ _ _ _ _ _ scalar ih =>
      exact ih (List.forall_mem_cons.mpr ⟨trivial, frames⟩) (.other _ (scalar_leaf scalar)) read
  | case16 _ _ _ entries _ _ _ ih => exact ih frames sound read
  | case18 _ _ _ entries _ _ _ _ _ path name _ _ ih => exact ih (List.forall_mem_cons.mpr ⟨sound, frames⟩) trivial read
  | case20 =>
      cases read
      exact sound
  | case21 _ _ _ _ _ _ _ _ ih => exact ih (List.forall_mem_cons.mp frames).2 trivial read
  | case22 _ _ _ _ _ _ _ _ ih => exact ih (List.forall_mem_cons.mp frames).2 (array _) read
  | case25 _ _ _ entries path name _ _ after assigned _ _ ih =>
      obtain ⟨inner, outer⟩ := List.forall_mem_cons.mp frames
      exact ih outer (assign_single inner sound assigned) read
  | case26 _ _ _ entries path name _ _ after assigned _ _ ih =>
      obtain ⟨inner, outer⟩ := List.forall_mem_cons.mp frames
      exact ih outer (assign_single inner sound assigned) read
  | _ => cases read

end Values

section Documents
variable {text : List Char} {document after : Document}

theorem documentFrom_line {rest : List Char} {c : Char} {line : Line} {count : Nat}
    (begins : text.drop (spaced text) = c :: rest) (read : line? (c :: rest) = some (line, count))
    (added : document.add line = some after) :
    documentFrom document text = documentFrom after (rest.drop (count - 1)) := by
  rw [documentFrom]
  split
  · next ends => cases ends.symm.trans begins
  · next here =>
      cases here.symm.trans begins
      rw [read]
      dsimp only
      rw [added]

theorem documentFrom_end (ends : text.drop (spaced text) = []) : documentFrom document text = some document := by
  rw [documentFrom]
  split
  · rfl
  · next begins => cases ends.symm.trans begins

theorem value_single {value : Value} {size : Nat} (read : value? text = some (value, size)) : Single value :=
  valueFrom_single (List.forall_mem_nil _) (show SingleExpected .value from trivial) read

def SingleLine : Line → Prop
  | .entry _ _ value => Single value
  | .table _ _ | .row _ _ => True

theorem line_single {line : Line} {count : Nat} (read : line? text = some (line, count)) : SingleLine line := by
  rw [line?] at read
  split at read
  · cases read
  · next body =>
      obtain ⟨ending, -, same⟩ := Option.map_eq_some_iff.mp read
      cases same
      rw [lineBody?.eq_def] at body
      split at body
      · obtain ⟨header, -, same⟩ := Option.map_eq_some_iff.mp body
        cases same
        trivial
      · obtain ⟨header, -, same⟩ := Option.map_eq_some_iff.mp body
        cases same
        trivial
      · split at body
        · cases body
        · obtain ⟨⟨value, size⟩, found, same⟩ := Option.map_eq_some_iff.mp body
          cases same
          exact value_single found

theorem add_single {line : Line} (single : SingleEntries document.root) (sound : SingleLine line)
    (added : document.add line = some after) : SingleEntries after.root := by
  cases line with
  | entry path name value =>
      obtain ⟨root, made, rfl⟩ := Option.map_eq_some_iff.mp added
      exact at_single _ (fun _ _ before assigned => assign_single before sound assigned) single made
  | table path name =>
      obtain ⟨root, made, rfl⟩ := Option.map_eq_some_iff.mp added
      exact at_single _ (fun _ _ before opened => openTable_single before opened) single made
  | row path name =>
      obtain ⟨root, made, rfl⟩ := Option.map_eq_some_iff.mp added
      exact at_single _ (fun _ _ before pushed => pushTable_single before pushed) single made

theorem documentFrom_single (single : SingleEntries document.root) (read : documentFrom document text = some after) :
    SingleEntries after.root := by
  fun_induction documentFrom document text with
  | case1 =>
      cases read
      exact single
  | case4 _ _ _ _ _ _ _ line _ added ih => exact ih (add_single single (line_single line) added) read
  | _ => cases read

theorem read_single {fields : Fields} (read : read? text = some fields) : Single (.table fields) := by
  obtain ⟨document, made, rfl⟩ := Option.map_eq_some_iff.mp read
  exact documentFrom_single singleEntries_nil made

end Documents
end Toml

/-- Without key paths at its top, a TOML document is what is read from it. -/
theorem place_read {text : List Char} {fields : Fields} (read : Toml.read? text = some fields)
    (plain : ∀ field ∈ fields, IsPlain field.1) : place fields = .table fields :=
  place_plain (Toml.read_single read) plain

end SnippetRunner.Settings

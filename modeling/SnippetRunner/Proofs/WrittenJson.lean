import Mathlib.Data.List.Basic
import SnippetRunner.Json.Reader
import SnippetRunner.Json.Writer

/-!
Reading what was written. A text spells tokens if it is read as them whatever follows, and tokens mean a value if
they are read as it wherever one is expected; both go together piece by piece, and so strings and objects come
back as they were.
-/

namespace SnippetRunner.Json

section Characters
variable (done rest : List Char) (count : Nat)

theorem hexValue_hexDigit (n : Nat) (small : n < 16) : hexValue? (hexDigit n) = some n := by
  revert n
  decide

theorem stringFrom_end : stringFrom (some done) count ('"' :: rest) =
    some (some (String.ofList done.reverse), count + 1) := by
  rw [stringFrom]
  simp

theorem stringFrom_plain (c : Char) (open_ : c ≠ '"') (solid : c ≠ '\\') (printable : ¬ c.toNat < 0x20) :
    stringFrom (some done) count (c :: rest) = stringFrom (some (c :: done)) (count + 1) rest := by
  rw [stringFrom]
  simp [open_, solid, printable]

theorem stringFrom_escape (c : Char) (escaped : List Char)
    (named : escape? (escaped ++ rest) = some (some c, escaped.length)) :
    stringFrom (some done) count ('\\' :: (escaped ++ rest)) =
      stringFrom (some (c :: done)) (count + 1 + escaped.length) rest := by
  rw [stringFrom]
  simp [named]

/-- A control is written by its number. -/
theorem escape_number (c : Char) (control : c.toNat < 0x20) :
    escape? (['u', '0', '0', hexDigit (c.toNat / 16), hexDigit (c.toNat % 16)] ++ rest) = some (some c, 5) := by
  have first := hexValue_hexDigit (c.toNat / 16) (by omega)
  have second := hexValue_hexDigit (c.toNat % 16) (by omega)
  have unit : unit? ('0' :: '0' :: hexDigit (c.toNat / 16) :: hexDigit (c.toNat % 16) :: rest) = some c.toNat := by
    have zero : hexValue? '0' = some 0 := by decide
    have whole : ((0 * 16 + 0) * 16 + c.toNat / 16) * 16 + c.toNat % 16 = c.toNat := by omega
    simp only [unit?, zero, first, second, Option.bind_eq_bind, Option.bind_some, whole, Option.pure_def]
  have high : isHigh c.toNat = false := by simp [isHigh]; omega
  have low : isLow c.toNat = false := by simp [isLow]; omega
  simp [escape?, unit, high, low, Char.ofNat_toNat]

theorem stringFrom_char (c : Char) : stringFrom (some done) count (writeChar c ++ rest) =
    stringFrom (some (c :: done)) (count + (writeChar c).length) rest := by
  have escape (escaped : List Char) (named : escape? (escaped ++ rest) = some (some c, escaped.length)) :
      stringFrom (some done) count (('\\' :: escaped) ++ rest) =
        stringFrom (some (c :: done)) (count + ('\\' :: escaped).length) rest := by
    rw [List.cons_append, stringFrom_escape done rest count c escaped named, List.length_cons]
    congr 1
    omega
  unfold writeChar
  split
  · next special =>
      refine escape [c] ?_
      rcases Bool.or_eq_true_iff.mp special with same | same <;> cases beq_iff_eq.mp same <;> rfl
  · next ordinary =>
      simp only [Bool.or_eq_true, beq_iff_eq, not_or] at ordinary
      split
      · next same =>
          cases beq_iff_eq.mp same
          exact escape ['n'] rfl
      split
      · next same =>
          cases beq_iff_eq.mp same
          exact escape ['r'] rfl
      split
      · next same =>
          cases beq_iff_eq.mp same
          exact escape ['t'] rfl
      split
      · next same =>
          have number : c = Char.ofNat 8 := (Char.ofNat_toNat c).symm.trans (congrArg Char.ofNat (beq_iff_eq.mp same))
          cases number
          exact escape ['b'] rfl
      split
      · next same =>
          have number : c = Char.ofNat 12 := (Char.ofNat_toNat c).symm.trans (congrArg Char.ofNat (beq_iff_eq.mp same))
          cases number
          exact escape ['f'] rfl
      split
      · next control => exact escape _ (escape_number rest c control)
      · next printable => exact stringFrom_plain done rest count c ordinary.1 ordinary.2 printable

theorem stringFrom_text (text : List Char) :
    stringFrom (some done) count (text.flatMap writeChar ++ '"' :: rest) =
      some (some (String.ofList (done.reverse ++ text)), count + (text.flatMap writeChar).length + 1) := by
  induction text generalizing done count with
  | nil => simp [stringFrom_end]
  | cons c more ih =>
      rw [List.flatMap_cons, List.append_assoc, stringFrom_char, ih]
      simp only [List.reverse_cons, List.append_assoc, List.singleton_append, List.length_append, Nat.add_assoc]

end Characters

section Spelling

/-- The text is read as these tokens, whatever follows. -/
def Spells (text : List Char) (tokens : List Token) : Prop :=
  ∀ done rest, tokensFrom done (text ++ rest) = tokensFrom (tokens.reverse ++ done) rest

theorem Spells.append {first second : List Char} {front back : List Token} (one : Spells first front)
    (other : Spells second back) : Spells (first ++ second) (front ++ back) := by
  intro done rest
  rw [List.append_assoc, one, other, List.reverse_append, List.append_assoc]

theorem spells_token (c : Char) (more : List Char) (token : Token) (solid : isGap c = false)
    (read : ∀ rest, token? (c :: more ++ rest) = some (token, more.length + 1)) :
    Spells (c :: more) [token] := by
  intro done rest
  rw [List.cons_append, tokensFrom]
  simp only [solid, Bool.false_eq_true, if_false]
  rw [← List.cons_append, read]
  simp

theorem spells_feed : Spells ['\n'] [] := by
  intro done rest
  rw [List.singleton_append, tokensFrom]
  rfl

theorem spells_text (text : List Char) : Spells (writeText text) [.string (some (String.ofList text))] := by
  refine spells_token '"' (text.flatMap writeChar ++ ['"']) _ rfl fun rest => ?_
  have quote : ('"' == '"') = true := rfl
  have read := stringFrom_text [] rest 1 text
  simp only [List.reverse_nil, List.nil_append] at read
  simp [token?, read]
  omega

theorem spells_string (text : String) : Spells (writeString text).toList [.string (some text)] := by
  have spelled := spells_text text.toList
  rw [String.ofList_toList] at spelled
  rwa [writeString, String.toList_ofList]

end Spelling

section Meaning

/-- The tokens are read as this value wherever a value is expected. -/
def Means (tokens : List Token) (value : Value) : Prop :=
  ∀ opened first rest, valuesFrom opened (.value first) (tokens ++ rest) = valuesFrom opened (.after value) rest

theorem means_string (text : Option String) : Means [.string text] (.string text) := by
  intro opened first rest
  rw [List.singleton_append, valuesFrom]

end Meaning

section Values

/-- The text tells a value: it spells tokens that mean it. -/
def Tells (text : List Char) (value : Value) : Prop :=
  ∃ tokens, Spells text tokens ∧ Means tokens value

/-- The text tells the fields of an object, without its braces. -/
def TellsFields (text : List Char) (fields : List (Option String × Value)) : Prop :=
  ∃ tokens, Spells text tokens ∧ ∀ opened first done rest,
    valuesFrom opened (.key first done) (tokens ++ .closesObject :: rest) =
      valuesFrom opened (.after (.object (done.reverse ++ fields))) rest

theorem tells_string (text : String) : Tells (writeString text).toList (.string (some text)) :=
  ⟨_, spells_string text, means_string (some text)⟩

theorem spells_field {text : List Char} {tokens : List Token} (name : String) (spelled : Spells text tokens) :
    Spells ((writeString name).toList ++ ':' :: text) (.string (some name) :: .colon :: tokens) := by
  have colon : Spells [':'] [.colon] := spells_token ':' [] .colon rfl fun rest => rfl
  exact (spells_string name).append (colon.append spelled)

theorem tellsFields_last {text : List Char} {value : Value} (name : String) (told : Tells text value) :
    TellsFields ((writeString name).toList ++ ':' :: text) [(some name, value)] := by
  obtain ⟨tokens, spelled, meant⟩ := told
  refine ⟨_, spells_field name spelled, fun opened first done rest => ?_⟩
  rw [List.cons_append, List.cons_append, valuesFrom, meant, valuesFrom, List.reverse_cons]

theorem tellsFields_more {text more : List Char} {value : Value} {fields : List (Option String × Value)}
    (name : String) (told : Tells text value) (others : TellsFields more fields) :
    TellsFields ((writeString name).toList ++ ':' :: text ++ ',' :: more) ((some name, value) :: fields) := by
  obtain ⟨tokens, spelled, meant⟩ := told
  obtain ⟨later, spelledLater, meantLater⟩ := others
  have comma : Spells [','] [.comma] := spells_token ',' [] .comma rfl fun rest => rfl
  refine ⟨_, (spells_field name spelled).append (comma.append spelledLater), fun opened first done rest => ?_⟩
  simp only [List.cons_append, List.append_assoc, List.nil_append]
  rw [valuesFrom, meant, valuesFrom, meantLater]
  simp

theorem tellsFields_joined (fields : List (String × String × Value)) (nonempty : fields ≠ [])
    (each : ∀ field ∈ fields, Tells field.2.1.toList field.2.2) :
    TellsFields ([','].intercalate (fields.map fun field => (writeString field.1).toList ++ ':' :: field.2.1.toList))
      (fields.map fun field => (some field.1, field.2.2)) := by
  induction fields with
  | nil => exact absurd rfl nonempty
  | cons field rest ih =>
      have told := each field List.mem_cons_self
      cases rest with
      | nil =>
          rw [List.map_singleton, List.map_singleton, List.intercalate_singleton]
          exact tellsFields_last field.1 told
      | cons next rest =>
          have others := ih (by simp) fun other member => each other (List.mem_cons_of_mem field member)
          have all := tellsFields_more field.1 told others
          simpa only [List.map_cons, List.intercalate_cons_cons, List.append_assoc, List.singleton_append] using all

/-- Fields that are told one by one tell an object. -/
theorem tells_object (fields : List (String × String × Value)) (nonempty : fields ≠ [])
    (each : ∀ field ∈ fields, Tells field.2.1.toList field.2.2) :
    Tells (writeObject (fields.map fun field => (field.1, field.2.1))).toList
      (.object (fields.map fun field => (some field.1, field.2.2))) := by
  obtain ⟨tokens, spelled, meant⟩ := tellsFields_joined fields nonempty each
  have opening : Spells ['\x7b'] [.opensObject] := spells_token '\x7b' [] .opensObject rfl fun rest => rfl
  have closing : Spells ['\x7d'] [.closesObject] := spells_token '\x7d' [] .closesObject rfl fun rest => rfl
  refine ⟨[.opensObject] ++ (tokens ++ [.closesObject]), ?_, fun opened first rest => ?_⟩
  · have whole := opening.append (spelled.append closing)
    simpa [writeObject, String.toList_intercalate, Function.comp_def] using whole
  · simp only [List.append_assoc, List.cons_append, List.nil_append]
    rw [valuesFrom, meant]
    rfl

/-- A text that tells a value is read as that value, also with a line feed after it. -/
theorem read_of_tells {text : List Char} {value : Value} (told : Tells text value) :
    read? text = some value ∧ read? (text ++ ['\n']) = some value := by
  obtain ⟨tokens, spelled, meant⟩ := told
  have read {written : List Char} (same : Spells written tokens) : read? written = some value := by
    have all := same [] []
    rw [List.append_nil, List.append_nil, tokensFrom, List.reverse_reverse] at all
    have known := meant [] false []
    rw [List.append_nil, valuesFrom] at known
    rw [read?, tokens?, all, Option.bind_some, known]
  refine ⟨read spelled, read ?_⟩
  have ended := spelled.append spells_feed
  rwa [List.append_nil] at ended

end Values

/-! What is written stays on one line: a line feed in a text is written as an escape. -/
section OneLine

theorem feed_not_mem_writeChar (c : Char) : '\n' ∉ writeChar c := by
  have digit (n : Nat) (small : n < 16) : '\n' ≠ hexDigit n := by
    revert n
    decide
  unfold writeChar
  split
  · next special =>
      rcases Bool.or_eq_true_iff.mp special with same | same <;> cases beq_iff_eq.mp same <;> decide
  split
  · decide
  · next plain =>
      split
      · decide
      split
      · decide
      split
      · decide
      split
      · decide
      split
      · next control =>
          have first := digit (c.toNat / 16) (by omega)
          have second := digit (c.toNat % 16) (by omega)
          simp [first, second]
      · exact fun same => plain (beq_iff_eq.mpr (List.mem_singleton.mp same).symm)

theorem feed_not_mem_writeString (text : String) : '\n' ∉ (writeString text).toList := by
  rw [writeString, String.toList_ofList, writeText]
  intro feed
  simp only [List.mem_append, List.mem_cons, List.mem_flatMap, List.not_mem_nil, or_false] at feed
  rcases feed with (quote | ⟨c, _, inside⟩) | quote
  · exact absurd quote (by decide)
  · exact feed_not_mem_writeChar c inside
  · exact absurd quote (by decide)

theorem mem_intercalate {α : Type} (a : α) (between : List α) (parts : List (List α))
    (member : a ∈ between.intercalate parts) : a ∈ between ∨ ∃ part ∈ parts, a ∈ part := by
  induction parts with
  | nil => cases member
  | cons part rest ih =>
      cases rest with
      | nil => exact .inr ⟨part, List.mem_cons_self, by simpa using member⟩
      | cons next rest =>
          rw [List.intercalate_cons_cons, List.mem_append, List.mem_append] at member
          rcases member with (here | gap) | later
          · exact .inr ⟨part, List.mem_cons_self, here⟩
          · exact .inl gap
          · exact (ih later).imp id fun ⟨other, among, inside⟩ => ⟨other, List.mem_cons_of_mem part among, inside⟩

theorem feed_not_mem_writeObject (fields : List (String × String))
    (each : ∀ field ∈ fields, '\n' ∉ field.2.toList) : '\n' ∉ (writeObject fields).toList := by
  intro feed
  simp only [writeObject, String.toList_append, String.toList_intercalate, List.mem_append] at feed
  rcases feed with (brace | body) | brace
  · exact absurd brace (by decide)
  · rcases mem_intercalate _ _ _ body with comma | ⟨part, among, inside⟩
    · exact absurd comma (by decide)
    · obtain ⟨text, listed, rfl⟩ := List.mem_map.mp among
      obtain ⟨field, known, rfl⟩ := List.mem_map.mp listed
      simp only [String.toList_append, List.mem_append] at inside
      rcases inside with (name | colon) | value
      · exact feed_not_mem_writeString field.1 name
      · exact absurd colon (by decide)
      · exact each field known value
  · exact absurd brace (by decide)

end OneLine
end SnippetRunner.Json

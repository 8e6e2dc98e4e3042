import Mathlib.Data.List.Forall2
import SnippetRunner.Box.Mount
import SnippetRunner.Diagnostic
import SnippetRunner.Proofs.WrittenJson

/-!
Records that are read back. Diagnostics and mounts are written in one way and read in many: fields in any order and
among others, fields left out, a list of the fields in order. What is read is what the text spells; and what was read
from any of its spellings is read again from the one it is written in, since a number that was read fits its 64 bits.
-/

namespace SnippetRunner

namespace Json

section Numbers

theorem digitsValue_toDigits (n : Nat) : Number.digitsValue (Nat.toDigits 10 n) = n := by
  have whole := Nat.ofDigitChars_ten_toDigits (n := n)
  rw [Nat.ofDigitChars] at whole
  simpa [Number.digitsValue, Nat.mul_comm] using whole

theorem isDigit_of_mem_toDigits {n : Nat} {c : Char} (member : c ∈ Nat.toDigits 10 n) : Number.isDigit c = true :=
  Nat.isDigit_of_mem_toDigits (by decide) (by decide) member

/-- No zero stands before other digits. -/
theorem head_toDigits {n : Nat} (positive : 0 < n) : (Nat.toDigits 10 n).head? ≠ some '0' := by
  -- the first digit is that of the number without its last digit
  induction n using Nat.strongRecOn with
  | ind n ih =>
      by_cases small : n < 10
      · have digit : ∀ m < 10, 0 < m → [m.digitChar].head? ≠ some '0' := by decide
        rw [Nat.toDigits_of_lt_base small]
        exact digit n small positive
      · rw [Nat.toDigits_of_base_le (by decide) (by omega), List.head?_append_of_ne_nil _ Nat.toDigits_ne_nil]
        exact ih (n / 10) (by omega) (by omega)

/-- A natural number as it is written. -/
def numeralOf (n : Nat) : Numeral :=
  { negative := false, whole := Nat.toDigits 10 n, fraction := [], exponent := none }

-- A digit is no other mark that may stand in a number or begin a token.
theorem digit_ne {c other : Char} (digit : Number.isDigit c = true) (apart : Number.isDigit other = false) :
    (c == other) = false := by
  rw [beq_eq_false_iff_ne]
  rintro rfl
  rw [digit] at apart
  cases apart

/-- The mark that stands behind a value in an object, and the token it is. -/
inductive Ends : Char → Token → Prop where
  | comma : Ends ',' .comma
  | brace : Ends '\x7d' .closesObject

variable {mark : Char} {token : Token} (n : Nat) (rest : List Char)

theorem Ends.plain (ends : Ends mark token) : Number.isDigit mark = false ∧ isGap mark = false ∧
    fraction? (mark :: rest) = some ([], 0) ∧ exponent? (mark :: rest) = some (none, 0) ∧
    token? (mark :: rest) = some (token, 1) := by
  cases ends <;> exact ⟨rfl, rfl, rfl, rfl, rfl⟩

theorem toDigits_cons (n : Nat) : ∃ first more, Nat.toDigits 10 n = first :: more ∧ Number.isDigit first = true := by
  obtain ⟨first, more, digits⟩ := List.exists_cons_of_ne_nil (Nat.toDigits_ne_nil (n := n) (b := 10))
  exact ⟨first, more, digits, isDigit_of_mem_toDigits (n := n) (digits ▸ List.mem_cons_self)⟩

theorem numeral_written (ends : Ends mark token) :
    numeral? (Nat.toDigits 10 n ++ mark :: rest) = some (numeralOf n, (Nat.toDigits 10 n).length) := by
  obtain ⟨undigit, _, fraction, exponent, _⟩ := ends.plain rest
  obtain ⟨first, more, digits, digit⟩ := toDigits_cons n
  have sign : ((Nat.toDigits 10 n ++ mark :: rest).head? == some '-') = false := by
    have unsigned : (first == '-') = false := digit_ne digit rfl
    simpa [digits] using unsigned
  have whole : (Nat.toDigits 10 n ++ mark :: rest).takeWhile Number.isDigit = Nat.toDigits 10 n := by
    rw [List.takeWhile_append_of_pos fun c => isDigit_of_mem_toDigits, List.takeWhile_cons_of_neg (by simp [undigit]),
      List.append_nil]
  have zeros : ((Nat.toDigits 10 n).head? == some '0' && (Nat.toDigits 10 n).length != 1) = false := by
    rcases Nat.eq_zero_or_pos n with rfl | positive
    · rfl
    · simp [head_toDigits positive]
  rw [numeral?]
  simp only [sign, Bool.false_eq_true, if_false, List.drop_zero, whole, zeros, Bool.or_false, List.isEmpty_iff,
    Nat.toDigits_ne_nil, Nat.zero_add, List.drop_left, fraction, Nat.add_zero, exponent]
  rfl

theorem token_written (ends : Ends mark token) :
    token? (Nat.toDigits 10 n ++ mark :: rest) = some (.number (numeralOf n), (Nat.toDigits 10 n).length) := by
  have read := numeral_written n rest ends
  obtain ⟨first, more, digits, digit⟩ := toDigits_cons n
  have apart (other : Char) (undigit : Number.isDigit other = false) : (first == other) = false :=
    digit_ne digit undigit
  rw [digits, List.cons_append] at read ⊢
  rw [token?]
  simp only [apart '[' rfl, apart ']' rfl, apart '\x7b' rfl, apart '\x7d' rfl, apart ',' rfl, apart ':' rfl,
    apart '"' rfl, apart 'n' rfl, apart 't' rfl, apart 'f' rfl, Bool.false_eq_true, if_false, read, Option.map_some]

/-- A number is read as it was written, once the mark behind it is seen. -/
theorem spells_number (ends : Ends mark token) :
    Spells (Nat.toDigits 10 n ++ [mark]) [.number (numeralOf n), token] := by
  intro done rest
  obtain ⟨_, solid, _, _, ended⟩ := ends.plain rest
  have read := token_written n rest ends
  obtain ⟨first, more, digits, digit⟩ := toDigits_cons n
  have visible : isGap first = false := by
    rw [isGap, digit_ne digit rfl, digit_ne digit rfl, digit_ne digit rfl, digit_ne digit rfl]
    rfl
  have number : tokensFrom done (Nat.toDigits 10 n ++ mark :: rest) =
      tokensFrom (.number (numeralOf n) :: done) (mark :: rest) := by
    rw [digits, List.cons_append] at read ⊢
    rw [tokensFrom]
    simp only [visible, Bool.false_eq_true, if_false, read]
    simp
  rw [List.append_assoc, List.singleton_append, number, tokensFrom]
  simp only [solid, Bool.false_eq_true, if_false, ended]
  rfl

end Numbers

section Values

theorem tells_null : Tells "null".toList .null :=
  ⟨[.null], spells_token 'n' ['u', 'l', 'l'] .null rfl fun _ => rfl, fun _ _ _ => rfl⟩

theorem tells_bool (value : Bool) : Tells (writeBool value).toList (.bool value) := by
  refine ⟨[.bool value], ?_, fun opened first rest => rfl⟩
  cases value with
  | false => exact spells_token 'f' ['a', 'l', 's', 'e'] (.bool false) rfl fun rest => rfl
  | true => exact spells_token 't' ['r', 'u', 'e'] (.bool true) rfl fun rest => rfl

end Values

section Spellings

/-- The fields in an array: each in its place, and the last ones left out where all of them may be. -/
inductive Leading : List Field → List Value → List (Option Value) → Prop where
  | left (specs : List Field) (optional : ∀ spec ∈ specs, spec.presence = .optional) :
      Leading specs [] (specs.map fun _ => none)
  | given (spec : Field) (item : Value) {specs : List Field} {items : List Value} {values : List (Option Value)}
      (others : Leading specs items values) : Leading (spec :: specs) (item :: items) (some item :: values)

/-- A field of an object stands in it once, or not at all where it may be left out. -/
def Named (fields : List (Option String × Value)) (spec : Field) (value : Option Value) : Prop :=
  valuesOf spec.name fields = value.toList ∧ (value = none → spec.presence ≠ .required)

/-- The fields of a record as they stand in a value: by name, in any order and among others, or in an array. -/
inductive Stand (specs : List Field) (values : List (Option Value)) : Value → Prop where
  | named (fields : List (Option String × Value)) (texts : ∀ field ∈ fields, field.1.isSome = true)
      (each : List.Forall₂ (Named fields) specs values) : Stand specs values (.object fields)
  | ordered (items : List Value) (leading : Leading specs items values) : Stand specs values (.array items)

theorem byName_iff {spec : Field} {fields : List (Option String × Value)} {value : Option Value} :
    byName spec fields = some value ↔ Named fields spec value := by
  rw [byName, Named]
  cases valuesOf spec.name fields with
  | nil => cases value <;> simp
  | cons first rest =>
      cases rest with
      | nil => cases value <;> simp
      | cons => cases value <;> simp

theorem mapM_iff {α β : Type} {f : α → Option β} {list : List α} {values : List β} :
    list.mapM f = some values ↔ List.Forall₂ (fun item value => f item = some value) list values := by
  induction list generalizing values with
  | nil => simp [List.forall₂_nil_left_iff, eq_comm]
  | cons item rest ih =>
      rw [List.mapM_cons]
      cases values with
      | nil => simp [List.forall₂_nil_right_iff, Option.bind_eq_some_iff]
      | cons value others => simp [List.forall₂_cons, ← ih, Option.bind_eq_some_iff]

theorem Leading.left_cons {spec : Field} {specs : List Field} {values : List (Option Value)}
    (optional : spec.presence = .optional) (leading : Leading specs [] values) :
    Leading (spec :: specs) [] (none :: values) := by
  cases leading with
  | left _ others => exact .left (spec :: specs) (List.forall_mem_cons.mpr ⟨optional, others⟩)

theorem inOrder_iff {specs : List Field} {items : List Value} {values : List (Option Value)} :
    inOrder specs items = some values ↔ Leading specs items values := by
  constructor
  · intro read
    induction specs generalizing items values with
    | nil =>
        cases items with
        | nil =>
            cases read
            exact .left [] (List.forall_mem_nil _)
        | cons => cases read
    | cons spec rest ih =>
        cases items with
        | nil =>
            rw [inOrder] at read
            split at read
            · next optional =>
                obtain ⟨others, known, rfl⟩ := Option.map_eq_some_iff.mp read
                exact (ih known).left_cons (beq_iff_eq.mp optional)
            · cases read
        | cons item items =>
            rw [inOrder] at read
            obtain ⟨others, known, rfl⟩ := Option.map_eq_some_iff.mp read
            exact .given spec item (ih known)
  · intro leading
    induction leading with
    | left specs optional =>
        induction specs with
        | nil => rfl
        | cons spec rest ih =>
            obtain ⟨here, later⟩ := List.forall_mem_cons.mp optional
            rw [inOrder, if_pos (beq_iff_eq.mpr here), ih later]
            rfl
    | given spec item _ ih => rw [inOrder, ih, Option.map_some]

theorem fields_iff {specs : List Field} {value : Value} {values : List (Option Value)} :
    fields? specs value = some values ↔ Stand specs values value := by
  constructor
  · intro read
    cases value with
    | object fields =>
        rw [fields?] at read
        split at read
        · next texts =>
            exact .named fields (List.all_eq_true.mp texts) ((mapM_iff.mp read).imp fun _ _ => byName_iff.mp)
        · cases read
    | array items => exact .ordered items (inOrder_iff.mp read)
    | _ => cases read
  · intro stand
    cases stand with
    | named fields texts each =>
        rw [fields?, if_pos (List.all_eq_true.mpr texts)]
        exact mapM_iff.mpr (each.imp fun _ _ => byName_iff.mpr)
    | ordered items leading => exact inOrder_iff.mpr leading

theorem name_iff {names : List String} {value : Value} {text : String} : name? names value = some text ↔
    text ∈ names ∧ (value = .string (some text) ∨ value = .object [(some text, .null)]) := by
  constructor
  · intro read
    unfold name? at read
    split at read
    · next found =>
        split at read
        · next known =>
            cases read
            exact ⟨List.contains_iff_mem.mp known, .inl rfl⟩
        · cases read
    · next found =>
        split at read
        · next known =>
            cases read
            exact ⟨List.contains_iff_mem.mp known, .inr rfl⟩
        · cases read
    · cases read
  · rintro ⟨known, rfl | rfl⟩ <;> exact if_pos (List.contains_iff_mem.mpr known)

theorem text_iff {value : Value} {text : String} : text? value = some text ↔ value = .string (some text) := by
  cases value <;> simp [text?]

/-- A natural number of 64 bits, written without sign, point and exponent. -/
def IsNatural (n : Nat) (value : Value) : Prop :=
  ∃ whole, value = .number { negative := false, whole, fraction := [], exponent := none } ∧
    Number.digitsValue whole = n ∧ n < natLimit

theorem natural_iff {value : Value} {n : Nat} : natural? value = some n ↔ IsNatural n value := by
  constructor
  · intro read
    cases value with
    | number numeral =>
        obtain ⟨negative, whole, fraction, exponent⟩ := numeral
        have plain : negative = false ∧ fraction = [] ∧ exponent = none := by
          cases negative <;> cases fraction <;> cases exponent <;>
            simp_all [natural?, Numeral.natural?, Numeral.isWhole]
        obtain ⟨rfl, rfl, rfl⟩ := plain
        simp only [natural?, Numeral.natural?, Numeral.isWhole, List.isEmpty_nil, Option.isNone_none, Bool.and_self,
          Bool.not_true, Bool.or_self, Bool.false_eq_true, if_false, Option.ite_none_right_eq_some,
          Option.some.injEq] at read
        exact ⟨whole, rfl, read.2, read.2 ▸ read.1⟩
    | _ => cases read
  · rintro ⟨whole, rfl, rfl, fits⟩
    simp [natural?, Numeral.natural?, Numeral.isWhole, fits]

theorem bool_iff {value : Value} {flag : Bool} : bool? value = some flag ↔ value = .bool flag := by
  cases value <;> simp [bool?]

end Spellings
end Json

namespace Severity

/-- A severity is named, alone or as the only key of an object that holds null. -/
def Spelled (severity : Severity) (value : Json.Value) : Prop :=
  value = .string (some severity.name) ∨ value = .object [(some severity.name, .null)]

theorem ofName_iff {text : String} {severity : Severity} : ofName? text = some severity ↔ severity.name = text := by
  constructor
  · intro found
    have same := List.find?_some found
    exact beq_iff_eq.mp same
  · rintro rfl
    cases severity <;> decide

theorem read_iff {value : Json.Value} {severity : Severity} :
    Diagnostic.readSeverity value = some severity ↔ severity.Spelled value := by
  have listed : severity.name ∈ ["error", "warning", "note", "help"] := by cases severity <;> decide
  rw [Diagnostic.readSeverity, Option.bind_eq_some_iff]
  constructor
  · rintro ⟨text, named, found⟩
    cases ofName_iff.mp found
    exact (Json.name_iff.mp named).2
  · intro spelled
    exact ⟨severity.name, Json.name_iff.mpr ⟨listed, spelled⟩, ofName_iff.mpr rfl⟩

end Severity

namespace Location
variable {location : Location} {value : Json.Value}

/-- The numbers of a place fit 64 bits. -/
def Fits (location : Location) : Prop :=
  location.line < Json.natLimit ∧ location.column < Json.natLimit

def Spelled (location : Location) (value : Json.Value) : Prop :=
  ∃ line column, Json.Stand [⟨"line", .required⟩, ⟨"column", .required⟩] [some line, some column] value ∧
    Json.IsNatural location.line line ∧ Json.IsNatural location.column column

theorem ofJson_iff : ofJson? value = some location ↔ location.Spelled value := by
  constructor
  · intro read
    obtain ⟨values, known, read⟩ := Option.bind_eq_some_iff.mp read
    split at read
    · next line column =>
        obtain ⟨first, lineRead, read⟩ := Option.bind_eq_some_iff.mp read
        obtain ⟨second, columnRead, read⟩ := Option.bind_eq_some_iff.mp read
        cases read
        exact ⟨line, column, Json.fields_iff.mp known, Json.natural_iff.mp lineRead, Json.natural_iff.mp columnRead⟩
    · cases read
  · rintro ⟨line, column, stand, lineRead, columnRead⟩
    rw [ofJson?, Json.fields_iff.mpr stand]
    simp [Json.natural_iff.mpr lineRead, Json.natural_iff.mpr columnRead]

theorem Spelled.fits (spelled : location.Spelled value) : location.Fits := by
  obtain ⟨_, _, _, ⟨_, _, _, line⟩, _, _, _, column⟩ := spelled
  exact ⟨line, column⟩

/-- A place is written as an object of its two numbers. -/
theorem tells_toJson (location : Location) : Json.Tells location.toJson.toList
    (.object [(some "line", .number (Json.numeralOf location.line)),
      (some "column", .number (Json.numeralOf location.column))]) := by
  have line := Json.spells_field "line" (Json.spells_number location.line .comma)
  have column := Json.spells_field "column" (Json.spells_number location.column .brace)
  have opening : Json.Spells ['\x7b'] [.opensObject] :=
    Json.spells_token '\x7b' [] .opensObject rfl fun _ => rfl
  have whole := opening.append (line.append column)
  have letters : location.toJson.toList = ['\x7b'] ++
      ((Json.writeString "line").toList ++ ':' :: (Nat.toDigits 10 location.line ++ [',']) ++
        ((Json.writeString "column").toList ++ ':' :: (Nat.toDigits 10 location.column ++ ['\x7d']))) := by
    simp [toJson, Json.writeObject, Nat.toList_repr]
  rw [letters]
  refine ⟨_, whole, fun opened first rest => ?_⟩
  simp only [List.cons_append, List.nil_append, Json.valuesFrom, List.reverse_cons, List.reverse_nil]

end Location

namespace Diagnostic
variable {diagnostic : Diagnostic} {value : Json.Value}

/-- The place of a diagnostic, if it has one, fits 64 bits. -/
def Fits (diagnostic : Diagnostic) : Prop :=
  ∀ location, diagnostic.location = some location → location.Fits

/-- A place that is not there is left out or null. -/
inductive Located : Option Location → Option Json.Value → Prop where
  | absent : Located none none
  | null : Located none (some .null)
  | there {location : Location} {value : Json.Value} (spelled : location.Spelled value) :
      Located (some location) (some value)

/-- What values spell a diagnostic. -/
def Spelled (diagnostic : Diagnostic) (value : Json.Value) : Prop :=
  ∃ severity location,
    Json.Stand [⟨"severity", .required⟩, ⟨"message", .required⟩, ⟨"location", .optionalByName⟩]
      [some severity, some (.string (some diagnostic.message)), location] value ∧
    diagnostic.severity.Spelled severity ∧ Located diagnostic.location location

theorem readLocation_iff {value : Option Json.Value} {location : Option Location} :
    readLocation value = some location ↔ Located location value := by
  constructor
  · intro read
    unfold readLocation at read
    split at read
    · cases read
      exact .absent
    · cases read
      exact .null
    · obtain ⟨place, spelled, rfl⟩ := Option.map_eq_some_iff.mp read
      exact .there (Location.ofJson_iff.mp spelled)
  · intro located
    cases located with
    | absent => rfl
    | null => rfl
    | there spelled =>
        have read := Location.ofJson_iff.mpr spelled
        unfold readLocation
        split
        · next same => cases same
        · next same =>
            cases same
            cases read
        · next same =>
            cases same
            rw [read, Option.map_some]

theorem ofJson_iff : ofJson? value = some diagnostic ↔ diagnostic.Spelled value := by
  constructor
  · intro read
    obtain ⟨values, known, read⟩ := Option.bind_eq_some_iff.mp read
    split at read
    · next severity message location =>
        obtain ⟨name, severityRead, read⟩ := Option.bind_eq_some_iff.mp read
        obtain ⟨text, messageRead, read⟩ := Option.bind_eq_some_iff.mp read
        obtain ⟨place, locationRead, read⟩ := Option.bind_eq_some_iff.mp read
        cases read
        cases Json.text_iff.mp messageRead
        exact ⟨severity, location, Json.fields_iff.mp known, Severity.read_iff.mp severityRead,
          readLocation_iff.mp locationRead⟩
    · cases read
  · rintro ⟨severity, location, stand, named, located⟩
    rw [ofJson?, Json.fields_iff.mpr stand]
    simp [Severity.read_iff.mpr named, Json.text_iff.mpr, readLocation_iff.mpr located]

theorem read_iff {text : String} :
    read? text = some diagnostic ↔ ∃ value, Json.read? text.toList = some value ∧ diagnostic.Spelled value := by
  simp only [read?, Option.bind_eq_some_iff, ofJson_iff]

theorem Spelled.fits (spelled : diagnostic.Spelled value) : diagnostic.Fits := by
  obtain ⟨_, _, _, _, located⟩ := spelled
  intro location there
  rw [there] at located
  cases located with
  | there spelled => exact spelled.fits

/-- The location as it is written, and the value that it is read as. -/
def writtenLocation : Option Location → String × Json.Value
  | none => ("null", .null)
  | some location => (location.toJson, .object [(some "line", .number (Json.numeralOf location.line)),
      (some "column", .number (Json.numeralOf location.column))])

theorem tells_toJson (diagnostic : Diagnostic) : Json.Tells diagnostic.toJson.toList
    (.object [(some "severity", .string (some diagnostic.severity.name)),
      (some "message", .string (some diagnostic.message)),
      (some "location", (writtenLocation diagnostic.location).2)]) := by
  have told := Json.tells_object
    [ ("severity", Json.writeString diagnostic.severity.name, .string (some diagnostic.severity.name)),
      ("message", Json.writeString diagnostic.message, .string (some diagnostic.message)),
      ("location", writtenLocation diagnostic.location) ] (List.cons_ne_nil _ _) fun field among => ?_
  · cases place : diagnostic.location <;> simpa [toJson, place, writtenLocation] using told
  · simp only [List.mem_cons, List.not_mem_nil, or_false] at among
    rcases among with rfl | rfl | rfl
    · exact Json.tells_string _
    · exact Json.tells_string _
    · cases diagnostic.location with
      | none => exact Json.tells_null
      | some location => exact location.tells_toJson

theorem located_writtenLocation (fits : diagnostic.Fits) :
    Located diagnostic.location (some (writtenLocation diagnostic.location).2) := by
  cases place : diagnostic.location with
  | none => exact .null
  | some location =>
      obtain ⟨line, column⟩ := fits location place
      refine .there ⟨_, _, .named _ (by simp) ?_, ⟨_, rfl, Json.digitsValue_toDigits _, line⟩,
        ⟨_, rfl, Json.digitsValue_toDigits _, column⟩⟩
      exact .cons ⟨rfl, nofun⟩ (.cons ⟨rfl, nofun⟩ .nil)

theorem read_toJson (fits : diagnostic.Fits) : read? diagnostic.toJson = some diagnostic := by
  refine read_iff.mpr ⟨_, (Json.read_of_tells diagnostic.tells_toJson).1, ?_⟩
  refine ⟨.string (some diagnostic.severity.name), some (writtenLocation diagnostic.location).2, ?_, .inl rfl,
    located_writtenLocation fits⟩
  exact .named _ (by simp) (.cons ⟨rfl, nofun⟩ (.cons ⟨rfl, nofun⟩ (.cons ⟨rfl, nofun⟩ .nil)))

end Diagnostic

namespace Box.Mount
variable {mount : Mount} {value : Json.Value}

/-- A flag that is left out is not set. -/
inductive Flagged : Bool → Option Json.Value → Prop where
  | absent : Flagged false none
  | there (flag : Bool) : Flagged flag (some (.bool flag))

/-- What values spell a mount. -/
def Spelled (mount : Mount) (value : Json.Value) : Prop :=
  ∃ writable optional,
    Json.Stand [⟨"source", .required⟩, ⟨"target", .required⟩, ⟨"writable", .optional⟩, ⟨"optional", .optional⟩]
      [some (.string (some mount.source)), some (.string (some mount.target)), writable, optional] value ∧
    Flagged mount.writable writable ∧ Flagged mount.optional optional

theorem readFlag_iff {value : Option Json.Value} {flag : Bool} : readFlag value = some flag ↔ Flagged flag value := by
  constructor
  · intro read
    cases value with
    | none =>
        cases read
        exact .absent
    | some value =>
        cases Json.bool_iff.mp read
        exact .there flag
  · intro flagged
    cases flagged <;> rfl

theorem ofJson_iff : ofJson? value = some mount ↔ mount.Spelled value := by
  constructor
  · intro read
    obtain ⟨values, known, read⟩ := Option.bind_eq_some_iff.mp read
    split at read
    · next source target writable optional =>
        obtain ⟨from_, sourceRead, read⟩ := Option.bind_eq_some_iff.mp read
        obtain ⟨to_, targetRead, read⟩ := Option.bind_eq_some_iff.mp read
        obtain ⟨writes, writableRead, read⟩ := Option.bind_eq_some_iff.mp read
        obtain ⟨omits, optionalRead, read⟩ := Option.bind_eq_some_iff.mp read
        cases read
        cases Json.text_iff.mp sourceRead
        cases Json.text_iff.mp targetRead
        exact ⟨writable, optional, Json.fields_iff.mp known, readFlag_iff.mp writableRead, readFlag_iff.mp optionalRead⟩
    · cases read
  · rintro ⟨writable, optional, stand, writes, omits⟩
    rw [ofJson?, Json.fields_iff.mpr stand]
    simp [Json.text_iff.mpr, readFlag_iff.mpr writes, readFlag_iff.mpr omits]

theorem read_iff {text : String} :
    read? text = some mount ↔ ∃ value, Json.read? text.toList = some value ∧ mount.Spelled value := by
  simp only [read?, Option.bind_eq_some_iff, ofJson_iff]

theorem tells_toJson (mount : Mount) : Json.Tells mount.toJson.toList
    (.object [(some "source", .string (some mount.source)), (some "target", .string (some mount.target)),
      (some "writable", .bool mount.writable), (some "optional", .bool mount.optional)]) := by
  refine Json.tells_object
    [ ("source", Json.writeString mount.source, .string (some mount.source)),
      ("target", Json.writeString mount.target, .string (some mount.target)),
      ("writable", Json.writeBool mount.writable, .bool mount.writable),
      ("optional", Json.writeBool mount.optional, .bool mount.optional) ] (List.cons_ne_nil _ _) fun field among => ?_
  simp only [List.mem_cons, List.not_mem_nil, or_false] at among
  rcases among with rfl | rfl | rfl | rfl
  · exact Json.tells_string _
  · exact Json.tells_string _
  · exact Json.tells_bool _
  · exact Json.tells_bool _

theorem read_toJson (mount : Mount) : read? mount.toJson = some mount := by
  refine read_iff.mpr ⟨_, (Json.read_of_tells mount.tells_toJson).1, ?_⟩
  refine ⟨some (.bool mount.writable), some (.bool mount.optional), ?_, .there _, .there _⟩
  exact .named _ (by simp) (.cons ⟨rfl, nofun⟩ (.cons ⟨rfl, nofun⟩ (.cons ⟨rfl, nofun⟩ (.cons ⟨rfl, nofun⟩ .nil))))

end Box.Mount

namespace Json
open Box (Mount)

/-- Records are read back from the text they are written as, whichever of their spellings they were read from. -/
theorem records_read_back :
    (∀ diagnostic : Diagnostic, diagnostic.Fits → Diagnostic.read? diagnostic.toJson = some diagnostic) ∧
    (∀ mount : Mount, Mount.read? mount.toJson = some mount) ∧
    (∀ text diagnostic, Diagnostic.read? text = some diagnostic ↔
      ∃ value, read? text.toList = some value ∧ diagnostic.Spelled value) ∧
    (∀ text mount, Mount.read? text = some mount ↔ ∃ value, read? text.toList = some value ∧ mount.Spelled value) ∧
    (∀ text diagnostic, Diagnostic.read? text = some diagnostic →
      Diagnostic.read? diagnostic.toJson = some diagnostic) ∧
    ∀ text mount, Mount.read? text = some mount → Mount.read? mount.toJson = some mount := by
  refine ⟨fun _ => Diagnostic.read_toJson, Mount.read_toJson, fun _ _ => Diagnostic.read_iff, fun _ _ => Mount.read_iff,
    fun text diagnostic read => ?_, fun _ mount _ => mount.read_toJson⟩
  obtain ⟨value, _, spelled⟩ := Diagnostic.read_iff.mp read
  exact Diagnostic.read_toJson spelled.fits

-- Lists of the fields, with white space, a pair of escapes for one character and the greatest number of 64 bits.
theorem records_read_back_from_lists :
    let text := "[ \x7b\"note\":null\x7d, \"\\ud83d\\ude00\\u0001\", [18446744073709551615, 1] ]"
    let diagnostic : Diagnostic :=
      { severity := .note, message := String.ofList [Char.ofNat 0x1f600, Char.ofNat 1],
        location := some ⟨18446744073709551615, 1⟩ }
    let mountText := "[\"/opt\\/lib\", \"\", true]"
    let mount : Mount := { source := "/opt/lib", target := "", writable := true, optional := false }
    (Diagnostic.read? text = some diagnostic ∧ Mount.read? mountText = some mount ∧ diagnostic.Fits) ∧
      Diagnostic.read? diagnostic.toJson = some diagnostic ∧ Mount.read? mount.toJson = some mount := by
  intro text diagnostic mountText mount
  have read : Diagnostic.read? text = some diagnostic := by decide +kernel
  have mountRead : Mount.read? mountText = some mount := by decide +kernel
  have fits : diagnostic.Fits := by
    rintro location ⟨⟩
    exact ⟨by decide, by decide⟩
  obtain ⟨_, _, _, _, again, mountAgain⟩ := records_read_back
  exact ⟨⟨read, mountRead, fits⟩, again text diagnostic read, mountAgain mountText mount mountRead⟩

end Json
end SnippetRunner

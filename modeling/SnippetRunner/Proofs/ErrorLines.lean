import Mathlib.Logic.Relation
import SnippetRunner.Compile.Report
import SnippetRunner.Proofs.TextLines

/-!
The lines of a compiler that count. Each record of an error stands in a line of its own and makes one diagnostic;
other lines make none, as long as some line is such a record. So reports can be put one after the other, and
lines that are no errors can stand anywhere between.
-/

namespace SnippetRunner

namespace Json

/-! White space after a JSON text says nothing: no token is longer for it and none is cut short. -/
section Gaps
variable {gap : Char}

theorem gap_cases (white : isGap gap = true) : gap = ' ' ∨ gap = '\n' ∨ gap = '\t' ∨ gap = '\r' := by
  simpa [isGap, or_assoc] using white

-- A gap after the rest of a text is one after the text, as far as the text goes.
theorem drop_gap {α : Type} {read : List Char → α} (text : List Char) (count : Nat)
    (same : read (text.drop count ++ [gap]) = read (text.drop count)) :
    read ((text ++ [gap]).drop count) = read (text.drop count) := by
  by_cases inside : count ≤ text.length
  · rw [List.drop_append_of_le_length inside]
    exact same
  · have beyond : text.length < count := Nat.lt_of_not_le inside
    rw [List.drop_eq_nil_of_le (Nat.le_of_lt beyond), List.drop_eq_nil_of_le (by rwa [List.length_append])]

theorem isPrefixOf_gap (part text : List Char) (plain : gap ∉ part) :
    part.isPrefixOf (text ++ [gap]) = part.isPrefixOf text := by
  induction part generalizing text with
  | nil => rfl
  | cons c rest ih =>
      have other : c ≠ gap := fun same => plain (same ▸ List.mem_cons_self)
      cases text with
      | nil => simp [List.isPrefixOf, other]
      | cons d more =>
          have later := ih more fun member => plain (List.mem_cons_of_mem c member)
          rw [List.cons_append, List.isPrefixOf, List.isPrefixOf, later]

section Tokens
variable (white : isGap gap = true)
include white

theorem hexValue_gap : hexValue? gap = none := by
  rcases gap_cases white with rfl | rfl | rfl | rfl <;> rfl

theorem unit_gap (text : List Char) : unit? (text ++ [gap]) = unit? text := by
  match text with
  | [] => rfl
  | [_] => rfl
  | [_, _] => rfl
  | [_, _, _] => simp [unit?, hexValue_gap white]
  | _ :: _ :: _ :: _ :: _ => rfl

theorem escape_gap (text : List Char) : escape? (text ++ [gap]) = escape? text := by
  have hex : gap ≠ 'u' := by rcases gap_cases white with rfl | rfl | rfl | rfl <;> decide
  cases text with
  | nil => rcases gap_cases white with rfl | rfl | rfl | rfl <;> rfl
  | cons c rest =>
      simp only [List.cons_append, escape?, unit_gap white]
      -- only the first half of a pair looks further than its own digits
      rcases rest with _ | ⟨_, _ | ⟨_, _ | ⟨_, _ | ⟨_, _ | ⟨d, _ | ⟨e, after⟩⟩⟩⟩⟩⟩
      · rfl
      · rfl
      · rfl
      · rfl
      · simp
      · simp [hex]
      · by_cases first : d = '\\'
        · by_cases second : e = 'u'
          · rw [first, second]
            simp [unit_gap white]
          · simp [second]
        · simp [first]

theorem stringFrom_gap (done : Option (List Char)) (count : Nat) (text : List Char) :
    stringFrom done count (text ++ [gap]) = stringFrom done count text := by
  induction done, count, text using stringFrom.induct with
  | case1 done count => rcases gap_cases white with rfl | rfl | rfl | rfl <;> simp [stringFrom]
  | case2 done count c rest closes =>
      rw [List.cons_append, stringFrom, stringFrom, if_pos closes, if_pos closes]
  | case3 done count c rest open_ escapes unnamed =>
      rw [List.cons_append, stringFrom, stringFrom, if_neg open_, if_neg open_, if_pos escapes, if_pos escapes,
        escape_gap white, unnamed]
  | case4 done count c rest open_ escapes named more found next ih =>
      rw [List.cons_append, stringFrom, stringFrom, if_neg open_, if_neg open_, if_pos escapes, if_pos escapes,
        escape_gap white, found]
      exact drop_gap rest more ih
  | case5 done count c rest open_ plain control =>
      rw [List.cons_append, stringFrom, stringFrom, if_neg open_, if_neg open_, if_neg plain, if_neg plain,
        if_pos control, if_pos control]
  | case6 done count c rest open_ plain printed ih =>
      rw [List.cons_append, stringFrom, stringFrom, if_neg open_, if_neg open_, if_neg plain, if_neg plain,
        if_neg printed, if_neg printed]
      exact ih

theorem digits_gap (text : List Char) :
    (text ++ [gap]).takeWhile Number.isDigit = text.takeWhile Number.isDigit := by
  have other : Number.isDigit gap = false := by rcases gap_cases white with rfl | rfl | rfl | rfl <;> rfl
  induction text with
  | nil => simp [other]
  | cons c rest ih => simp only [List.cons_append, List.takeWhile_cons, ih]

theorem exponent_gap (text : List Char) : exponent? (text ++ [gap]) = exponent? text := by
  match text with
  | [] => rcases gap_cases white with rfl | rfl | rfl | rfl <;> rfl
  | [c] =>
      have none := digits_gap white []
      rw [List.nil_append] at none
      rcases gap_cases white with rfl | rfl | rfl | rfl <;> simp [exponent?, none]
  | c :: d :: rest =>
      have digits := digits_gap white (d :: rest)
      rw [List.cons_append] at digits
      by_cases minus : d = '-'
      · simp [exponent?, minus, digits_gap white]
      · by_cases plus : d = '+'
        · simp [exponent?, plus, digits_gap white]
        · simp [exponent?, minus, plus, digits]

theorem fraction_gap (text : List Char) : fraction? (text ++ [gap]) = fraction? text := by
  cases text with
  | nil => rcases gap_cases white with rfl | rfl | rfl | rfl <;> rfl
  | cons c rest =>
      by_cases point : c = '.'
      · rw [point]
        simp only [List.cons_append, fraction?, digits_gap white]
      · simp [fraction?, point]

theorem numeral_gap (text : List Char) : numeral? (text ++ [gap]) = numeral? text := by
  have whole (count : Nat) : ((text ++ [gap]).drop count).takeWhile Number.isDigit =
      (text.drop count).takeWhile Number.isDigit :=
    drop_gap text count (digits_gap white _)
  have fraction (count : Nat) : fraction? ((text ++ [gap]).drop count) = fraction? (text.drop count) :=
    drop_gap text count (fraction_gap white _)
  have exponent (count : Nat) : exponent? ((text ++ [gap]).drop count) = exponent? (text.drop count) :=
    drop_gap text count (exponent_gap white _)
  have sign : ((text ++ [gap]).head? == some '-') = (text.head? == some '-') := by
    cases text with
    | nil => rcases gap_cases white with rfl | rfl | rfl | rfl <;> rfl
    | cons c rest => rfl
  simp only [numeral?, sign, whole, fraction, exponent]

theorem token_gap (c : Char) (rest : List Char) : token? (c :: rest ++ [gap]) = token? (c :: rest) := by
  have number := numeral_gap white (c :: rest)
  have word (part : List Char) (letters : part.all Char.isAlpha = true) :
      part.isPrefixOf (rest ++ [gap]) = part.isPrefixOf rest := by
    refine isPrefixOf_gap part rest fun member => ?_
    have letter := List.all_eq_true.mp letters gap member
    rcases gap_cases white with rfl | rfl | rfl | rfl <;> cases letter
  rw [List.cons_append] at number ⊢
  simp only [token?, stringFrom_gap white, number, word ['u', 'l', 'l'] rfl,
    word ['r', 'u', 'e'] rfl, word ['a', 'l', 's', 'e'] rfl]

theorem tokensFrom_gap (done : List Token) (text : List Char) :
    tokensFrom done (text ++ [gap]) = tokensFrom done text := by
  induction done, text using tokensFrom.induct with
  | case1 done => simp [tokensFrom, white]
  | case2 done c rest blank ih =>
      rw [List.cons_append, tokensFrom, tokensFrom, if_pos blank, if_pos blank]
      exact ih
  | case3 done c rest solid none =>
      have same := token_gap white c rest
      rw [List.cons_append] at same ⊢
      rw [tokensFrom, tokensFrom, if_neg solid, if_neg solid, same, none]
  | case4 done c rest solid token count found ih =>
      have same := token_gap white c rest
      rw [List.cons_append] at same ⊢
      rw [tokensFrom, tokensFrom, if_neg solid, if_neg solid, same, found]
      exact drop_gap rest (count - 1) ih

/-- A text is read as one value whether or not white space follows it. -/
theorem read_gap (text : List Char) : read? (text ++ [gap]) = read? text := by
  rw [read?, read?, tokens?, tokens?, tokensFrom_gap white]

end Tokens
end Gaps
end Json

namespace Compile
variable {line : List Char}

section Lines

def noErrors : List String := ["warning", "note", "failure-note", "help"]

/-- The line is the record of an error, and not the summary that comes last. -/
def IsError (line : List Char) : Prop :=
  ∃ value report, line.head? = some '\x7b' ∧ Json.read? line = some value ∧ reportOf? value = some report ∧
    report.level ∉ noErrors ∧ ¬ summary.toList <+: report.message.toList

def HasError (stderr : List Char) : Prop :=
  ∃ line ∈ Text.lines stderr, IsError line

theorem ofLevel_error_iff (level : String) : Severity.ofLevel level = .error ↔ level ∉ noErrors := by
  unfold Severity.ofLevel
  by_cases known : level ∈ noErrors
  · simp only [noErrors, List.mem_cons, List.not_mem_nil, or_false] at known
    rcases known with rfl | rfl | rfl | rfl <;> simp [noErrors]
  · simp only [noErrors, List.mem_cons, List.not_mem_nil, or_false, not_or] at known
    simp [noErrors, known]

theorem counts_iff (report : Report) :
    report.counts = true ↔ report.level ∉ noErrors ∧ ¬ summary.toList <+: report.message.toList := by
  rw [Report.counts, Bool.and_eq_true, Bool.not_eq_true', ← List.isPrefixOf_iff_prefix, Bool.not_eq_true,
    beq_iff_eq, ofLevel_error_iff]

theorem read_some_iff (report : Report) : Report.read? line = some report ↔
    ∃ value, line.head? = some '\x7b' ∧ Json.read? line = some value ∧ reportOf? value = some report := by
  cases line with
  | nil => simp [Report.read?]
  | cons c rest =>
      by_cases opens : c = '\x7b'
      · simp [Report.read?, opens, Option.bind_eq_some_iff]
      · simp [Report.read?, opens]

theorem isError_iff (line : List Char) :
    IsError line ↔ ∃ report, Report.read? line = some report ∧ report.counts = true := by
  constructor
  · rintro ⟨value, report, opens, read, made, counts⟩
    exact ⟨report, (read_some_iff report).mpr ⟨value, opens, read, made⟩, (counts_iff report).mpr counts⟩
  · rintro ⟨report, read, counts⟩
    obtain ⟨value, opens, read, made⟩ := (read_some_iff report).mp read
    exact ⟨value, report, opens, read, made, (counts_iff report).mp counts⟩

/-- The carriage return at the end of a line makes no difference to the record in it. -/
theorem read_dropReturn (line : List Char) : Report.read? (Text.dropReturn line) = Report.read? line := by
  unfold Text.dropReturn
  split
  · next ends =>
      obtain ⟨front, rfl⟩ := List.getLast?_eq_some_iff.mp (beq_iff_eq.mp ends)
      rw [List.dropLast_concat]
      match front with
      | [] => rfl
      | c :: rest =>
          by_cases opens : c = '\x7b'
          · rw [opens]
            exact congrArg (Option.bind · reportOf?) (Json.read_gap rfl ('\x7b' :: rest)).symm
          · simp [Report.read?, opens]
  · rfl

end Lines

section Errors

/-- The errors among some lines. -/
def errorsOf (lines : List (List Char)) : List Report :=
  (lines.filterMap Report.read?).filter Report.counts

theorem errors_eq (stderr : List Char) : errors stderr = errorsOf (Text.lines stderr) := rfl

theorem errorsOf_append (front back : List (List Char)) :
    errorsOf (front ++ back) = errorsOf front ++ errorsOf back := by
  rw [errorsOf, List.filterMap_append, List.filter_append]
  rfl

theorem errorsOf_eq_nil_iff (lines : List (List Char)) : errorsOf lines = [] ↔ ∀ line ∈ lines, ¬IsError line := by
  simp only [errorsOf, List.filter_eq_nil_iff, List.mem_filterMap, isError_iff]
  constructor
  · rintro none line member ⟨report, read, counts⟩
    exact none report ⟨line, member, read⟩ counts
  · rintro none report ⟨line, member, read⟩ counts
    exact none line member ⟨report, read, counts⟩

theorem hasError_iff (stderr : List Char) : HasError stderr ↔ errors stderr ≠ [] := by
  rw [errors_eq, ne_eq, errorsOf_eq_nil_iff]
  simp [HasError]

/-- Errors are found before and after a line feed on their own. -/
theorem errors_ended (front rest : List Char) : errors (front ++ '\n' :: rest) = errors front ++ errors rest := by
  obtain ⟨closed, whole, known⟩ := Text.lines_feed front rest
  have same : errorsOf closed = errors front := by
    rcases known with rfl | ⟨before, last, ends, rfl⟩
    · have none : errorsOf [[]] = [] := rfl
      rw [errorsOf_append, none, List.append_nil, errors_eq]
    · have one : errorsOf [Text.dropReturn last] = errorsOf [last] := by
        simp only [errorsOf, List.filterMap_cons, read_dropReturn]
      rw [errors_eq, ends, errorsOf_append, errorsOf_append, one]
  rw [errors_eq, whole, errorsOf_append, same, errors_eq rest]

theorem errors_append (front rest : List Char) (closed : Text.isClosed front = true) :
    errors (front ++ rest) = errors front ++ errors rest := by
  by_cases empty : front = []
  · rw [empty]
    rfl
  · have ends : front.getLast? = some '\n' := by simpa [Text.isClosed, empty] using closed
    obtain ⟨lines, rfl⟩ := List.getLast?_eq_some_iff.mp ends
    have none : errors [] = [] := rfl
    rw [List.append_assoc, List.singleton_append, errors_ended, errors_ended, none, List.append_nil]

end Errors

section Noise

/-- A line more: between two lines, or after the last one. -/
inductive Insertion (line : List Char) : List Char → List Char → Prop where
  | between (front back : List Char) (border : Text.isClosed front = true) :
      Insertion line (front ++ back) (front ++ line ++ '\n' :: back)
  | last (front : List Char) (border : Text.isClosed front = true) : Insertion line front (front ++ line)
  | after (front : List Char) : Insertion line front (front ++ '\n' :: line)

/-- Two texts that differ in whole lines that are no errors. -/
def SameButNoise : List Char → List Char → Prop :=
  Relation.EqvGen fun before after => ∃ line, '\n' ∉ line ∧ ¬IsError line ∧ Insertion line before after

theorem errors_noise (plain : '\n' ∉ line) (noise : ¬IsError line) : errors line = [] := by
  rw [errors_eq, errorsOf_eq_nil_iff, Text.lines_last line plain]
  intro other member
  split at member
  · cases member
  · rwa [List.mem_singleton.mp member]

theorem errors_insertion {before after : List Char} (plain : '\n' ∉ line) (noise : ¬IsError line)
    (inserted : Insertion line before after) : errors after = errors before := by
  have none := errors_noise plain noise
  cases inserted with
  | between front back border =>
      rw [errors_ended, errors_append front line border, none, List.append_nil, errors_append front back border]
  | last _ border => rw [errors_append before line border, none, List.append_nil]
  | after => rw [errors_ended, none, List.append_nil]

theorem errors_sameButNoise {stderr other : List Char} (same : SameButNoise stderr other) :
    errors other = errors stderr := by
  induction same with
  | rel before after inserted =>
      obtain ⟨line, plain, noise, inserted⟩ := inserted
      exact errors_insertion plain noise inserted
  | refl text => rfl
  | symm before after _ ih => exact ih.symm
  | trans first second third _ _ early late => exact late.trans early

end Noise

section Diagnostics
variable (program : Program)

theorem diagnostics_of_errors {stderr : List Char} (some : errors stderr ≠ []) :
    diagnostics stderr program = (errors stderr).map fun report => report.toDiagnostic program := by
  unfold diagnostics
  split
  · next none => exact absurd none some
  · rfl

theorem length_diagnostics (stderr : List Char) :
    (diagnostics stderr program).length = max 1 (errors stderr).length := by
  by_cases none : errors stderr = []
  · simp [diagnostics, none]
  · rw [diagnostics_of_errors program none, List.length_map]
    have some := List.length_pos_iff.mpr none
    omega

theorem diagnostics_append_iff (first second : List Char) (closed : Text.isClosed first = true) :
    diagnostics (first ++ second) program = diagnostics first program ++ diagnostics second program ↔
      HasError first ∧ HasError second := by
  have whole := errors_append first second closed
  rw [hasError_iff, hasError_iff]
  constructor
  · intro composed
    -- a part without an error adds a diagnostic of its own, which the whole does not have
    have lengths := congrArg List.length composed
    rw [List.length_append, length_diagnostics, length_diagnostics, length_diagnostics, whole,
      List.length_append] at lengths
    rw [← List.length_pos_iff, ← List.length_pos_iff]
    omega
  · rintro ⟨early, late⟩
    have both : errors (first ++ second) ≠ [] := by
      rw [whole]
      exact List.append_ne_nil_of_left_ne_nil early _
    rw [diagnostics_of_errors program both, diagnostics_of_errors program early, diagnostics_of_errors program late,
      whole, List.map_append]

/-- The diagnostics of two reports are those of the first and those of the second exactly when each has an error
of its own; and where there is an error, whole lines that are none change nothing, wherever they stand. -/
theorem diagnostics_by_line :
    (∀ first second, Text.isClosed first = true →
      (diagnostics (first ++ second) program = diagnostics first program ++ diagnostics second program ↔
        HasError first ∧ HasError second)) ∧
    ∀ stderr other, HasError stderr → SameButNoise stderr other →
      diagnostics other program = diagnostics stderr program := by
  constructor
  · intro first second closed
    exact diagnostics_append_iff program first second closed
  · intro stderr other found same
    have some := (hasError_iff stderr).mp found
    have kept := errors_sameButNoise same
    rw [diagnostics_of_errors program some, diagnostics_of_errors program (kept ▸ some), kept]

-- Two errors, the second with a carriage return at its end, and a line that is none.
def typeRecord : List Char :=
  "\x7b\"message\":\"mismatched types\",\"level\":\"error\",\"spans\":[]\x7d".toList

def crashRecord : List Char :=
  "\x7b\"level\":\"error: internal compiler error\",\"message\":\"lost\"\x7d\r".toList

def remark : List Char :=
  "\x7b\"message\":\"unused\",\"level\":\"warning\"\x7d".toList

theorem diagnostics_of_two_records :
    Text.isClosed (typeRecord ++ ['\n']) = true ∧ HasError (typeRecord ++ ['\n']) ∧ HasError crashRecord ∧
      SameButNoise (typeRecord ++ ['\n'] ++ crashRecord) (typeRecord ++ ['\n'] ++ crashRecord ++ '\n' :: remark) ∧
      diagnostics (typeRecord ++ ['\n'] ++ crashRecord) ⟨"", 10, 3⟩ =
        diagnostics (typeRecord ++ ['\n']) ⟨"", 10, 3⟩ ++ diagnostics crashRecord ⟨"", 10, 3⟩ ∧
      diagnostics (typeRecord ++ ['\n'] ++ crashRecord ++ '\n' :: remark) ⟨"", 10, 3⟩ =
        diagnostics (typeRecord ++ ['\n'] ++ crashRecord) ⟨"", 10, 3⟩ := by
  have closed : Text.isClosed (typeRecord ++ ['\n']) = true := by decide +kernel
  have mismatch : IsError typeRecord :=
    (isError_iff typeRecord).mpr ⟨⟨"mismatched types", "error", []⟩, by decide +kernel⟩
  have crash : IsError crashRecord :=
    (isError_iff crashRecord).mpr ⟨⟨"lost", "error: internal compiler error", []⟩, by decide +kernel⟩
  have silent : ¬IsError remark := by
    intro error
    obtain ⟨report, read, counts⟩ := (isError_iff remark).mp error
    have known : Report.read? remark = some ⟨"unused", "warning", []⟩ := by decide +kernel
    cases known.symm.trans read
    exact absurd counts (by decide +kernel)
  have first : HasError (typeRecord ++ ['\n']) := ⟨typeRecord, by decide +kernel, mismatch⟩
  have second : HasError crashRecord := ⟨crashRecord, by decide +kernel, crash⟩
  have both : HasError (typeRecord ++ ['\n'] ++ crashRecord) := ⟨typeRecord, by decide +kernel, mismatch⟩
  have same : SameButNoise (typeRecord ++ ['\n'] ++ crashRecord)
      (typeRecord ++ ['\n'] ++ crashRecord ++ '\n' :: remark) :=
    .rel _ _ ⟨remark, by decide +kernel, silent, .after _⟩
  have laws := diagnostics_by_line ⟨"", 10, 3⟩
  exact ⟨closed, first, second, same, (laws.1 _ _ closed).mpr ⟨first, second⟩, laws.2 _ _ both same⟩

end Diagnostics
end Compile
end SnippetRunner

import SnippetRunner.Proofs.LineEnd.Strings

/-!
Literals at the end of a line. Numbers end with their line, and strings with their closing marks. The first
characters of a text say which scanner reads its literal, so no other scanner gets to read it when more lines
follow.
-/

namespace SnippetRunner.Token

section Numbers

theorem mantissaFrom_lineEnd (dot : Bool) (count : Nat) (text tail : List Char) (ended : LineEnd tail) :
    mantissaFrom dot count (text ++ tail) = mantissaFrom dot count text := by
  induction text generalizing dot count with
  | nil =>
      cases ended with
      | finished => rfl
      | feed rest =>
          have digit : isDigit '\n' = false := by decide
          simp [mantissaFrom, digit]
  | cons c rest ih =>
      simp only [List.cons_append, mantissaFrom, startsWith_lineEnd "." rest tail (by decide) ended,
        wordCount_lineEnd rest tail ended, ih]

theorem mantissaFrom_le (dot : Bool) (count : Nat) (text : List Char) (found : Nat × FloatEnd)
    (read : mantissaFrom dot count text = some found) : found.1 ≤ count + text.length := by
  induction text generalizing dot count with
  | nil =>
      cases read
      exact Nat.le_refl count
  | cons c rest ih =>
      simp only [mantissaFrom] at read
      simp only [List.length_cons]
      split at read
      · have bound := ih dot (count + 1) read
        omega
      · split at read
        · split at read
          · cases read
            simp
          · split at read
            · cases read
            · have bound := ih true (count + 1) read
              omega
        · split at read
          · cases read
            simp only
            omega
          · cases read
            simp

theorem exponentFrom_lineEnd (sign value : Bool) (count : Nat) (text tail : List Char)
    (ended : LineEnd tail) :
    exponentFrom sign value count (text ++ tail) = exponentFrom sign value count text := by
  induction text generalizing sign value count with
  | nil =>
      cases ended with
      | finished => rfl
      | feed rest =>
          have digit : isDigit '\n' = false := by decide
          simp [exponentFrom, digit]
  | cons c rest ih => simp only [List.cons_append, exponentFrom, ih]

theorem exponentFrom_le (sign value : Bool) (count : Nat) (text : List Char) (found : Nat)
    (read : exponentFrom sign value count text = some found) : found ≤ count + text.length := by
  induction text generalizing sign value count with
  | nil =>
      simp only [exponentFrom] at read
      split at read <;> cases read
      simp
  | cons c rest ih =>
      simp only [exponentFrom] at read
      simp only [List.length_cons]
      split at read
      · split at read
        · cases read
          omega
        · split at read
          · cases read
          · have bound := ih true value (count + 1) read
            omega
      · split at read
        · have bound := ih sign true (count + 1) read
          omega
        · split at read
          · have bound := ih sign value (count + 1) read
            omega
          · split at read <;> cases read
            omega

theorem floatDigits_lineEnd (text tail : List Char) (ended : LineEnd tail) :
    floatDigits? (text ++ tail) = floatDigits? text := by
  cases text with
  | nil =>
      cases ended with
      | finished => rfl
      | feed rest =>
          have digit : isDigit '\n' = false := by decide
          simp [floatDigits?, digit]
  | cons c rest =>
      simp only [List.cons_append, floatDigits?, mantissaFrom_lineEnd false 1 rest tail ended]
      cases mantissa : mantissaFrom false 1 rest with
      | none => rfl
      | some found =>
          have bound := mantissaFrom_le false 1 rest found mantissa
          obtain ⟨count, ending⟩ := found
          cases ending with
          | bare => rfl
          | dot => rfl
          | exponent dot =>
              simp only at bound ⊢
              rw [← List.cons_append, List.drop_append_of_le_length (by simp only [List.length_cons]; omega),
                exponentFrom_lineEnd false false count _ tail ended]

theorem floatDigits_le (text : List Char) (count : Nat) (read : floatDigits? text = some count) :
    count ≤ text.length := by
  cases text with
  | nil => cases read
  | cons c rest =>
      simp only [floatDigits?] at read
      simp only [List.length_cons]
      split at read
      · cases mantissa : mantissaFrom false 1 rest with
        | none =>
            rw [mantissa] at read
            cases read
        | some found =>
            have bound := mantissaFrom_le false 1 rest found mantissa
            obtain ⟨digits, ending⟩ := found
            rw [mantissa] at read
            simp only at bound
            cases ending with
            | bare => cases read
            | dot =>
                cases read
                omega
            | exponent dot =>
                simp only at read
                split at read
                · next all scanned =>
                    cases read
                    have whole := exponentFrom_le false false digits _ count scanned
                    rw [List.length_drop, List.length_cons] at whole
                    omega
                · split at read <;> cases read
                  omega
      · cases read

theorem digitsFrom_lineEnd (base : Nat) (any : Bool) (count : Nat) (text tail : List Char)
    (ended : LineEnd tail) : digitsFrom base any count (text ++ tail) = digitsFrom base any count text := by
  induction text generalizing any count with
  | nil => cases ended <;> simp [digitsFrom, hexValue_feed]
  | cons c rest ih => simp only [List.cons_append, digitsFrom, ih]

theorem digitsFrom_le (base : Nat) (any : Bool) (count : Nat) (text : List Char) (found : Nat)
    (read : digitsFrom base any count text = some found) : found ≤ count + text.length := by
  induction text generalizing any count with
  | nil =>
      simp only [digitsFrom] at read
      split at read <;> cases read
      simp
  | cons c rest ih =>
      simp only [digitsFrom] at read
      simp only [List.length_cons]
      split at read
      · split at read
        · cases read
        · have bound := ih any (count + 1) read
          omega
      · split at read
        · split at read
          · have bound := ih true (count + 1) read
            omega
          · split at read
            · cases read
            · split at read <;> cases read
              omega
        · split at read <;> cases read
          omega

theorem integerDigits_lineEnd (text tail : List Char) (ended : LineEnd tail) :
    integerDigits? (text ++ tail) = integerDigits? text := by
  have based (front : String) (plain : '\n' ∉ front.toList) (two : front.toList.length = 2) (base : Nat)
      (starts : startsWith front text = true) :
      digitsFrom base false 2 ((text ++ tail).drop 2) = digitsFrom base false 2 (text.drop 2) := by
    have long := length_le_of_startsWith front text starts
    rw [List.drop_append_of_le_length (by omega), digitsFrom_lineEnd base false 2 _ tail ended]
  unfold integerDigits?
  rw [startsWith_lineEnd "0x" text tail (by decide) ended, startsWith_lineEnd "0o" text tail (by decide) ended,
    startsWith_lineEnd "0b" text tail (by decide) ended]
  split
  · next starts => exact based "0x" (by decide) rfl 16 starts
  · split
    · next starts => exact based "0o" (by decide) rfl 8 starts
    · split
      · next starts => exact based "0b" (by decide) rfl 2 starts
      · exact digitsFrom_lineEnd 10 false 0 text tail ended

theorem integerDigits_le (text : List Char) (count : Nat) (read : integerDigits? text = some count) :
    count ≤ text.length := by
  have based (front : String) (two : front.toList.length = 2) (base : Nat)
      (starts : startsWith front text = true) (scanned : digitsFrom base false 2 (text.drop 2) = some count) :
      count ≤ text.length := by
    have long := length_le_of_startsWith front text starts
    have bound := digitsFrom_le base false 2 _ count scanned
    rw [List.length_drop] at bound
    omega
  unfold integerDigits? at read
  split at read
  · next starts => exact based "0x" rfl 16 starts read
  · split at read
    · next starts => exact based "0o" rfl 8 starts read
    · split at read
      · next starts => exact based "0b" rfl 2 starts read
      · have bound := digitsFrom_le 10 false 0 text count read
        omega

theorem closed_lineEnd (text tail : List Char) (ended : LineEnd tail) (digits : Option Nat)
    (bound : ∀ count, digits = some count → count ≤ text.length) :
    closed? (text ++ tail) digits = closed? text digits := by
  cases digits with
  | none => rfl
  | some count =>
      have long := bound count rfl
      simp only [closed?, suffixed_lineEnd text tail count long ended,
        List.drop_append_of_le_length (suffixed_le text count long), breaksWord_lineEnd _ tail ended]

theorem closed_le (text : List Char) (digits : Option Nat)
    (bound : ∀ count, digits = some count → count ≤ text.length) (found : Nat)
    (read : closed? text digits = some found) : found ≤ text.length := by
  cases digits with
  | none => cases read
  | some count =>
      simp only [closed?] at read
      split at read <;> cases read
      exact suffixed_le text count (bound count rfl)

theorem float_lineEnd (text tail : List Char) (ended : LineEnd tail) :
    float? (text ++ tail) = float? text := by
  unfold float?
  rw [floatDigits_lineEnd text tail ended]
  exact closed_lineEnd text tail ended _ (floatDigits_le text)

theorem integer_lineEnd (text tail : List Char) (ended : LineEnd tail) :
    integer? (text ++ tail) = integer? text := by
  unfold integer?
  rw [integerDigits_lineEnd text tail ended]
  exact closed_lineEnd text tail ended _ (integerDigits_le text)

end Numbers

section Literals

def number? (text : List Char) : Option Nat :=
  (float? text).or (integer? text)

theorem number_lineEnd (text tail : List Char) (ended : LineEnd tail) :
    number? (text ++ tail) = number? text := by
  simp only [number?, float_lineEnd text tail ended, integer_lineEnd text tail ended]

theorem number_le (text : List Char) (count : Nat) (read : number? text = some count) :
    count ≤ text.length := by
  rcases Option.or_eq_some_iff.mp read with float | ⟨_, integer⟩
  · exact closed_le text _ (floatDigits_le text) count float
  · exact closed_le text _ (integerDigits_le text) count integer

theorem string_head (mark : String) (first : Char) (front : List Char) (whole : mark.toList = first :: front)
    (kind : StringKind) (c : Char) (rest : List Char) (different : c ≠ first) :
    string? mark kind (c :: rest) = none := by
  have unmarked (tail : String) : startsWith (mark ++ tail) (c :: rest) = false := by
    simp [startsWith, whole, List.isPrefixOf, different.symm]
  simp [string?, unmarked]

theorem string_plain_head (kind : StringKind) (c : Char) (rest : List Char) (quote : c ≠ '"') (raw : c ≠ 'r') :
    string? "" kind (c :: rest) = none := by
  simp [string?, startsWith, List.isPrefixOf, quote.symm, raw.symm]

theorem single_head (mark : String) (first : Char) (front : List Char)
    (whole : (mark ++ "'").toList = first :: front) (kind : StringKind) (c : Char) (rest : List Char)
    (different : c ≠ first) : single? mark kind (c :: rest) = none := by
  have unmarked : startsWith (mark ++ "'") (c :: rest) = false := by
    simp [startsWith, whole, List.isPrefixOf, different.symm]
  simp [single?, unmarked]

theorem hexValue_letter (c : Char) (digit : Nat) (other : isDigit c = false) (known : hexValue? c = some digit) :
    10 ≤ digit := by
  unfold hexValue? at known
  split at known
  · next decimal => simp [isDigit, decimal] at other
  · split at known
    · cases known
      omega
    · split at known <;> cases known
      omega

theorem number_head (c : Char) (rest : List Char) (other : isDigit c = false) : number? (c :: rest) = none := by
  have zero : c ≠ '0' := by
    rintro rfl
    revert other
    decide
  have noFloat : float? (c :: rest) = none := by simp [float?, floatDigits?, other, closed?]
  have digits : integerDigits? (c :: rest) = none := by
    have based (second : String) : startsWith ("0" ++ second) (c :: rest) = false := by
      simp [startsWith, List.isPrefixOf, zero.symm]
    have decimal : digitsFrom 10 false 0 (c :: rest) = none := by
      simp only [digitsFrom]
      split
      · rfl
      · split
        · next digit known =>
            have large := hexValue_letter c digit other known
            rw [if_neg (by omega)]
            simp
        · rfl
    have x := based "x"
    have o := based "o"
    have b := based "b"
    simp only [String.reduceAppend] at x o b
    simp [integerDigits?, x, o, b, decimal]
  simp [number?, noFloat, integer?, digits, closed?]

-- What comes after the mark of a literal says of which of two kinds it is.
theorem string_none_of_single (text : List Char) (count : Nat)
    (read : single? "b" .octets text = some count) : string? "b" .octets text = none := by
  have starts : startsWith "b'" text = true := by
    unfold single? at read
    split at read
    · next starts => exact starts
    · cases read
  obtain ⟨rest, rfl⟩ := (startsWith_iff _ _).mp starts
  rfl

def octets? (text : List Char) : Option Nat :=
  (string? "b" .octets text).or (single? "b" .octets text)

-- The scanner that reads the literals with this first character.
def scannerAt (c : Char) : List Char → Option Nat :=
  if c = '"' ∨ c = 'r' then string? "" .text
  else if c = 'b' then octets?
  else if c = 'c' then string? "c" .noNul
  else if c = '\'' then single? "" .text
  else number?

theorem literal_scanners (text : List Char) :
    literal? text = (string? "" .text text).or ((string? "b" .octets text).or ((string? "c" .noNul text).or
      ((single? "b" .octets text).or ((single? "" .text text).or (number? text))))) := by
  have first (found : Option Nat) (rest : List (List Char → Option Nat)) (scanner : List Char → Option Nat)
      (here : scanner text = found) : firstSome (scanner :: rest) text = found.or (firstSome rest text) := by
    subst here
    simp only [firstSome, List.findSome?_cons]
    cases scanner text <;> rfl
  simp only [literal?, first _ _ _ rfl, number?]
  simp [firstSome]

theorem literal_scannerAt (c : Char) (rest : List Char) : literal? (c :: rest) = scannerAt c (c :: rest) := by
  have plain := string_plain_head .text c rest
  have octets := string_head "b" 'b' [] rfl .octets c rest
  have noNul := string_head "c" 'c' [] rfl .noNul c rest
  have octet := single_head "b" 'b' ['\''] rfl .octets c rest
  have single := single_head "" '\'' [] rfl .text c rest
  have number := number_head c rest
  rw [literal_scanners]
  unfold scannerAt octets?
  by_cases text : c = '"' ∨ c = 'r'
  · rw [if_pos text]
    rcases text with rfl | rfl
    · simp [octets, noNul, octet, single, number (by decide)]
    · simp [octets, noNul, octet, single, number (by decide)]
  rw [if_neg text]
  rw [not_or] at text
  rw [plain text.1 text.2]
  by_cases isB : c = 'b'
  · subst isB
    simp [noNul, single, number (by decide)]
  rw [if_neg isB, octets isB, octet isB]
  by_cases isC : c = 'c'
  · subst isC
    simp [single, number (by decide)]
  rw [if_neg isC, noNul isC]
  by_cases quote : c = '\''
  · subst quote
    simp [number (by decide)]
  · rw [if_neg quote, single quote]
    simp

theorem octets_next (text last next : List Char) (isLast : LastLineEnd last) (ended : LineEnd next)
    (found : Nat) (read : octets? (text ++ last) = some found) :
    found ≤ text.length ∧ octets? (text ++ next) = some found := by
  unfold octets? at read ⊢
  rcases Option.or_eq_some_iff.mp read with several | ⟨_, one⟩
  · have ⟨bound, same⟩ := string_next "b" (by decide) .octets text last next isLast ended found several
    exact ⟨bound, by rw [same, Option.some_or]⟩
  · have ⟨bound, same⟩ := single_next "b" (by decide) .octets text last next isLast ended found one
    exact ⟨bound, by rw [string_none_of_single _ _ same, same, Option.none_or]⟩

theorem scannerAt_next (c : Char) (text last next : List Char) (isLast : LastLineEnd last)
    (ended : LineEnd next) (found : Nat) (read : scannerAt c (text ++ last) = some found) :
    found ≤ text.length ∧ scannerAt c (text ++ next) = some found := by
  unfold scannerAt at read ⊢
  split at read
  · next front =>
      rw [if_pos front]
      exact string_next "" (by decide) .text text last next isLast ended found read
  · next front =>
      rw [if_neg front]
      split at read
      · next isB =>
          rw [if_pos isB]
          exact octets_next text last next isLast ended found read
      · next isB =>
          rw [if_neg isB]
          split at read
          · next isC =>
              rw [if_pos isC]
              exact string_next "c" (by decide) .noNul text last next isLast ended found read
          · next isC =>
              rw [if_neg isC]
              split at read
              · next quote =>
                  rw [if_pos quote]
                  exact single_next "" (by decide) .text text last next isLast ended found read
              · next quote =>
                  rw [if_neg quote]
                  rw [number_lineEnd text last isLast.lineEnd] at read
                  rw [number_lineEnd text next ended]
                  exact ⟨number_le text found read, read⟩

theorem literal_next (c : Char) (rest last next : List Char) (isLast : LastLineEnd last) (ended : LineEnd next)
    (found : Nat) (read : literal? (c :: rest ++ last) = some found) :
    found ≤ (c :: rest).length ∧ literal? (c :: rest ++ next) = some found := by
  rw [List.cons_append, literal_scannerAt, ← List.cons_append] at read
  rw [List.cons_append, literal_scannerAt, ← List.cons_append]
  exact scannerAt_next c (c :: rest) last next isLast ended found read

end Literals
end SnippetRunner.Token

import SnippetRunner.Token.Lexer

/-!
Scanners at the end of a line. A scanner of names or escapes does not see what follows a line end, so it reads a
text as it reads the text with more lines after it.
-/

namespace SnippetRunner.Token

section Tails

/-- What may follow a text at the end of a line. -/
inductive LineEnd : List Char → Prop where
  | finished : LineEnd []
  | feed (rest : List Char) : LineEnd ('\n' :: rest)

/-- What may follow the last line of a text. -/
inductive LastLineEnd : List Char → Prop where
  | finished : LastLineEnd []
  | feed : LastLineEnd ['\n']

theorem LastLineEnd.lineEnd {tail : List Char} (last : LastLineEnd tail) : LineEnd tail := by
  cases last
  · exact .finished
  · exact .feed []

theorem takeWhile_lineEnd (keep : Char → Bool) (stops : keep '\n' = false) (text tail : List Char)
    (ended : LineEnd tail) : (text ++ tail).takeWhile keep = text.takeWhile keep := by
  induction text with
  | nil => cases ended <;> simp [stops]
  | cons c rest ih => cases kept : keep c <;> simp [kept, ih]

-- A text without the character that comes next starts another text only if it stands before that character.
theorem isPrefixOf_stop (front text : List Char) (stop : Char) (rest : List Char) (absent : stop ∉ front) :
    front.isPrefixOf (text ++ stop :: rest) = front.isPrefixOf text := by
  induction front generalizing text with
  | nil => rfl
  | cons c more ih =>
      have different : c ≠ stop := fun equal => absent (equal ▸ List.mem_cons_self)
      cases text with
      | nil => simp [List.isPrefixOf, different]
      | cons d rest =>
          simp only [List.cons_append, List.isPrefixOf]
          rw [ih rest (fun member => absent (List.mem_cons_of_mem c member))]

theorem isPrefixOf_lineEnd (front text tail : List Char) (plain : '\n' ∉ front) (ended : LineEnd tail) :
    front.isPrefixOf (text ++ tail) = front.isPrefixOf text := by
  cases ended with
  | finished => rw [List.append_nil]
  | feed rest => exact isPrefixOf_stop front text '\n' rest plain

theorem startsWith_lineEnd (front : String) (text tail : List Char) (plain : '\n' ∉ front.toList)
    (ended : LineEnd tail) : startsWith front (text ++ tail) = startsWith front text :=
  isPrefixOf_lineEnd front.toList text tail plain ended

theorem startsWith_iff (front : String) (text : List Char) :
    startsWith front text = true ↔ front.toList <+: text :=
  List.isPrefixOf_iff_prefix

-- What a list of characters is known for by evaluation.
theorem each_of_all {p : Char → Prop} [DecidablePred p] (chars : List Char)
    (evaluated : chars.all (fun c => decide (p c)) = true) (c : Char) (member : c ∈ chars) : p c :=
  of_decide_eq_true (List.all_eq_true.mp evaluated c member)

theorem length_le_of_startsWith (front : String) (text : List Char) (starts : startsWith front text = true) :
    front.toList.length ≤ text.length :=
  ((startsWith_iff front text).mp starts).length_le

end Tails

section Words

theorem wordCount_lineEnd (text tail : List Char) (ended : LineEnd tail) :
    wordCount (text ++ tail) = wordCount text := by
  cases text with
  | nil =>
      cases ended with
      | finished => rfl
      | feed rest =>
          have stops : Text.Ident.isStart '\n' = false := by decide
          simp [wordCount, stops]
  | cons c rest =>
      simp only [List.cons_append, wordCount]
      rw [takeWhile_lineEnd _ (by decide) rest tail ended]

theorem wordCount_le (text : List Char) : wordCount text ≤ text.length := by
  cases text with
  | nil => exact Nat.le_refl 0
  | cons c rest =>
      have shorter := (List.takeWhile_prefix (l := rest) Text.Ident.isContinue).length_le
      simp only [wordCount]
      split
      · simp only [List.length_cons]
        omega
      · exact Nat.zero_le _

theorem breaksWord_lineEnd (text tail : List Char) (ended : LineEnd tail) :
    breaksWord (text ++ tail) = breaksWord text := by
  cases text with
  | nil =>
      cases ended with
      | finished => rfl
      | feed rest =>
          show (!Text.Ident.isContinue '\n') = true
          decide
  | cons c rest => rfl

theorem identifier_lineEnd (text tail : List Char) (ended : LineEnd tail) :
    identifier? (text ++ tail) = identifier? text := by
  unfold identifier?
  rw [startsWith_lineEnd "r#" text tail (by decide) ended]
  split
  · next raw =>
      have long : 2 ≤ text.length := length_le_of_startsWith "r#" text raw
      simp only [List.drop_append_of_le_length long, wordCount_lineEnd _ tail ended,
        List.take_append_of_le_length (wordCount_le _)]
  · simp only [wordCount_lineEnd text tail ended, List.take_append_of_le_length (wordCount_le text)]

theorem identifier_count (text name : List Char) (raw : Bool) (count : Nat)
    (read : identifier? text = some (name, raw, count)) : 0 < count ∧ count ≤ text.length := by
  unfold identifier? at read
  split at read
  · next front =>
      have long : 2 ≤ text.length := length_le_of_startsWith "r#" text front
      have bound := wordCount_le (text.drop 2)
      simp only at read
      split at read
      · cases read
      · cases read
        rw [List.length_drop] at bound
        omega
  · have bound := wordCount_le text
    simp only at read
    split at read
    · cases read
    · next nonzero =>
        cases read
        simp only [beq_iff_eq] at nonzero
        omega

theorem suffixed_lineEnd (text tail : List Char) (count : Nat) (bound : count ≤ text.length)
    (ended : LineEnd tail) : suffixed (text ++ tail) count = suffixed text count := by
  unfold suffixed
  rw [List.drop_append_of_le_length bound, wordCount_lineEnd _ tail ended]

theorem suffixed_le (text : List Char) (count : Nat) (bound : count ≤ text.length) :
    suffixed text count ≤ text.length := by
  have more := wordCount_le (text.drop count)
  rw [List.length_drop] at more
  unfold suffixed
  omega

end Words

/-! Escapes are read up to a line end at most. -/
section Escapes

theorem hexValue_feed : hexValue? '\n' = none := by decide

theorem scalarDigits_lineEnd (value digits count : Nat) (text tail : List Char) (ended : LineEnd tail) :
    scalarDigits value digits count (text ++ tail) = scalarDigits value digits count text := by
  induction text generalizing value digits count with
  | nil => cases ended <;> simp [scalarDigits, hexValue_feed]
  | cons c rest ih =>
      simp only [List.cons_append, scalarDigits, ih]

theorem scalarDigits_le (value digits count : Nat) (text : List Char) (found : Nat × Nat)
    (read : scalarDigits value digits count text = some found) : found.2 ≤ count + text.length := by
  fun_induction scalarDigits value digits count text with
  | case1 => cases read
  | case2 value digits count c rest _ ih =>
      have bound := ih read
      simp only [List.length_cons]
      omega
  | case3 value digits count c rest =>
      cases read
      simp only [List.length_cons]
      omega
  | case4 => cases read
  | case5 => cases read
  | case6 => cases read
  | case7 value digits count c rest _ _ _ _ _ ih =>
      have bound := ih read
      simp only [List.length_cons]
      omega

theorem scalar_lineEnd (text tail : List Char) (ended : LineEnd tail) :
    scalar? (text ++ tail) = scalar? text := by
  cases text with
  | nil => cases ended <;> rfl
  | cons c rest =>
      by_cases brace : c = '\x7b'
      · subst brace
        exact scalarDigits_lineEnd 0 0 1 rest tail ended
      · unfold scalar?
        split
        · next equal =>
            simp only [List.cons_append, List.cons.injEq] at equal
            exact absurd equal.1 brace
        · split
          · next equal =>
              simp only [List.cons.injEq] at equal
              exact absurd equal.1 brace
          · rfl

theorem hexPair_lineEnd (kind : StringKind) (text tail : List Char) (ended : LineEnd tail) :
    hexPair? kind (text ++ tail) = hexPair? kind text := by
  match text with
  | [] =>
      cases ended with
      | finished => rfl
      | feed rest => cases rest <;> simp [hexPair?, hexValue_feed]
  | [high] =>
      cases ended with
      | finished => rfl
      | feed rest => cases known : hexValue? high <;> simp [hexPair?, hexValue_feed, known]
  | high :: low :: rest => rfl

theorem escape_lineEnd (kind : StringKind) (text tail : List Char) (ended : LineEnd tail) :
    escape? kind (text ++ tail) = escape? kind text := by
  cases text with
  | nil => cases ended <;> simp [escape?]
  | cons c rest =>
      simp only [List.cons_append, escape?, hexPair_lineEnd kind rest tail ended,
        scalar_lineEnd rest tail ended]

theorem scalar_le (text : List Char) (found : Nat × Nat) (read : scalar? text = some found) :
    found.2 ≤ text.length := by
  unfold scalar? at read
  split at read
  · next rest =>
      have bound := scalarDigits_le 0 0 1 rest found read
      simp only [List.length_cons]
      omega
  · cases read

theorem hexPair_le (kind : StringKind) (text : List Char) (read : hexPair? kind text = true) :
    2 ≤ text.length := by
  unfold hexPair? at read
  split at read
  · simp
  · cases read

theorem escape_le (kind : StringKind) (text : List Char) (count : Nat)
    (read : escape? kind text = some count) : count ≤ text.length := by
  cases text with
  | nil => cases read
  | cons c rest =>
      simp only [escape?] at read
      simp only [List.length_cons]
      split at read
      · split at read
        · next pair =>
            cases read
            have bound := hexPair_le kind rest pair
            omega
        · cases read
      · split at read
        · split at read <;> cases read
          omega
        · split at read
          · cases read
            omega
          · split at read
            · split at read
              · cases read
              · next found scalar =>
                  have bound := scalar_le rest _ scalar
                  split at read <;> cases read
                  omega
            · cases read

end Escapes
end SnippetRunner.Token

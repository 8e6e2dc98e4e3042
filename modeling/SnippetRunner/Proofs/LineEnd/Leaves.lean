import SnippetRunner.Proofs.LineEnd.Literals

/-!
Leaves at the end of a line. A text starts with a leaf of one kind only, so the order in which the kinds are tried
does not matter, and a leaf that is complete before the last line end is the same leaf when more lines follow.
-/

namespace SnippetRunner.Token

section Leaves

theorem startsMark_lineEnd (text tail : List Char) (ended : LineEnd tail) :
    startsMark (text ++ tail) = startsMark text := by
  cases text with
  | nil =>
      cases ended with
      | finished => rfl
      | feed rest =>
          have other : '\n' ∉ marks := by decide
          simp [startsMark, other]
  | cons c rest =>
      simp only [List.cons_append, startsMark, startsWith_lineEnd "/" rest tail (by decide) ended,
        startsWith_lineEnd "*" rest tail (by decide) ended]

theorem namesLifetime_lineEnd (rest tail : List Char) (ended : LineEnd tail) :
    namesLifetime (rest ++ tail) = namesLifetime rest := by
  simp only [namesLifetime, identifier_lineEnd rest tail ended]
  cases read : identifier? rest with
  | none => rfl
  | some found =>
      obtain ⟨name, raw, count⟩ := found
      have bound := (identifier_count rest name raw count read).2
      simp only [List.drop_append_of_le_length bound, startsWith_lineEnd "'" _ tail (by decide) ended,
        startsWith_lineEnd "#" _ tail (by decide) ended]

theorem mark_lineEnd (text tail : List Char) (ended : LineEnd tail) : mark? (text ++ tail) = mark? text := by
  cases text with
  | nil =>
      cases ended with
      | finished => rfl
      | feed rest =>
          have other : startsMark ('\n' :: rest) = false := startsMark_lineEnd [] _ (.feed rest)
          simp [mark?, other]
  | cons c rest =>
      have starts := startsMark_lineEnd (c :: rest) tail ended
      rw [List.cons_append] at starts
      simp only [List.cons_append, mark?, starts, startsMark_lineEnd rest tail ended,
        namesLifetime_lineEnd rest tail ended]

theorem word_lineEnd (text tail : List Char) (ended : LineEnd tail) : word? (text ++ tail) = word? text := by
  have fronts : quotedFronts.any (startsWith · (text ++ tail)) = quotedFronts.any (startsWith · text) := by
    have plain : ∀ front ∈ quotedFronts, '\n' ∉ front.toList := by decide
    rw [Bool.eq_iff_iff, List.any_eq_true, List.any_eq_true]
    refine exists_congr fun front => and_congr_right fun member => ?_
    rw [startsWith_lineEnd front text tail (plain front member) ended]
  simp only [word?, fronts, identifier_lineEnd text tail ended]

theorem mark_count (text : List Char) (found : Lexeme) (count : Nat)
    (read : mark? text = some (found, count)) : 0 < count ∧ count ≤ text.length := by
  unfold mark? at read
  split at read
  · cases read
  · simp only [List.length_cons]
    split at read
    · split at read
      · split at read <;> cases read
        omega
      · cases read
        omega
    · cases read

-- A quote with one character and another quote after it is no lifetime.
theorem closed_names_none (c : Char) (after : List Char) : namesLifetime (c :: '\'' :: after) = false := by
  have cooked : startsWith "r#" (c :: '\'' :: after) = false := by
    simp [startsWith, List.isPrefixOf]
  have closes : Text.Ident.isContinue '\'' = false := by decide
  have quoted : startsWith "'" ('\'' :: after) = true := rfl
  cases starts : Text.Ident.isStart c <;>
    simp [namesLifetime, identifier?, cooked, wordCount, starts, closes, quoted]

theorem escaped_names_none (rest : List Char) : namesLifetime ('\\' :: rest) = false := by
  have cooked : startsWith "r#" ('\\' :: rest) = false := by
    simp [startsWith, List.isPrefixOf]
  have starts : Text.Ident.isStart '\\' = false := by decide
  simp [namesLifetime, identifier?, cooked, wordCount, starts]

theorem single_none_of_lifetime (rest : List Char) (names : namesLifetime rest = true) :
    single? "" .text ('\'' :: rest) = none := by
  cases read : single? "" .text ('\'' :: rest) with
  | none => rfl
  | some found =>
      rw [single_eq] at read
      split at read
      · obtain ⟨count, body, closed⟩ := Option.bind_eq_some_iff.mp read
        simp only [String.length_empty, Nat.zero_add, List.drop_succ_cons, List.drop_zero] at body
        cases rest with
        | nil => cases body
        | cons c more =>
            by_cases backslash : c = '\\'
            · rw [backslash, escaped_names_none] at names
              cases names
            · simp [singleBody?, StringKind.admits] at body
              subst body
              split at closed
              · next quote =>
                  obtain ⟨after, equal⟩ := (startsWith_iff _ _).mp quote
                  simp at equal
                  rw [← equal, closed_names_none] at names
                  cases names
              · cases closed
      · cases read

theorem literal_none_of_mark (text : List Char) (found : Lexeme) (count : Nat)
    (read : mark? text = some (found, count)) : literal? text = none := by
  cases text with
  | nil => cases read
  | cons c rest =>
      simp only [mark?] at read
      split at read
      · next starts =>
          have isMark : c ∈ marks := by
            simp only [startsMark, Bool.and_eq_true, List.contains_iff_mem] at starts
            exact starts.1
          have fronts : isDigit c = false ∧ ¬ (c = '"' ∨ c = 'r') ∧ c ≠ 'b' ∧ c ≠ 'c' := by
            apply each_of_all marks _ c isMark
            decide
          obtain ⟨noDigit, noText, noB, noC⟩ := fronts
          rw [literal_scannerAt, scannerAt, if_neg noText, if_neg noB, if_neg noC]
          by_cases quote : c = '\''
          · subst quote
            rw [if_pos rfl]
            by_cases names : namesLifetime rest = true
            · exact single_none_of_lifetime rest names
            · simp [names] at read
          · rw [if_neg quote]
            exact number_head c rest noDigit
      · cases read

theorem startsWith_append (mark front : String) (text : List Char) :
    startsWith (mark ++ front) text = (startsWith mark text && startsWith front (text.drop mark.length)) := by
  unfold startsWith
  rw [String.toList_append, ← String.length_toList]
  induction mark.toList generalizing text with
  | nil => simp
  | cons c more ih => cases text <;> simp [List.isPrefixOf, ih, Bool.and_assoc]

-- A raw string starts with its fence and a quote.
theorem rawString_fence (kind : StringKind) (opening : Nat) (text : List Char) (count : Nat)
    (read : rawString? kind opening text = some count) :
    ∃ fence ∈ ["\"", "#\"", "##"], startsWith fence (text.drop opening) = true := by
  unfold rawString? at read
  simp only [← List.drop_drop] at read
  have parts := List.prefix_iff_eq_append.mp (List.takeWhile_prefix (l := text.drop opening) (· == '#'))
  have signs : ∀ c ∈ (text.drop opening).takeWhile (· == '#'), c = '#' := by
    intro c member
    exact beq_iff_eq.mp (List.all_eq_true.mp List.all_takeWhile c member)
  generalize (text.drop opening).takeWhile (· == '#') = fence at read parts signs
  split at read
  · cases read
  · split at read
    · next body quote =>
        rw [quote] at parts
        rw [← parts]
        match fence with
        | [] => exact ⟨"\"", by decide, rfl⟩
        | [c] =>
            obtain rfl := signs c (by simp)
            exact ⟨"#\"", by decide, rfl⟩
        | c :: d :: more =>
            obtain rfl := signs c (by simp)
            obtain rfl := signs d (by simp)
            exact ⟨"##", by decide, rfl⟩
    · cases read

theorem string_none (mark : String) (kind : StringKind) (text : List Char)
    (noQuote : startsWith (mark ++ "\"") text = false)
    (noFence : ∀ fence ∈ ["\"", "#\"", "##"], startsWith (mark ++ "r" ++ fence) text = false) :
    string? mark kind text = none := by
  cases read : string? mark kind text with
  | none => rfl
  | some count =>
      unfold string? at read
      rw [noQuote] at read
      split at read
      · contradiction
      · split at read
        · next raw =>
            obtain ⟨fence, member, starts⟩ := rawString_fence kind _ text count read
            have absent := noFence fence member
            have one : "r".length = 1 := rfl
            rw [startsWith_append, raw, String.length_append, one, starts] at absent
            cases absent
        · cases read

theorem identifier_head (c : Char) (rest name : List Char) (raw : Bool) (count : Nat)
    (read : identifier? (c :: rest) = some (name, raw, count)) : Text.Ident.isStart c = true := by
  unfold identifier? at read
  split at read
  · next front =>
      obtain ⟨after, equal⟩ := (startsWith_iff _ _).mp front
      cases equal
      decide
  · cases starts : Text.Ident.isStart c with
    | true => rfl
    | false => simp [wordCount, starts] at read

-- No word starts like a literal of one character or a number.
theorem start_plain (c : Char) (starts : Text.Ident.isStart c = true) :
    c ≠ '"' ∧ c ≠ '\'' ∧ isDigit c = false := by
  refine ⟨?_, ?_, ?_⟩
  · rintro rfl
    cases starts
  · rintro rfl
    cases starts
  · cases digit : isDigit c with
    | false => rfl
    | true =>
        have low : c.toNat ≤ 0x39 := by
          simp only [isDigit, Bool.and_eq_true, decide_eq_true_eq] at digit
          exact digit.2
        have high : 0x41 ≤ c.toNat := by
          simp only [Text.Ident.isStart, Text.Ident.isLetter, Bool.or_eq_true, Bool.and_eq_true,
            decide_eq_true_eq, beq_iff_eq] at starts
          rcases starts with ((⟨lower, _⟩ | ⟨upper, _⟩) | rfl) | ⟨beyond, _⟩
          · have bound : 0x61 ≤ c.toNat := lower
            omega
          · exact upper
          · decide
          · omega
        omega

theorem word_parts (text : List Char) (found : Lexeme) (count : Nat)
    (read : word? text = some (found, count)) :
    (∀ front ∈ quotedFronts, startsWith front text = false) ∧
      ∃ name raw, identifier? text = some (name, raw, count) ∧ found = .word name raw := by
  unfold word? at read
  split at read
  · cases read
  · next unquoted =>
      obtain ⟨⟨name, raw, length⟩, named, equal⟩ := Option.map_eq_some_iff.mp read
      cases equal
      exact ⟨by simpa using unquoted, name, raw, named, rfl⟩

theorem string_none_of_word (mark : String) (kind : StringKind) (text : List Char)
    (absent : ∀ front ∈ quotedFronts, startsWith front text = false) (quoted : mark ++ "\"" ∈ quotedFronts)
    (raw : mark ++ "r\"" ∈ quotedFronts) (fenced : mark ++ "r#" ∈ quotedFronts) :
    string? mark kind text = none := by
  have longer (more : String) : startsWith (mark ++ "r#" ++ more) text = false := by
    rw [startsWith_append, absent _ fenced]
    rfl
  refine string_none mark kind text (absent _ quoted) ?_
  intro fence member
  simp only [List.mem_cons, List.not_mem_nil, or_false] at member
  rw [String.append_assoc]
  rcases member with rfl | rfl | rfl
  · exact absent _ raw
  · simpa only [String.append_assoc, String.reduceAppend] using longer "\""
  · simpa only [String.append_assoc, String.reduceAppend] using longer "#"

theorem literal_none_of_word (text : List Char) (found : Lexeme) (count : Nat)
    (read : word? text = some (found, count)) : literal? text = none := by
  obtain ⟨absent, name, raw, named, _⟩ := word_parts text found count read
  cases text with
  | nil => rfl
  | cons c rest =>
      have ⟨noQuote, noSingle, noDigit⟩ := start_plain c (identifier_head c rest name raw count named)
      rw [literal_scannerAt, scannerAt, if_neg noSingle]
      by_cases isR : c = 'r'
      · subst isR
        rw [if_pos (.inr rfl)]
        refine string_none "" .text ('r' :: rest) rfl ?_
        intro fence member
        exact absent ("r" ++ fence) (by revert fence; decide)
      by_cases isB : c = 'b'
      · subst isB
        have one : single? "b" .octets ('b' :: rest) = none := by
          have unquoted := absent "b'" (by decide)
          simp [single?, unquoted]
        rw [if_neg (by decide), if_pos rfl, octets?, one, Option.or_none]
        exact string_none_of_word "b" .octets _ absent (by decide) (by decide) (by decide)
      by_cases isC : c = 'c'
      · subst isC
        rw [if_neg (by decide), if_neg (by decide), if_pos rfl]
        exact string_none_of_word "c" .noNul _ absent (by decide) (by decide) (by decide)
      · rw [if_neg (not_or.mpr ⟨noQuote, isR⟩), if_neg isB, if_neg isC]
        exact number_head c rest noDigit

theorem failedExpansion_lineEnd (text tail : List Char) (ended : LineEnd tail) :
    failedExpansion.isPrefixOf (text ++ tail) = failedExpansion.isPrefixOf text :=
  isPrefixOf_lineEnd failedExpansion text tail (by decide) ended

theorem literal_none_of_failedExpansion (text : List Char)
    (failed : failedExpansion.isPrefixOf text = true) : literal? text = none := by
  have whole : failedExpansion = '(' :: "/*ERROR*/)".toList := by decide
  cases text with
  | nil => rfl
  | cons c rest =>
      rw [whole, List.isPrefixOf, Bool.and_eq_true, beq_iff_eq] at failed
      obtain ⟨rfl, _⟩ := failed
      rw [literal_scannerAt]
      exact number_head '(' rest (by decide)

theorem leaf_next (c : Char) (rest last next : List Char) (isLast : LastLineEnd last) (ended : LineEnd next)
    (found : Lexeme) (count : Nat) (read : leaf? (c :: rest ++ last) = some (found, count)) :
    count ≤ (c :: rest).length ∧ leaf? (c :: rest ++ next) = some (found, count) := by
  unfold leaf? at read ⊢
  rw [mark_lineEnd _ last isLast.lineEnd, word_lineEnd _ last isLast.lineEnd,
    failedExpansion_lineEnd _ last isLast.lineEnd] at read
  rw [mark_lineEnd _ next ended, word_lineEnd _ next ended, failedExpansion_lineEnd _ next ended]
  cases literal : literal? (c :: rest ++ last) with
  | some length =>
      have ⟨bound, same⟩ := literal_next c rest last next isLast ended length literal
      rw [literal] at read
      cases read
      rw [same]
      simp only [List.take_append_of_le_length bound]
      exact ⟨bound, trivial⟩
  | none =>
      rw [literal] at read
      cases marked : mark? (c :: rest) with
      | some mark =>
          rw [marked] at read
          cases read
          rw [literal_none_of_mark _ found count ((mark_lineEnd _ next ended).trans marked)]
          exact ⟨(mark_count _ found count marked).2, rfl⟩
      | none =>
          cases named : word? (c :: rest) with
          | some word =>
              rw [marked, named] at read
              cases read
              obtain ⟨_, name, raw, identifier, _⟩ := word_parts _ found count named
              rw [literal_none_of_word _ found count ((word_lineEnd _ next ended).trans named)]
              exact ⟨(identifier_count _ name raw count identifier).2, rfl⟩
          | none =>
              rw [marked, named] at read
              simp only at read
              split at read
              · next failed =>
                  cases read
                  rw [literal_none_of_failedExpansion _ ((failedExpansion_lineEnd _ next ended).trans failed)]
                  simp only [if_pos failed, and_true]
                  exact (List.isPrefixOf_iff_prefix.mp failed).length_le
              · cases read

end Leaves
end SnippetRunner.Token

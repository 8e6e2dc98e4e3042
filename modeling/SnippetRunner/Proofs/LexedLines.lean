import SnippetRunner.Proofs.LineEnd.Comments

/-!
Lexing line by line. When the lines up to some place lex, nothing is open at that place: no comment, no
literal and no word goes on. So the lexemes of a text are those of its lines, as long as every part that is cut
off at a line end lexes on its own.
-/

namespace SnippetRunner.Token

section Gaps

theorem plainComment_none (text : List Char) (plain : opensComment text = false) :
    plainComment? text = none := by
  simp only [opensComment, Bool.or_eq_false_iff] at plain
  have empty : startsWith "/**/" text = false := startsWith_longer "/*" "*/" text plain.2
  simp [plainComment?, block?, plain.1, plain.2, empty]

theorem plainComment_next (text last next : List Char) (isLast : LastLineEnd last) (ended : LineEnd next)
    (count : Nat) (read : plainComment? (text ++ last) = some count) :
    count ≤ text.length ∧ plainComment? (text ++ next) = some count := by
  have front (mark : String) (plain : '\n' ∉ mark.toList) (tail : List Char) (ended : LineEnd tail) :=
    startsWith_lineEnd mark text tail plain ended
  unfold plainComment? at read ⊢
  simp only [front "//" (by decide) _ isLast.lineEnd, front "///" (by decide) _ isLast.lineEnd,
    front "////" (by decide) _ isLast.lineEnd, front "//!" (by decide) _ isLast.lineEnd,
    front "/**/" (by decide) _ isLast.lineEnd, front "/**" (by decide) _ isLast.lineEnd,
    front "/***" (by decide) _ isLast.lineEnd, front "/*!" (by decide) _ isLast.lineEnd,
    lineFrom_lineEnd 0 text last isLast.lineEnd] at read
  simp only [front "//" (by decide) _ ended, front "///" (by decide) _ ended,
    front "////" (by decide) _ ended, front "//!" (by decide) _ ended, front "/**/" (by decide) _ ended,
    front "/**" (by decide) _ ended, front "/***" (by decide) _ ended, front "/*!" (by decide) _ ended,
    lineFrom_lineEnd 0 text next ended]
  split at read
  · next line =>
      rw [if_pos line]
      split at read
      · cases read
      · next plain =>
          cases read
          rw [if_neg plain]
          have bound := (lineFrom_le 0 text).2
          exact ⟨by omega, rfl⟩
  · next noLine =>
      rw [if_neg noLine]
      split at read
      · next empty =>
          cases read
          rw [if_pos empty]
          exact ⟨length_le_of_startsWith "/**/" text empty, rfl⟩
      · next noEmpty =>
          rw [if_neg noEmpty]
          split at read
          · cases read
          · next plain =>
              rw [if_neg plain]
              exact block_next text last next isLast ended count read

-- A block that is not closed is no documentation either.
theorem doc_none_of_block (text : List Char) (noLine : startsWith "//" text = false)
    (unclosed : block? text = none) : doc? text = none := by
  have innerLine : startsWith "//!" text = false := startsWith_longer "//" "!" text noLine
  have outerLine : startsWith "///" text = false := startsWith_longer "//" "/" text noLine
  simp [doc?, docComment?, docBlock, unclosed, innerLine, outerLine]

theorem plainComment_none_next (text last next : List Char) (isLast : LastLineEnd last) (ended : LineEnd next)
    (noComment : plainComment? (text ++ last) = none) (found : Lexeme × Nat)
    (documented : doc? (text ++ last) = some found) : plainComment? (text ++ next) = none := by
  have same (mark : String) (plain : '\n' ∉ mark.toList) :
      startsWith mark (text ++ next) = startsWith mark (text ++ last) := by
    rw [startsWith_lineEnd mark text next plain ended, startsWith_lineEnd mark text last plain isLast.lineEnd]
  unfold plainComment? at noComment ⊢
  rw [same "//" (by decide), same "///" (by decide), same "////" (by decide), same "//!" (by decide),
    same "/**/" (by decide), same "/**" (by decide), same "/***" (by decide), same "/*!" (by decide)]
  split at noComment
  · next line =>
      rw [if_pos line]
      split at noComment
      · next isDoc => rw [if_pos isDoc]
      · cases noComment
  · next noLine =>
      rw [if_neg noLine]
      split at noComment
      · cases noComment
      · next noEmpty =>
          rw [if_neg noEmpty]
          split at noComment
          · next isDoc => rw [if_pos isDoc]
          · rw [doc_none_of_block _ (by simpa using noLine) noComment] at documented
            cases documented

-- Where a lexeme starts after a gap, it starts there whatever the next line is.
theorem noComment_next (c : Char) (rest last next : List Char) (isLast : LastLineEnd last)
    (ended : LineEnd next) (noComment : plainComment? (c :: rest ++ last) = none) (found : Lexeme × Nat)
    (read : lexeme? (c :: rest ++ last) = some found) : plainComment? (c :: rest ++ next) = none := by
  have opensLast := opensComment_lineEnd (c :: rest) last isLast.lineEnd
  have opensNext := opensComment_lineEnd (c :: rest) next ended
  cases opens : opensComment (c :: rest) with
  | false => exact plainComment_none _ (opensNext.trans opens)
  | true =>
      rw [lexeme_comment _ (opensLast.trans opens)] at read
      exact plainComment_none_next (c :: rest) last next isLast ended noComment found read

theorem skipGap_cons (c : Char) (rest : List Char) :
    skipGap (c :: rest) =
      if isGap c then skipGap rest
      else if c == '/' then
        match plainComment? (c :: rest) with
        | some count => skipGap (rest.drop (count - 1))
        | none => c :: rest
      else c :: rest :=
  skipGap.eq_def (c :: rest)

theorem skipGap_nil : skipGap [] = [] := by
  rw [skipGap.eq_def]

theorem skipGap_over (last : List Char) (isLast : LastLineEnd last) : skipGap last = [] := by
  have gap : isGap '\n' = true := by decide
  cases isLast with
  | finished => exact skipGap_nil
  | feed => rw [skipGap_cons, if_pos gap, skipGap_nil]

theorem skipGap_feed (more : List Char) : skipGap ('\n' :: more) = skipGap more := by
  have gap : isGap '\n' = true := by decide
  rw [skipGap_cons, if_pos gap]

-- How the gap of a text and that of the text with more lines agree.
def GapsAgree (text last more : List Char) : Prop :=
  (skipGap (text ++ last) = [] ∧ skipGap (text ++ '\n' :: more) = skipGap more) ∨
    ∃ c rest, (c :: rest).length ≤ text.length ∧ skipGap (text ++ last) = c :: rest ++ last ∧
      ∀ found, lexeme? (c :: rest ++ last) = some found →
        skipGap (text ++ '\n' :: more) = c :: rest ++ '\n' :: more

theorem GapsAgree.passed {text rest last more : List Char} (agree : GapsAgree rest last more)
    (shorter : rest.length ≤ text.length) (same : skipGap (text ++ last) = skipGap (rest ++ last))
    (sameNext : skipGap (text ++ '\n' :: more) = skipGap (rest ++ '\n' :: more)) :
    GapsAgree text last more := by
  unfold GapsAgree
  rw [same, sameNext]
  rcases agree with finished | ⟨c, after, bound, here, next⟩
  · exact .inl finished
  · exact .inr ⟨c, after, by omega, here, next⟩

/-- The gap at the start of a text is the whole text, or it ends where the first lexeme starts, and ends there
with more lines after the text as well. -/
theorem gaps_agree (text last more : List Char) (isLast : LastLineEnd last) : GapsAgree text last more := by
  cases text with
  | nil => exact .inl ⟨skipGap_over last isLast, skipGap_feed more⟩
  | cons c rest =>
      have later (count : Nat) : GapsAgree (rest.drop count) last more :=
        gaps_agree (rest.drop count) last more isLast
      have bound (count : Nat) : (rest.drop count).length ≤ (c :: rest).length := by
        simp only [List.length_drop, List.length_cons]
        omega
      have unfolded (tail : List Char) := skipGap_cons c (rest ++ tail)
      by_cases gap : isGap c = true
      · simp only [gap, ↓reduceIte] at unfolded
        exact (later 0).passed (bound 0) (unfolded last) (unfolded _)
      simp only [gap, Bool.false_eq_true, ↓reduceIte] at unfolded
      by_cases slash : (c == '/') = true
      · simp only [slash, ↓reduceIte] at unfolded
        cases comment : plainComment? (c :: rest ++ last) with
        | some count =>
            obtain ⟨short, commentNext⟩ :=
              plainComment_next (c :: rest) last _ isLast (.feed more) count comment
            rw [List.length_cons] at short
            refine (later (count - 1)).passed (bound _) ?_ ?_
            · rw [List.cons_append] at comment ⊢
              rw [unfolded last, comment, ← List.drop_append_of_le_length (by omega)]
            · rw [List.cons_append] at commentNext ⊢
              rw [unfolded, commentNext, ← List.drop_append_of_le_length (by omega)]
        | none =>
            refine .inr ⟨c, rest, Nat.le_refl _, ?_, ?_⟩
            · rw [List.cons_append] at comment ⊢
              rw [unfolded last, comment]
            · intro found read
              have commentNext := noComment_next c rest last _ isLast (.feed more) comment found read
              rw [List.cons_append] at commentNext ⊢
              rw [unfolded, commentNext]
      · simp only [slash, Bool.false_eq_true, ↓reduceIte] at unfolded
        exact .inr ⟨c, rest, Nat.le_refl _, unfolded last, fun _ _ => unfolded _⟩
termination_by text.length
decreasing_by simp only [List.length_cons, List.length_drop]; omega

end Gaps

section Seams

theorem lexemesFrom_eq (done : List Lexeme) (text : List Char) :
    lexemesFrom done text =
      match skipGap text with
      | [] => some done.reverse
      | c :: rest =>
          match lexeme? (c :: rest) with
          | none => none
          | some (lexeme, count) => lexemesFrom (lexeme :: done) (rest.drop (count - 1)) := by
  rw [lexemesFrom]
  split
  · next finished => rw [finished]
  · next c rest here =>
      rewrite [here]
      rfl

theorem lexemesFrom_nil : lexemesFrom [] [] = some [] := by
  rw [lexemesFrom_eq, skipGap_nil]
  rfl

/-- Lexing goes on with the next line where the lines before it end. -/
theorem lexemesFrom_next (done : List Lexeme) (text last more : List Char) (isLast : LastLineEnd last)
    (found : List Lexeme) (read : lexemesFrom done (text ++ last) = some found) :
    lexemesFrom done (text ++ '\n' :: more) = lexemesFrom found.reverse more := by
  rcases gaps_agree text last more isLast with ⟨finished, skipped⟩ | ⟨c, rest, bound, here, next⟩
  · rw [lexemesFrom_eq, finished] at read
    cases read
    rw [lexemesFrom_eq, skipped, List.reverse_reverse, ← lexemesFrom_eq]
  · rw [lexemesFrom_eq, here, List.cons_append] at read
    simp only at read
    split at read
    · cases read
    · next lexeme count first =>
        obtain ⟨short, firstNext⟩ := lexeme_next c rest last more isLast lexeme count first
        have shorter : rest.length < text.length := bound
        rw [List.length_cons] at short
        rw [List.drop_append_of_le_length (by omega)] at read
        rw [lexemesFrom_eq, next _ first, List.cons_append]
        rw [List.cons_append] at firstNext
        simp only [firstNext]
        rw [List.drop_append_of_le_length (by omega)]
        exact lexemesFrom_next (lexeme :: done) (rest.drop (count - 1)) last more isLast found read
termination_by text.length
decreasing_by rw [List.length_drop]; omega

-- The lexemes before a text only stand in front of its own.
theorem lexemesFrom_done (done : List Lexeme) (text : List Char) :
    lexemesFrom done text = (lexemesFrom [] text).map (done.reverse ++ ·) := by
  rw [lexemesFrom_eq done, lexemesFrom_eq []]
  cases here : skipGap text with
  | nil => simp
  | cons c rest =>
      cases first : lexeme? (c :: rest) with
      | none => simp [first]
      | some found =>
          have shorter : rest.length < text.length := by
            have bound := length_skipGap_le text
            rw [here] at bound
            exact bound
          simp only [first]
          rw [lexemesFrom_done (found.1 :: done), lexemesFrom_done [found.1], Option.map_map]
          congr 1
          funext later
          simp
termination_by text.length
decreasing_by all_goals rw [List.length_drop]; omega

/-- The lexemes of two parts of a text, the first of which ends with a line. -/
theorem lexemesFrom_lines (text last more : List Char) (isLast : LastLineEnd last) (found : List Lexeme)
    (read : lexemesFrom [] (text ++ last) = some found) :
    lexemesFrom [] (text ++ '\n' :: more) = (lexemesFrom [] more).map (found ++ ·) := by
  rw [lexemesFrom_next [] text last more isLast found read, lexemesFrom_done, List.reverse_reverse]

end Seams
end SnippetRunner.Token

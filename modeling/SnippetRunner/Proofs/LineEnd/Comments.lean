import SnippetRunner.Proofs.LineEnd.Leaves

/-!
Comments at the end of a line, and with them all lexemes. A line of comment ends where its line ends, whether or
not another line follows; only a carriage return at the very end tells the two cases apart, and documentation
with such a carriage return is no lexeme.
-/

namespace SnippetRunner.Token

section Comments

theorem lineFrom_lineEnd (count : Nat) (text tail : List Char) (ended : LineEnd tail) :
    lineFrom count (text ++ tail) = lineFrom count text := by
  induction text generalizing count with
  | nil => cases ended <;> simp [lineFrom]
  | cons c rest ih =>
      cases rest with
      | nil =>
          -- a carriage return at the end is skipped with the line feed after it, and counts without one
          by_cases feed : c = '\n'
          · simp [lineFrom, feed]
          · cases ended with
            | finished => rfl
            | feed more => simp [lineFrom, feed, startsWith_feed]
      | cons d more =>
          rw [List.cons_append, lineFrom, lineFrom, ih, List.cons_append, startsWith_feed, startsWith_feed]

theorem lineFrom_le (count : Nat) (text : List Char) :
    count ≤ lineFrom count text ∧ lineFrom count text ≤ count + text.length := by
  induction text generalizing count with
  | nil => simp [lineFrom]
  | cons c rest ih =>
      have later := ih (count + 1)
      simp only [lineFrom, List.length_cons]
      split
      · omega
      · split <;> omega

theorem blockFrom_on (opened count : Nat) (c d : Char) (rest : List Char) (noOpening : ¬ (c = '/' ∧ d = '*'))
    (noClosing : ¬ (c = '*' ∧ d = '/')) :
    blockFrom opened count (c :: d :: rest) = blockFrom opened (count + 1) (d :: rest) := by
  rw [blockFrom]
  · intro after isSlash equal
    exact noOpening ⟨isSlash, (List.cons.inj equal).1⟩
  · intro after isStar equal
    exact noClosing ⟨isStar, (List.cons.inj equal).1⟩

theorem blockFrom_over (opened count : Nat) (last : List Char) (isLast : LastLineEnd last) :
    blockFrom opened count last = none := by
  cases isLast <;> simp [blockFrom]

theorem blockFrom_next (opened count : Nat) (text last next : List Char) (isLast : LastLineEnd last)
    (found : Nat) (read : blockFrom opened count (text ++ last) = some found) :
    found ≤ count + text.length ∧ blockFrom opened count (text ++ next) = some found := by
  fun_induction blockFrom opened count text with
  | case1 opened count rest ih =>
      simp only [List.cons_append, blockFrom, List.length_cons] at read ⊢
      have later := ih read
      exact ⟨by omega, later.2⟩
  | case2 opened count rest outermost =>
      simp only [List.cons_append, blockFrom, if_pos outermost, List.length_cons] at read ⊢
      cases read
      exact ⟨by omega, rfl⟩
  | case3 opened count rest inner ih =>
      simp only [List.cons_append, blockFrom, if_neg inner, List.length_cons] at read ⊢
      have later := ih read
      exact ⟨by omega, later.2⟩
  | case4 opened count c rest noOpening noClosing ih =>
      cases rest with
      | nil =>
          cases isLast with
          | finished => simp [blockFrom] at read
          | feed =>
              rw [List.singleton_append, blockFrom_on opened count c '\n' [] (by simp) (by simp)] at read
              simp [blockFrom] at read
      | cons d more =>
          have opening : ¬ (c = '/' ∧ d = '*') := fun both => noOpening more both.1 (by rw [both.2])
          have closing : ¬ (c = '*' ∧ d = '/') := fun both => noClosing more both.1 (by rw [both.2])
          simp only [List.cons_append, List.length_cons] at read ih ⊢
          rw [blockFrom_on opened count c d _ opening closing] at read ⊢
          have later := ih read
          exact ⟨by omega, later.2⟩
  | case5 opened count =>
      rw [List.nil_append, blockFrom_over opened count last isLast] at read
      cases read

theorem block_next (text last next : List Char) (isLast : LastLineEnd last) (ended : LineEnd next)
    (found : Nat) (read : block? (text ++ last) = some found) :
    found ≤ text.length ∧ block? (text ++ next) = some found := by
  unfold block? at read ⊢
  rw [startsWith_lineEnd "/*" text last (by decide) isLast.lineEnd] at read
  rw [startsWith_lineEnd "/*" text next (by decide) ended]
  split at read
  · next starts =>
      have long : 2 ≤ text.length := length_le_of_startsWith "/*" text starts
      rw [if_pos starts]
      rw [List.drop_append_of_le_length long] at read ⊢
      have inner := blockFrom_next 1 2 (text.drop 2) last next isLast found read
      rw [List.length_drop] at inner
      exact ⟨by omega, inner.2⟩
  · cases read

theorem docBlock_next (inner : Bool) (text last next : List Char) (isLast : LastLineEnd last)
    (ended : LineEnd next) (found : Lexeme) (count : Nat)
    (read : docBlock inner (text ++ last) = some (found, count)) :
    count ≤ text.length ∧ docBlock inner (text ++ next) = some (found, count) := by
  unfold docBlock at read ⊢
  obtain ⟨length, closed, equal⟩ := Option.map_eq_some_iff.mp read
  have ⟨bound, same⟩ := block_next text last next isLast ended length closed
  cases equal
  rw [same]
  simp only [Option.map_some, List.take_append_of_le_length (Nat.le_trans (Nat.sub_le count 2) bound)]
  exact ⟨bound, trivial⟩

theorem startsWith_within (front : String) (text tail : List Char) (room : front.toList.length ≤ text.length) :
    startsWith front (text ++ tail) = startsWith front text := by
  unfold startsWith
  generalize front.toList = chars at room ⊢
  induction chars generalizing text with
  | nil => rfl
  | cons c more ih =>
      cases text with
      | nil => simp at room
      | cons d rest =>
          rw [List.cons_append, List.isPrefixOf, List.isPrefixOf, ih rest (by simpa using room)]

-- Whether a line of this many characters ends in a carriage return and a line feed.
def paired (count : Nat) (text : List Char) : Bool :=
  startsWith "\r" (text.drop (count - 1)) && startsWith "\n" (text.drop count)

theorem paired_within (count : Nat) (text tail : List Char) (inside : count < text.length) :
    paired count (text ++ tail) = paired count text := by
  have one (c : String) (single : c.toList.length = 1) (place : Nat) (here : place < text.length) :
      startsWith c ((text ++ tail).drop place) = startsWith c (text.drop place) := by
    rw [List.drop_append_of_le_length (Nat.le_of_lt here)]
    exact startsWith_within c _ tail (by rw [List.length_drop]; omega)
  rw [paired, paired, one "\r" rfl (count - 1) (by omega), one "\n" rfl count inside]

theorem paired_whole (text rest : List Char) (c : Char) :
    paired (text ++ [c]).length (text ++ [c] ++ '\n' :: rest) = ('\r' == c) := by
  simp [paired, startsWith, List.isPrefixOf]

theorem hasBareReturn_last (text : List Char) : hasBareReturn (text ++ ['\r']) = true := by
  induction text with
  | nil => rfl
  | cons c rest ih => simp [hasBareReturn, ih]

def lineBody (count : Nat) (text : List Char) : List Char :=
  (text.take (if paired count text then count - 1 else count)).drop 3

theorem docLine_eq (inner : Bool) (text : List Char) :
    docLine inner text =
      (.doc inner (lineBody (lineFrom 3 (text.drop 3)) text), lineFrom 3 (text.drop 3)) := rfl

theorem lineBody_short (count : Nat) (text : List Char) (short : count ≤ 3) : lineBody count text = [] := by
  have bound : (if paired count text then count - 1 else count) ≤ 3 := by
    split <;> omega
  rw [lineBody, List.drop_eq_nil_iff, List.length_take]
  omega

/-- Without a bare carriage return, a line of documentation says the same when another line follows. -/
theorem lineBody_next (count : Nat) (text last rest : List Char) (isLast : LastLineEnd last)
    (bound : count ≤ text.length)
    (clean : hasBareReturn (lineBody count (text ++ last)) = false) :
    lineBody count (text ++ '\n' :: rest) = lineBody count (text ++ last) := by
  by_cases short : count ≤ 3
  · rw [lineBody_short count _ short, lineBody_short count _ short]
  have flag : paired count (text ++ '\n' :: rest) = paired count (text ++ last) := by
    by_cases inside : count < text.length
    · rw [paired_within count text _ inside, paired_within count text _ inside]
    · obtain rfl : count = text.length := by omega
      rcases List.eq_nil_or_concat text with rfl | ⟨front, c, rfl⟩
      · exact absurd (Nat.zero_le 3) short
      rw [List.concat_eq_append] at short clean ⊢
      rw [paired_whole front rest c]
      cases isLast with
      | feed => rw [paired_whole front [] c]
      | finished =>
          -- a carriage return here is bare, as no line feed comes after it
          have unpaired : paired (front ++ [c]).length (front ++ [c]) = false := by
            simp [paired, startsWith, List.isPrefixOf]
          rw [List.append_nil] at clean ⊢
          rw [unpaired]
          cases isReturn : '\r' == c with
          | false => rfl
          | true =>
              obtain rfl := beq_iff_eq.mp isReturn
              have room : 3 ≤ front.length := by
                simp only [List.length_append, List.length_singleton] at short
                omega
              simp only [lineBody, unpaired, Bool.false_eq_true, ↓reduceIte, List.take_length,
                List.drop_append_of_le_length room, hasBareReturn_last] at clean
              cases clean
  have kept : (if paired count (text ++ last) then count - 1 else count) ≤ text.length := by
    split <;> omega
  simp only [lineBody, flag, List.take_append_of_le_length kept]

theorem docLine_next (inner flag : Bool) (text last rest : List Char) (isLast : LastLineEnd last)
    (long : 3 ≤ text.length) (body : List Char) (count : Nat)
    (read : docLine flag (text ++ last) = (.doc inner body, count)) (clean : hasBareReturn body = false) :
    count ≤ text.length ∧ docLine flag (text ++ '\n' :: rest) = (.doc inner body, count) := by
  have same (tail : List Char) (ended : LineEnd tail) :
      lineFrom 3 ((text ++ tail).drop 3) = lineFrom 3 (text.drop 3) := by
    rw [List.drop_append_of_le_length long, lineFrom_lineEnd 3 _ tail ended]
  have bound := (lineFrom_le 3 (text.drop 3)).2
  rw [List.length_drop] at bound
  rw [docLine_eq, same last isLast.lineEnd, Prod.mk.injEq] at read
  obtain ⟨equal, rfl⟩ := read
  cases equal
  rw [docLine_eq, same _ (.feed rest), lineBody_next _ text last rest isLast (by omega) clean]
  exact ⟨by omega, rfl⟩

theorem docComment_next (text last rest : List Char) (isLast : LastLineEnd last) (inner : Bool)
    (body : List Char) (count : Nat) (read : docComment? (text ++ last) = some (.doc inner body, count))
    (clean : hasBareReturn body = false) :
    count ≤ text.length ∧ docComment? (text ++ '\n' :: rest) = some (.doc inner body, count) := by
  have front (mark : String) (plain : '\n' ∉ mark.toList) (tail : List Char) (ended : LineEnd tail) :=
    startsWith_lineEnd mark text tail plain ended
  have long (mark : String) (three : mark.toList.length = 3) (starts : startsWith mark text = true) :
      3 ≤ text.length := by
    rw [← three]
    exact length_le_of_startsWith mark text starts
  have block (flag : Bool) (closed : docBlock flag (text ++ last) = some (.doc inner body, count)) :=
    docBlock_next flag text last _ isLast (.feed rest) _ count closed
  unfold docComment? at read ⊢
  simp only [front "//!" (by decide) _ isLast.lineEnd, front "/*!" (by decide) _ isLast.lineEnd,
    front "///" (by decide) _ isLast.lineEnd, front "////" (by decide) _ isLast.lineEnd,
    front "/**" (by decide) _ isLast.lineEnd, front "/***" (by decide) _ isLast.lineEnd] at read
  simp only [front "//!" (by decide) _ (.feed rest), front "/*!" (by decide) _ (.feed rest),
    front "///" (by decide) _ (.feed rest), front "////" (by decide) _ (.feed rest),
    front "/**" (by decide) _ (.feed rest), front "/***" (by decide) _ (.feed rest)]
  have line (flag : Bool) (mark : String) (three : mark.toList.length = 3)
      (starts : startsWith mark text = true)
      (read : some (docLine flag (text ++ last)) = some (.doc inner body, count)) :
      count ≤ text.length ∧ some (docLine flag (text ++ '\n' :: rest)) = some (.doc inner body, count) := by
    have ⟨bound, same⟩ := docLine_next inner flag text last rest isLast (long mark three starts) body count
      (Option.some.inj read) clean
    exact ⟨bound, congrArg some same⟩
  split at read
  · next innerLine =>
      rw [if_pos innerLine]
      exact line true "//!" rfl innerLine read
  · next noInnerLine =>
      rw [if_neg noInnerLine]
      split at read
      · next innerBlock =>
          rw [if_pos innerBlock]
          exact block true read
      · next noInnerBlock =>
          rw [if_neg noInnerBlock]
          split at read
          · next outerLine =>
              rw [if_pos outerLine]
              split at read
              · cases read
              · next three =>
                  rw [if_neg three]
                  exact line false "///" rfl outerLine read
          · next noOuterLine =>
              rw [if_neg noOuterLine]
              split at read
              · next outerBlock =>
                  rw [if_pos outerBlock]
                  exact block false read
              · cases read

theorem doc_next (text last rest : List Char) (isLast : LastLineEnd last) (found : Lexeme) (count : Nat)
    (read : doc? (text ++ last) = some (found, count)) :
    count ≤ text.length ∧ doc? (text ++ '\n' :: rest) = some (found, count) := by
  unfold doc? at read
  split at read
  · next inner body length documented =>
      split at read
      · cases read
      · next clean =>
          cases read
          have ⟨bound, same⟩ := docComment_next text last rest isLast inner body count documented
            (by simpa using clean)
          rw [doc?, same]
          simp only [clean]
          exact ⟨bound, rfl⟩
  · cases read

def opensComment (text : List Char) : Bool :=
  startsWith "//" text || startsWith "/*" text

theorem opensComment_lineEnd (text tail : List Char) (ended : LineEnd tail) :
    opensComment (text ++ tail) = opensComment text := by
  rw [opensComment, startsWith_lineEnd "//" text tail (by decide) ended,
    startsWith_lineEnd "/*" text tail (by decide) ended, opensComment]

theorem startsWith_longer (front more : String) (text : List Char) (plain : startsWith front text = false) :
    startsWith (front ++ more) text = false := by
  rw [startsWith_append, plain, Bool.false_and]

theorem doc_none (text : List Char) (plain : opensComment text = false) : doc? text = none := by
  simp only [opensComment, Bool.or_eq_false_iff] at plain
  have innerLine : startsWith "//!" text = false := startsWith_longer "//" "!" text plain.1
  have outerLine : startsWith "///" text = false := startsWith_longer "//" "/" text plain.1
  have innerBlock : startsWith "/*!" text = false := startsWith_longer "/*" "!" text plain.2
  have outerBlock : startsWith "/**" text = false := startsWith_longer "/*" "*" text plain.2
  simp [doc?, docComment?, innerLine, outerLine, innerBlock, outerBlock]

theorem leaf_none_of_slash (text : List Char) (noMark : mark? ('/' :: text) = none) :
    leaf? ('/' :: text) = none := by
  have literal : literal? ('/' :: text) = none := by
    rw [literal_scannerAt]
    exact number_head '/' text (by decide)
  have word : word? ('/' :: text) = none := by
    cases named : word? ('/' :: text) with
    | none => rfl
    | some found =>
        obtain ⟨_, name, raw, identifier, _⟩ := word_parts _ found.1 found.2 named
        cases identifier_head '/' text name raw _ identifier
  have failed : failedExpansion.isPrefixOf ('/' :: text) = false := rfl
  simp [leaf?, literal, noMark, word, failed]

-- What opens a comment is documentation or no lexeme at all.
theorem lexeme_comment (text : List Char) (opens : opensComment text = true) : lexeme? text = doc? text := by
  obtain ⟨d, rest, rfl, noMark⟩ :
      ∃ d rest, text = '/' :: d :: rest ∧ mark? ('/' :: d :: rest) = none := by
    rw [opensComment, Bool.or_eq_true, startsWith_iff, startsWith_iff] at opens
    rcases opens with ⟨rest, rfl⟩ | ⟨rest, rfl⟩
    · exact ⟨'/', rest, rfl, rfl⟩
    · exact ⟨'*', rest, rfl, rfl⟩
  unfold lexeme?
  cases doc? ('/' :: d :: rest) with
  | some found => rfl
  | none => exact leaf_none_of_slash (d :: rest) noMark

theorem lexeme_plain (c : Char) (rest : List Char) (plain : opensComment (c :: rest) = false) :
    lexeme? (c :: rest) =
      match opening? c, closing? c with
      | some delimiter, _ =>
          if failedExpansion.isPrefixOf (c :: rest) then leaf? (c :: rest) else some (.opens delimiter, 1)
      | none, some delimiter => some (.closes delimiter, 1)
      | none, none => leaf? (c :: rest) := by
  unfold lexeme?
  rewrite [doc_none _ plain]
  rfl

theorem lexeme_next (c : Char) (rest last more : List Char) (isLast : LastLineEnd last) (found : Lexeme)
    (count : Nat) (read : lexeme? (c :: rest ++ last) = some (found, count)) :
    count ≤ (c :: rest).length ∧ lexeme? (c :: rest ++ '\n' :: more) = some (found, count) := by
  have opensLast := opensComment_lineEnd (c :: rest) last isLast.lineEnd
  have opensNext := opensComment_lineEnd (c :: rest) _ (.feed more)
  cases opens : opensComment (c :: rest) with
  | true =>
      rw [lexeme_comment _ (opensLast.trans opens)] at read
      rw [lexeme_comment _ (opensNext.trans opens)]
      exact doc_next (c :: rest) last more isLast found count read
  | false =>
      have leaf := leaf_next c rest last _ isLast (.feed more) found count
      have failedLast := failedExpansion_lineEnd (c :: rest) last isLast.lineEnd
      have failedNext := failedExpansion_lineEnd (c :: rest) _ (.feed more)
      have one : 1 ≤ (c :: rest).length := by simp
      rw [List.cons_append] at opensLast opensNext failedLast failedNext leaf read ⊢
      rw [lexeme_plain c _ (opensLast.trans opens), failedLast] at read
      rw [lexeme_plain c _ (opensNext.trans opens), failedNext]
      cases opened : opening? c with
      | some delimiter =>
          rw [opened] at read
          simp only at read ⊢
          split at read
          · next failed =>
              rw [if_pos failed]
              exact leaf read
          · next plain =>
              cases read
              rw [if_neg plain]
              exact ⟨one, rfl⟩
      | none =>
          cases closed : closing? c with
          | some delimiter =>
              rw [opened, closed] at read
              cases read
              exact ⟨one, rfl⟩
          | none =>
              rw [opened, closed] at read
              exact leaf read

end Comments
end SnippetRunner.Token

import SnippetRunner.Proofs.LineEnd.Words

/-!
Strings at the end of a line. A scanner of what has a closing mark may look beyond a line end; but if it is done
before the last line end of a text, then what follows makes no difference.
-/

namespace SnippetRunner.Token

section Strings

theorem skippedBlanks_blank (count : Nat) (c : Char) (rest : List Char) (noReturn : c ≠ '\r') :
    skippedBlanks count (c :: rest) =
      if c == ' ' || c == '\t' || c == '\n' then skippedBlanks (count + 1) rest else some count := by
  rw [skippedBlanks]
  · simp [noReturn]
  · intro tail equal
    exact absurd equal noReturn

theorem skippedBlanks_return (count : Nat) (rest : List Char) (bare : ∀ tail, rest ≠ '\n' :: tail) :
    skippedBlanks count ('\r' :: rest) = none := by
  rw [skippedBlanks]
  · simp
  · intro tail _ equal
    exact absurd equal (bare tail)

theorem skippedBlanks_next (count : Nat) (text last next : List Char) (isLast : LastLineEnd last)
    (found : Nat) (read : skippedBlanks count (text ++ last) = some found) :
    found ≤ count + text.length ∧ skippedBlanks count (text ++ next) = some found := by
  fun_induction skippedBlanks count text with
  | case1 count =>
      cases isLast with
      | finished => cases read
      | feed =>
          rw [List.nil_append, skippedBlanks_blank count _ _ (by decide)] at read
          cases read
  | case2 count rest ih =>
      simp only [List.cons_append, skippedBlanks] at read ⊢
      have later := ih read
      refine ⟨?_, later.2⟩
      simp only [List.length_cons]
      omega
  | case3 count c rest unpaired isReturn =>
      obtain rfl : c = '\r' := by simpa using isReturn
      cases rest with
      | nil =>
          cases isLast with
          | finished => cases read
          | feed => cases read
      | cons d more =>
          have bare : ∀ tail, d :: more ++ last ≠ '\n' :: tail := by
            intro tail equal
            simp only [List.cons_append, List.cons.injEq] at equal
            exact unpaired more rfl (by rw [equal.1])
          rw [List.cons_append, skippedBlanks_return count _ bare] at read
          cases read
  | case4 count c rest unpaired noReturn blank ih =>
      have other : c ≠ '\r' := by simpa using noReturn
      rw [List.cons_append, skippedBlanks_blank count c _ other, if_pos blank] at read ⊢
      have later := ih read
      refine ⟨?_, later.2⟩
      simp only [List.length_cons]
      omega
  | case5 count c rest unpaired noReturn solid =>
      have other : c ≠ '\r' := by simpa using noReturn
      rw [List.cons_append, skippedBlanks_blank count c _ other, if_neg solid] at read ⊢
      cases read
      exact ⟨by omega, rfl⟩

-- What is skipped after a backslash: the blanks of a line that goes on, or an escape.
def skipped? (kind : StringKind) (text : List Char) : Option Nat :=
  if startsLine text then skippedBlanks 0 text else escape? kind text

theorem skipped_next (kind : StringKind) (text last next : List Char) (isLast : LastLineEnd last)
    (ended : LineEnd next) (found : Nat) (read : skipped? kind (text ++ last) = some found) :
    found ≤ text.length ∧ skipped? kind (text ++ next) = some found := by
  cases text with
  | nil =>
      cases isLast with
      | finished => cases read
      | feed => cases kind <;> simp [skipped?, startsLine, skippedBlanks] at read
  | cons c rest =>
      unfold skipped? at read ⊢
      by_cases fresh : startsLine (c :: rest) = true
      · have here (tail : List Char) : startsLine (c :: rest ++ tail) = true := fresh
        rw [if_pos (here last)] at read
        rw [if_pos (here next)]
        simpa using skippedBlanks_next 0 (c :: rest) last next isLast found read
      · have here (tail : List Char) : ¬ startsLine (c :: rest ++ tail) = true := fresh
        rw [if_neg (here last), escape_lineEnd kind _ last isLast.lineEnd] at read
        rw [if_neg (here next), escape_lineEnd kind _ next ended]
        exact ⟨escape_le kind _ found read, read⟩

theorem startsWith_feed (c : Char) (rest : List Char) : startsWith "\n" (c :: rest) = ('\n' == c) := by
  show ['\n'].isPrefixOf (c :: rest) = ('\n' == c)
  simp [List.isPrefixOf]

theorem cookedFrom_over (kind : StringKind) (count : Nat) (last : List Char) (isLast : LastLineEnd last) :
    cookedFrom kind count last = none := by
  cases isLast with
  | finished => rw [cookedFrom]
  | feed =>
      rw [cookedFrom, cookedFrom]
      simp

theorem cookedFrom_cons (kind : StringKind) (count : Nat) (c : Char) (rest : List Char) :
    cookedFrom kind count (c :: rest) =
      if c == '"' then some (count + 1)
      else if c == '\r' then if startsWith "\n" rest then cookedFrom kind (count + 1) rest else none
      else if c == '\\' then
        match skipped? kind rest with
        | none => none
        | some more => cookedFrom kind (count + 1 + more) (rest.drop more)
      else if kind.admits c then cookedFrom kind (count + 1) rest
      else none := by
  rw [cookedFrom]
  rfl

theorem cookedFrom_next (kind : StringKind) (count : Nat) (text last next : List Char)
    (isLast : LastLineEnd last) (ended : LineEnd next) (found : Nat)
    (read : cookedFrom kind count (text ++ last) = some found) :
    found ≤ count + text.length ∧ cookedFrom kind count (text ++ next) = some found := by
  induction length : text.length using Nat.strongRecOn generalizing text count with
  | ind size ih =>
      subst length
      cases text with
      | nil =>
          rw [List.nil_append, cookedFrom_over kind count last isLast] at read
          cases read
      | cons c rest =>
          have onRest (read : cookedFrom kind (count + 1) (rest ++ last) = some found) :=
            ih rest.length (Nat.lt_succ_self _) (count + 1) rest read rfl
          rw [List.cons_append, cookedFrom_cons] at read ⊢
          simp only [List.length_cons]
          by_cases quote : (c == '"') = true
          · rw [if_pos quote] at read ⊢
            cases read
            exact ⟨by omega, rfl⟩
          rw [if_neg quote] at read ⊢
          by_cases isReturn : (c == '\r') = true
          · rw [if_pos isReturn] at read ⊢
            cases rest with
            | nil => simp [cookedFrom_over kind (count + 1) last isLast] at read
            | cons d more =>
                rw [List.cons_append, startsWith_feed] at read ⊢
                split at read
                · next feed =>
                    have later := onRest read
                    rw [if_pos feed]
                    exact ⟨by omega, later.2⟩
                · cases read
          rw [if_neg isReturn] at read ⊢
          by_cases backslash : (c == '\\') = true
          · rw [if_pos backslash] at read ⊢
            cases skipped : skipped? kind (rest ++ last) with
            | none =>
                rw [skipped] at read
                cases read
            | some more =>
                obtain ⟨bound, same⟩ := skipped_next kind rest last next isLast ended more skipped
                rw [skipped] at read
                rw [same]
                simp only [List.drop_append_of_le_length bound] at read ⊢
                have shorter : (rest.drop more).length < (c :: rest).length := by
                  simp only [List.length_drop, List.length_cons]
                  omega
                have later := ih _ shorter (count + 1 + more) (rest.drop more) read rfl
                rw [List.length_drop] at later
                exact ⟨by omega, later.2⟩
          rw [if_neg backslash] at read ⊢
          split at read
          · next admitted =>
              have later := onRest read
              rw [if_pos admitted]
              exact ⟨by omega, later.2⟩
          · cases read

theorem rawFrom_over (kind : StringKind) (fence : List Char) (count : Nat) (last : List Char)
    (isLast : LastLineEnd last) : rawFrom kind fence count last = none := by
  cases isLast with
  | finished => rfl
  | feed => simp [rawFrom]

theorem rawFrom_next (kind : StringKind) (fence : List Char) (plain : '\n' ∉ fence) (count : Nat)
    (text last next : List Char) (isLast : LastLineEnd last) (ended : LineEnd next) (found : Nat)
    (read : rawFrom kind fence count (text ++ last) = some found) :
    found ≤ count + text.length ∧ rawFrom kind fence count (text ++ next) = some found := by
  induction text generalizing count with
  | nil =>
      rw [List.nil_append, rawFrom_over kind fence count last isLast] at read
      cases read
  | cons c rest ih =>
      simp only [List.cons_append, rawFrom, isPrefixOf_lineEnd fence rest _ plain isLast.lineEnd] at read
      simp only [List.cons_append, rawFrom, isPrefixOf_lineEnd fence rest _ plain ended, List.length_cons]
      by_cases closed : (c == '"' && fence.isPrefixOf rest) = true
      · rw [if_pos closed] at read ⊢
        cases read
        simp only [Bool.and_eq_true, List.isPrefixOf_iff_prefix] at closed
        have bound := closed.2.length_le
        exact ⟨by omega, rfl⟩
      rw [if_neg closed] at read ⊢
      cases rest with
      | nil => simp [rawFrom_over kind fence (count + 1) last isLast] at read
      | cons d more =>
          simp only [List.cons_append, startsWith_feed] at read ih ⊢
          split at read
          · cases read
          · next paired =>
              rw [if_neg paired]
              split at read
              · next admitted =>
                  have later := ih (count + 1) read
                  rw [if_pos admitted]
                  exact ⟨by omega, later.2⟩
              · cases read

theorem cookedString_next (kind : StringKind) (opening : Nat) (text last next : List Char)
    (long : opening ≤ text.length) (isLast : LastLineEnd last) (ended : LineEnd next) (found : Nat)
    (read : cookedString? kind opening (text ++ last) = some found) :
    found ≤ text.length ∧ cookedString? kind opening (text ++ next) = some found := by
  simp only [cookedString?, List.drop_append_of_le_length long, Option.map_eq_some_iff] at read ⊢
  obtain ⟨count, scanned, rfl⟩ := read
  have ⟨bound, same⟩ := cookedFrom_next kind opening (text.drop opening) last next isLast ended count scanned
  rw [List.length_drop] at bound
  rw [suffixed_lineEnd text last count (by omega) isLast.lineEnd]
  exact ⟨suffixed_le text count (by omega), count, same, suffixed_lineEnd text next count (by omega) ended⟩

theorem rawString_next (kind : StringKind) (opening : Nat) (text last next : List Char)
    (long : opening ≤ text.length) (isLast : LastLineEnd last) (ended : LineEnd next) (found : Nat)
    (read : rawString? kind opening (text ++ last) = some found) :
    found ≤ text.length ∧ rawString? kind opening (text ++ next) = some found := by
  have fenced (tail : List Char) (tailEnded : LineEnd tail) :
      ((text ++ tail).drop opening).takeWhile (· == '#') = (text.drop opening).takeWhile (· == '#') := by
    rw [List.drop_append_of_le_length long]
    exact takeWhile_lineEnd _ (by decide) _ tail tailEnded
  have fenceBound := (List.takeWhile_prefix (l := text.drop opening) (· == '#')).length_le
  have plain : '\n' ∉ (text.drop opening).takeWhile (· == '#') := by
    intro member
    have sign := List.all_eq_true.mp List.all_takeWhile _ member
    revert sign
    decide
  rw [List.length_drop] at fenceBound
  unfold rawString? at read ⊢
  simp only [fenced last isLast.lineEnd, fenced next ended] at read ⊢
  generalize (text.drop opening).takeWhile (· == '#') = fence at fenceBound plain read ⊢
  split at read
  · cases read
  · next short =>
      rw [if_neg short]
      rw [List.drop_append_of_le_length (by omega)] at read ⊢
      cases rest : text.drop (opening + fence.length) with
      | nil =>
          rw [rest] at read
          cases isLast <;> simp at read
      | cons c body =>
          have lengths := congrArg List.length rest
          simp only [List.length_drop, List.length_cons] at lengths
          rw [rest, List.cons_append] at read
          rw [List.cons_append]
          split at read
          · next equal =>
              cases equal
              obtain ⟨count, scanned, rfl⟩ := Option.map_eq_some_iff.mp read
              have ⟨bound, same⟩ := rawFrom_next kind fence plain _ body last next isLast ended count scanned
              simp only [same, Option.map_some, Option.some.injEq]
              rw [suffixed_lineEnd text last count (by omega) isLast.lineEnd]
              exact ⟨suffixed_le text count (by omega), suffixed_lineEnd text next count (by omega) ended⟩
          · cases read

theorem mark_plain (mark front : String) (plainMark : '\n' ∉ mark.toList) (plainFront : '\n' ∉ front.toList) :
    '\n' ∉ (mark ++ front).toList := by
  simp [plainMark, plainFront]

theorem mark_length (mark front : String) (text : List Char)
    (starts : startsWith (mark ++ front) text = true) : mark.length + front.length ≤ text.length := by
  have bound := length_le_of_startsWith _ text starts
  simpa only [String.toList_append, List.length_append, String.length_toList] using bound

theorem string_next (mark : String) (plainMark : '\n' ∉ mark.toList) (kind : StringKind)
    (text last next : List Char) (isLast : LastLineEnd last) (ended : LineEnd next) (found : Nat)
    (read : string? mark kind (text ++ last) = some found) :
    found ≤ text.length ∧ string? mark kind (text ++ next) = some found := by
  have plainQuote := mark_plain mark "\"" plainMark (by decide)
  have plainRaw := mark_plain mark "r" plainMark (by decide)
  unfold string? at read ⊢
  rw [startsWith_lineEnd _ text last plainQuote isLast.lineEnd,
    startsWith_lineEnd _ text last plainRaw isLast.lineEnd] at read
  rw [startsWith_lineEnd _ text next plainQuote ended, startsWith_lineEnd _ text next plainRaw ended]
  split at read
  · next quoted =>
      rw [if_pos quoted]
      exact cookedString_next kind _ text last next (mark_length mark "\"" text quoted) isLast ended found read
  · next unquoted =>
      rw [if_neg unquoted]
      split at read
      · next raw =>
          rw [if_pos raw]
          exact rawString_next kind _ text last next (mark_length mark "r" text raw) isLast ended found read
      · cases read

-- What stands between single quotes.
def singleBody? (kind : StringKind) : List Char → Option Nat
  | [] => none
  | '\\' :: rest => (escape? kind rest).map (· + 1)
  | c :: _ => if kind.admits c then some 1 else none

theorem singleBody_lineEnd (kind : StringKind) (c : Char) (rest tail : List Char) (ended : LineEnd tail) :
    singleBody? kind (c :: rest ++ tail) = singleBody? kind (c :: rest) := by
  by_cases backslash : c = '\\'
  · subst backslash
    simp only [List.cons_append, singleBody?, escape_lineEnd kind rest tail ended]
  · simp [singleBody?]

theorem singleBody_le (kind : StringKind) (text : List Char) (count : Nat)
    (read : singleBody? kind text = some count) : count ≤ text.length := by
  unfold singleBody? at read
  split at read
  · cases read
  · next rest =>
      obtain ⟨escaped, scanned, rfl⟩ := Option.map_eq_some_iff.mp read
      have bound := escape_le kind rest escaped scanned
      simp only [List.length_cons]
      omega
  · split at read <;> cases read
    simp

theorem single_eq (mark : String) (kind : StringKind) (text : List Char) :
    single? mark kind text =
      if startsWith (mark ++ "'") text then
        (singleBody? kind (text.drop (mark.length + 1))).bind fun count =>
          if startsWith "'" (text.drop (mark.length + 1 + count)) then
            some (suffixed text (mark.length + 1 + count + 1))
          else none
      else none := by
  unfold single?
  split
  · show (match singleBody? kind (text.drop (mark.length + 1)) with
      | none => none
      | some count =>
          if startsWith "'" (text.drop (mark.length + 1 + count)) then
            some (suffixed text (mark.length + 1 + count + 1))
          else none) = _
    cases singleBody? kind (text.drop (mark.length + 1)) <;> rfl
  · rfl

-- A line end between the quotes leaves no room for the closing one.
theorem single_over (mark : String) (kind : StringKind) (text last : List Char) (isLast : LastLineEnd last)
    (whole : text.length = mark.length + 1) : single? mark kind (text ++ last) = none := by
  rw [single_eq, ← whole]
  split
  · cases isLast with
    | finished => simp [singleBody?]
    | feed =>
        rw [List.drop_left]
        by_cases admitted : kind.admits '\n' = true
        · simp [singleBody?, admitted, startsWith]
        · simp [singleBody?, admitted]
  · rfl

theorem single_next (mark : String) (plainMark : '\n' ∉ mark.toList) (kind : StringKind)
    (text last next : List Char) (isLast : LastLineEnd last) (ended : LineEnd next) (found : Nat)
    (read : single? mark kind (text ++ last) = some found) :
    found ≤ text.length ∧ single? mark kind (text ++ next) = some found := by
  have plainQuote := mark_plain mark "'" plainMark (by decide)
  have finished := single_over mark kind text last isLast
  rw [read] at finished
  rw [single_eq, startsWith_lineEnd _ text last plainQuote isLast.lineEnd] at read
  rw [single_eq, startsWith_lineEnd _ text next plainQuote ended]
  split at read
  · next quoted =>
      have long : mark.length + 1 ≤ text.length := mark_length mark "'" text quoted
      rw [if_pos quoted]
      obtain ⟨count, scanned, closed⟩ := Option.bind_eq_some_iff.mp read
      rw [List.drop_append_of_le_length long] at scanned
      rw [List.drop_append_of_le_length long]
      cases body : text.drop (mark.length + 1) with
      | nil => cases finished (Nat.le_antisymm (List.drop_eq_nil_iff.mp body) long)
      | cons c rest =>
          have lengths := congrArg List.length body
          rw [body, singleBody_lineEnd kind c rest last isLast.lineEnd] at scanned
          rw [singleBody_lineEnd kind c rest next ended, scanned, Option.bind_some]
          have bound := singleBody_le kind _ count scanned
          rw [← lengths, List.length_drop] at bound
          rw [List.drop_append_of_le_length (by omega),
            startsWith_lineEnd "'" _ last (by decide) isLast.lineEnd] at closed
          rw [List.drop_append_of_le_length (by omega), startsWith_lineEnd "'" _ next (by decide) ended]
          split at closed
          · next quote =>
              have room := length_le_of_startsWith "'" _ quote
              have single : "'".toList.length = 1 := rfl
              rw [single, List.length_drop] at room
              cases closed
              rw [if_pos quote, suffixed_lineEnd text last _ (by omega) isLast.lineEnd,
                suffixed_lineEnd text next _ (by omega) ended]
              exact ⟨suffixed_le text _ (by omega), rfl⟩
          · cases closed
  · cases read

end Strings
end SnippetRunner.Token

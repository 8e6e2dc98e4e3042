import SnippetRunner.Policy

/-!
What a scan of a snippet's tokens looks at. The scan passes over a path from a root crate as a whole, so it
stands at every place but the later tokens of such paths. A snippet is accepted when nothing is violated at
the places it stands at; what stands at the others is not looked at, and a forbidden form may hide there.
-/

namespace SnippetRunner.Policy
open Token (Flat)

section Paths

/-- A path from a root crate starts at this place. -/
def StartsRootPath (tokens : List Flat) (place : Nat) : Prop :=
  ∃ name raw rest, tokens.drop place = .word name raw :: rest ∧ name ∈ rootCrates

-- The first place after the path that starts at this one.
def pathEnd (tokens : List Flat) (place : Nat) : Nat :=
  place + pathTokens (segments (tokens.drop place))

/-- A later token of a path that starts at a root crate stands at this place. -/
def InsideRootPath (tokens : List Flat) (place : Nat) : Prop :=
  ∃ start < place, StartsRootPath tokens start ∧ place < pathEnd tokens start

theorem segments_word_ne_nil (name : List Char) (raw : Bool) (rest : List Flat) :
    segments (.word name raw :: rest) ≠ [] := by
  unfold segments
  split <;> simp_all

theorem pathTokens_cons (name : List Char) (later : List (List Char)) (nonempty : later ≠ []) :
    pathTokens (name :: later) = 2 + pathTokens later := by
  have positive := List.length_pos_iff.mpr nonempty
  simp only [pathTokens, List.length_cons]
  omega

theorem pathTokens_pos (name : List Char) (raw : Bool) (rest : List Flat) :
    0 < pathTokens (segments (.word name raw :: rest)) := by
  have positive := List.length_pos_iff.mpr (segments_word_ne_nil name raw rest)
  simp only [pathTokens]
  omega

-- A path is maximal, so a path that starts inside another one ends where the other one does.
theorem pathEnd_inside (tokens : List Flat) (start : Nat) (name : List Char) (raw : Bool)
    (rest : List Flat) (here : tokens.drop start = .word name raw :: rest)
    (inside : start < pathTokens (segments tokens)) :
    pathEnd tokens start = pathTokens (segments tokens) := by
  fun_induction segments tokens generalizing start with
  | case1 first firstRaw next nextRaw later ih =>
      have laterPath := segments_word_ne_nil next nextRaw later
      rw [pathTokens_cons first _ laterPath] at inside ⊢
      match start with
      | 0 =>
          simp only [pathEnd, List.drop_zero, segments]
          rw [pathTokens_cons first _ laterPath]
          omega
      | 1 => simp at here
      | start + 2 =>
          have ends := ih start (by simpa using here) (by omega)
          simp only [pathEnd, List.drop_succ_cons] at ends ⊢
          omega
  | case2 first firstRaw later =>
      have zero : start = 0 := by simpa [pathTokens] using inside
      subst zero
      simp [pathEnd, pathTokens, segments]
  | case3 => simp [pathTokens] at inside

-- The tokens of a path are words and separators.
theorem no_mark_inside (tokens : List Flat) (place : Nat) (c : Char) (rest : List Flat)
    (here : tokens.drop place = .mark c :: rest) : ¬ place < pathTokens (segments tokens) := by
  intro inside
  fun_induction segments tokens generalizing place with
  | case1 name raw next nextRaw later ih =>
      rw [pathTokens_cons name _ (segments_word_ne_nil next nextRaw later)] at inside
      match place with
      | 0 => cases here
      | 1 => cases here
      | place + 2 => exact ih place here (by omega)
  | case2 name raw later =>
      have first : place = 0 := by simpa [pathTokens] using inside
      subst first
      cases here
  | case3 => simp [pathTokens] at inside

end Paths

section Steps

theorem step_root (name : List Char) (raw : Bool) (rest : List Flat) (root : name ∈ rootCrates) :
    step (.word name raw) rest = pathEnd (.word name raw :: rest) 0 := by
  simp [step, pathEnd, root]

theorem step_pos (token : Flat) (rest : List Flat) : 0 < step token rest := by
  unfold step
  split
  · split
    · exact pathTokens_pos _ _ _
    · exact Nat.one_pos
  · exact Nat.one_pos

theorem drop_step (token : Flat) (rest : List Flat) :
    rest.drop (step token rest - 1) = (token :: rest).drop (step token rest) := by
  cases equal : step token rest with
  | zero => exact absurd (step_pos token rest) (by omega)
  | succ more => rfl

-- No path leads from what is passed over to what comes after it.
theorem pathEnd_le_step (token : Flat) (rest : List Flat) (start : Nat)
    (before : start < step token rest) (starts : StartsRootPath (token :: rest) start) :
    pathEnd (token :: rest) start ≤ step token rest := by
  obtain ⟨name, raw, after, here, root⟩ := starts
  cases start with
  | zero =>
      simp only [List.drop_zero, List.cons.injEq] at here
      obtain ⟨rfl, rfl⟩ := here
      exact Nat.le_of_eq (step_root name raw rest root).symm
  | succ start =>
      cases token with
      | word first firstRaw =>
          by_cases firstRoot : first ∈ rootCrates
          · rw [step_root first firstRaw rest firstRoot] at before ⊢
            simp only [pathEnd, Nat.zero_add, List.drop_zero] at before ⊢
            exact Nat.le_of_eq (pathEnd_inside _ _ name raw after here before)
          · simp [step, firstRoot] at before
      | separator => simp [step] at before
      | mark c => simp [step] at before

theorem insideRootPath_passed (token : Flat) (rest : List Flat) (place : Nat) (later : 0 < place)
    (before : place < step token rest) : InsideRootPath (token :: rest) place := by
  cases token with
  | word name raw =>
      by_cases root : name ∈ rootCrates
      · exact ⟨0, later, ⟨name, raw, rest, rfl, root⟩, step_root name raw rest root ▸ before⟩
      · simp [step, root] at before
        omega
  | separator => simp [step] at before; omega
  | mark c => simp [step] at before; omega

theorem insideRootPath_after_step (token : Flat) (rest : List Flat) (place : Nat) :
    InsideRootPath (token :: rest) (step token rest + place) ↔
      InsideRootPath ((token :: rest).drop (step token rest)) place := by
  constructor
  · rintro ⟨start, below, starts, within⟩
    by_cases before : start < step token rest
    · have ends := pathEnd_le_step token rest start before starts
      omega
    · obtain ⟨start, rfl⟩ := Nat.exists_eq_add_of_le (Nat.le_of_not_lt before)
      refine ⟨start, by omega, ?_, ?_⟩
      · simpa [StartsRootPath, List.drop_drop] using starts
      · simp only [pathEnd, List.drop_drop] at within ⊢
        omega
  · rintro ⟨start, below, starts, within⟩
    refine ⟨step token rest + start, by omega, ?_, ?_⟩
    · simpa [StartsRootPath, List.drop_drop] using starts
    · simp only [pathEnd, List.drop_drop] at within ⊢
      omega

-- Each place inside a path is inside the outermost path around it.
theorem outermost_path (tokens : List Flat) (place : Nat) (inside : InsideRootPath tokens place) :
    ∃ start < place, StartsRootPath tokens start ∧ ¬ InsideRootPath tokens start ∧
      place < pathEnd tokens start := by
  obtain ⟨start, below, starts, within⟩ := inside
  induction start using Nat.strongRecOn with
  | ind start ih =>
      by_cases nested : InsideRootPath tokens start
      · obtain ⟨outer, outerBelow, outerStarts, outerWithin⟩ := nested
        obtain ⟨name, raw, rest, here, _⟩ := starts
        obtain ⟨ahead, rfl⟩ := Nat.exists_eq_add_of_le (Nat.le_of_lt outerBelow)
        have sameEnd := pathEnd_inside (tokens.drop outer) ahead name raw rest
          (by simpa [List.drop_drop] using here)
          (by simp only [pathEnd] at outerWithin; omega)
        refine ih outer outerBelow (by omega) outerStarts ?_
        simp only [pathEnd, List.drop_drop] at sameEnd within outerWithin ⊢
        omega
      · exact ⟨start, below, starts, nested, within⟩

end Steps

section Scans

/-- Nothing is found exactly when nothing is violated where the scan stands. -/
theorem scan_eq_none_iff (allowed : AllowList) (tokens : List Flat) :
    scan allowed tokens = none ↔
      ∀ place token rest, tokens.drop place = token :: rest → ¬ InsideRootPath tokens place →
        violationAt allowed token rest = none := by
  fun_induction scan allowed tokens with
  | case1 => simp
  | case2 token rest violation found =>
      have outside : ¬ InsideRootPath (token :: rest) 0 := by
        rintro ⟨start, below, _⟩
        omega
      simp only [reduceCtorEq, false_iff]
      intro clean
      have atStart := clean 0 token rest rfl outside
      simp [found] at atStart
  | case3 token rest clean ih =>
      rw [ih, drop_step]
      constructor
      · intro later place other after here outside
        by_cases start : place = 0
        · subst start
          simp only [List.drop_zero, List.cons.injEq] at here
          obtain ⟨rfl, rfl⟩ := here
          exact clean
        · by_cases before : place < step token rest
          · exact absurd (insideRootPath_passed token rest place (by omega) before) outside
          · obtain ⟨ahead, rfl⟩ := Nat.exists_eq_add_of_le (Nat.le_of_not_lt before)
            exact later ahead other after (by simpa [List.drop_drop] using here)
              (fun inside => outside ((insideRootPath_after_step token rest ahead).mpr inside))
      · intro whole place other after here outside
        exact whole (step token rest + place) other after (by simpa [List.drop_drop] using here)
          (fun inside => outside ((insideRootPath_after_step token rest place).mp inside))

/-- The scan stands at every mark. -/
theorem violationAt_mark_of_scan (allowed : AllowList) (front : List Flat) (c : Char) (rest : List Flat)
    (clean : scan allowed (front ++ .mark c :: rest) = none) : violationAt allowed (.mark c) rest = none := by
  apply (scan_eq_none_iff allowed _).mp clean front.length _ _ (List.drop_left ..)
  rintro ⟨start, below, _, within⟩
  obtain ⟨ahead, equal⟩ := Nat.exists_eq_add_of_le (Nat.le_of_lt below)
  refine no_mark_inside ((front ++ .mark c :: rest).drop start) ahead c rest ?_ ?_
  · rw [List.drop_drop, ← equal, List.drop_left]
  · simp only [pathEnd] at within
    omega

/-- What is found is violated where the scan stands. -/
theorem scan_eq_some (allowed : AllowList) (tokens : List Flat) (violation : Violation)
    (found : scan allowed tokens = some violation) :
    ∃ place token rest, tokens.drop place = token :: rest ∧ ¬ InsideRootPath tokens place ∧
      violationAt allowed token rest = some violation := by
  fun_induction scan allowed tokens with
  | case1 => cases found
  | case2 token rest first atStart =>
      cases found
      refine ⟨0, token, rest, rfl, ?_, atStart⟩
      rintro ⟨start, below, _⟩
      omega
  | case3 token rest _ ih =>
      obtain ⟨place, other, after, here, outside, violated⟩ := ih found
      rw [drop_step] at here outside
      exact ⟨step token rest + place, other, after, by simpa [List.drop_drop] using here,
        fun inside => outside ((insideRootPath_after_step token rest place).mp inside), violated⟩

theorem check_eq_ok_iff (allowed : AllowList) (snippet : String) :
    check allowed snippet = .ok () ↔
      snippet.utf8ByteSize ≤ maxSnippetBytes ∧
        ∃ trees, Token.lex? snippet.toList = some trees ∧ scan allowed (Token.flatten trees) = none := by
  unfold check
  by_cases long : maxSnippetBytes < snippet.utf8ByteSize
  · simp [long, Nat.not_le_of_gt long]
  · simp only [long, ↓reduceIte, Nat.le_of_not_lt long, true_and]
    cases Token.lex? snippet.toList with
    | none => simp
    | some trees => cases found : scan allowed (Token.flatten trees) <;> simp [found]

end Scans

section ForbiddenForms

/-- The tokens start with a form no snippet is to hold. -/
inductive Forbidden : List Flat → Prop where
  | keyword (name : List Char) (rest : List Flat) (known : name ∈ forbiddenKeywords) :
      Forbidden (.word name false :: rest)
  | invocation (name : List Char) (raw : Bool) (opening : Char) (rest : List Flat)
      (known : name ∈ forbiddenMacros) (delimiter : opening ∈ ['(', '[', '{']) :
      Forbidden (.word name raw :: .mark '!' :: .mark opening :: rest)
  | moduleFile (rest : List Flat)
      (outline : ∀ name raw body, rest ≠ .word name raw :: .mark '{' :: body) :
      Forbidden (.word ['m', 'o', 'd'] false :: rest)

/-- A later token of a path from a root crate, and the path is allowed. -/
def InsideAllowedPath (allowed : AllowList) (tokens : List Flat) (place : Nat) : Prop :=
  ∃ start < place, StartsRootPath tokens start ∧ ¬ InsideRootPath tokens start ∧
    place < pathEnd tokens start ∧ allowed.allows (pathText (segments (tokens.drop start))) = true

theorem violationAt_forbidden (allowed : AllowList) (token : Flat) (rest : List Flat)
    (forbidden : Forbidden (token :: rest)) : violationAt allowed token rest ≠ none := by
  cases forbidden with
  | keyword name rest known => simp [violationAt, known]
  | invocation name raw opening rest known delimiter =>
      have invoked : isInvocation (.mark '!' :: .mark opening :: rest) = true := by
        simpa [isInvocation, or_assoc] using delimiter
      simp only [violationAt, List.contains_eq_mem, known, decide_true, invoked, Bool.and_self,
        ↓reduceIte]
      split
      · simp
      · split <;> simp
  | moduleFile rest outline =>
      have notInline : isInlineModule rest = false := by
        unfold isInlineModule
        split
        · exact absurd rfl (outline _ _ _)
        · rfl
      simp only [violationAt, notInline]
      split <;> simp

-- Where nothing is violated, a root path is allowed.
theorem allows_of_violationAt (allowed : AllowList) (name : List Char) (raw : Bool) (rest : List Flat)
    (root : name ∈ rootCrates) (clean : violationAt allowed (.word name raw) rest = none) :
    allowed.allows (pathText (segments (.word name raw :: rest))) = true := by
  simp only [violationAt, List.contains_eq_mem, root, decide_true, ↓reduceIte] at clean
  split at clean
  · cases clean
  · split at clean
    · cases clean
    · split at clean
      · cases clean
      · simpa using clean

theorem insideAllowedPath_of_scan (allowed : AllowList) (tokens : List Flat)
    (clean : scan allowed tokens = none) (place : Nat) (inside : InsideRootPath tokens place) :
    InsideAllowedPath allowed tokens place := by
  obtain ⟨start, below, starts, outside, within⟩ := outermost_path tokens place inside
  have ⟨name, raw, rest, here, root⟩ := starts
  have atStart := (scan_eq_none_iff allowed tokens).mp clean start _ _ here outside
  refine ⟨start, below, starts, outside, within, ?_⟩
  rw [here]
  exact allows_of_violationAt allowed name raw rest root atStart

theorem insideRootPath_of_forbidden (allowed : AllowList) (tokens : List Flat)
    (clean : scan allowed tokens = none) (place : Nat) (forbidden : Forbidden (tokens.drop place)) :
    InsideRootPath tokens place := by
  cases here : tokens.drop place with
  | nil => rw [here] at forbidden; cases forbidden
  | cons token rest =>
      rw [here] at forbidden
      apply Classical.byContradiction
      intro outside
      exact violationAt_forbidden allowed token rest forbidden
        ((scan_eq_none_iff allowed tokens).mp clean place token rest here outside)

/-- A forbidden form in an accepted snippet is a later token of an allowed path from a root crate. So an
accepted snippet is free of forbidden forms exactly when those of its allowed paths are. -/
theorem accepted_free_of_forbidden_iff (allowed : AllowList) (snippet : String)
    (accepted : check allowed snippet = .ok ()) :
    ∃ trees, Token.lex? snippet.toList = some trees ∧
      (∀ place, Forbidden ((Token.flatten trees).drop place) →
        InsideAllowedPath allowed (Token.flatten trees) place) ∧
      ((∀ place, ¬ Forbidden ((Token.flatten trees).drop place)) ↔
        ∀ place, InsideAllowedPath allowed (Token.flatten trees) place →
          ¬ Forbidden ((Token.flatten trees).drop place)) := by
  obtain ⟨_, trees, lexed, clean⟩ := (check_eq_ok_iff allowed snippet).mp accepted
  have hidden (place : Nat) (forbidden : Forbidden ((Token.flatten trees).drop place)) :
      InsideAllowedPath allowed (Token.flatten trees) place :=
    insideAllowedPath_of_scan allowed _ clean place
      (insideRootPath_of_forbidden allowed _ clean place forbidden)
  refine ⟨trees, lexed, hidden, ?_, ?_⟩
  · intro free place _
    exact free place
  · intro freeInside place forbidden
    exact freeInside place (hidden place forbidden) forbidden

-- The scan passes from the root crate to what comes after the path, so it never stands at the name.
theorem std_env_lexes : Token.lex? "std::env!(\"HOME\")".toList =
    some [.word "std".toList false, .mark ':' true, .mark ':' false, .word "env".toList false,
      .mark '!' false, .group .round [.literal "\"HOME\"".toList]] := by
  have lexemes : Token.lexemes? "std::env!(\"HOME\")".toList =
      some [.word "std".toList false, .mark ':' true, .mark ':' false, .word "env".toList false,
        .mark '!' false, .opens .round, .literal "\"HOME\"".toList, .closes .round] := by
    decide +kernel
  rw [Token.lex?, lexemes]
  rfl

theorem std_env_accepted :
    check (.ofNamespaces ["std::env"]) "std::env!(\"HOME\")" = .ok () := by
  refine (check_eq_ok_iff _ _).mpr ⟨by decide +kernel, _, std_env_lexes, ?_⟩
  simp only [Token.flatten, Token.flattenOnto]
  decide +kernel

theorem std_env_invocation_passes :
    ¬ ∀ allowed snippet, check allowed snippet = .ok () →
      ∀ trees, Token.lex? snippet.toList = some trees →
        ∀ place, ¬ Forbidden ((Token.flatten trees).drop place) := by
  intro free
  apply free _ _ std_env_accepted _ std_env_lexes 2
  simp only [Token.flatten, Token.flattenOnto]
  exact .invocation "env".toList false '(' [.mark ')'] (by decide +kernel) (by decide)

theorem accepted_free_of_forbidden_std_env :
    check (.ofNamespaces ["std::env"]) "std::env!(\"HOME\")" = .ok () ∧
      ∃ trees, Token.lex? "std::env!(\"HOME\")".toList = some trees ∧
        ∀ place, Forbidden ((Token.flatten trees).drop place) →
          InsideAllowedPath (.ofNamespaces ["std::env"]) (Token.flatten trees) place := by
  obtain ⟨trees, lexed, hidden, _⟩ := accepted_free_of_forbidden_iff _ _ std_env_accepted
  exact ⟨std_env_accepted, trees, lexed, hidden⟩

end ForbiddenForms
end SnippetRunner.Policy

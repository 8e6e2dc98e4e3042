import SnippetRunner.Proofs.TokenNames
import SnippetRunner.Proofs.TreeParts

/-!
Token trees beside their flat tokens. The trees of a level stand in the flat tokens one after the other, with what
a group holds between its delimiters; only a literal, the name of a lifetime and the first of two joint colons are
not there as themselves.
-/

namespace SnippetRunner.Token

section Flattening

/-- How trees become flat tokens, tree by tree. -/
inductive Flattens : List Tree → List Flat → Prop where
  | nil : Flattens [] []
  | group (delimiter : Delimiter) {inner rest : List Tree} {inside tokens : List Flat} :
      Flattens inner inside → Flattens rest tokens →
      Flattens (.group delimiter inner :: rest)
        (.mark delimiter.opens :: inside ++ .mark delimiter.closes :: tokens)
  | word (name : List Char) (raw : Bool) {rest : List Tree} {tokens : List Flat} :
      Flattens rest tokens → Flattens (.word name raw :: rest) (.word name raw :: tokens)
  | literal (text : List Char) {rest : List Tree} {tokens : List Flat} :
      Flattens rest tokens → Flattens (.literal text :: rest) tokens
  | separator (joint : Bool) {rest : List Tree} {tokens : List Flat} :
      Flattens rest tokens → Flattens (.mark ':' true :: .mark ':' joint :: rest) (.separator :: tokens)
  | lifetime (name : List Char) (raw : Bool) {rest : List Tree} {tokens : List Flat} :
      Flattens rest tokens → Flattens (.mark '\'' true :: .word name raw :: rest) tokens
  | mark (c : Char) (joint : Bool) {rest : List Tree} {tokens : List Flat}
      (unpaired : ∀ next more, rest = .mark ':' next :: more → c = ':' → joint = true → False)
      (unnamed : ∀ name raw more, rest = .word name raw :: more → c = '\'' → joint = true → False) :
      Flattens rest tokens →
      Flattens (.mark c joint :: rest) (if c == '\'' && joint then tokens else .mark c :: tokens)

theorem flattens_some (done : List Flat) (trees : List Tree) : ∃ tokens, Flattens trees tokens := by
  fun_induction flattenOnto done trees with
  | case1 => exact ⟨_, .nil⟩
  | case2 done delimiter inner rest innerIh restIh =>
      obtain ⟨inside, held⟩ := innerIh
      obtain ⟨tokens, later⟩ := restIh
      exact ⟨_, .group delimiter held later⟩
  | case3 done name raw rest ih =>
      obtain ⟨tokens, later⟩ := ih
      exact ⟨_, .word name raw later⟩
  | case4 done text rest ih =>
      obtain ⟨tokens, later⟩ := ih
      exact ⟨_, .literal text later⟩
  | case5 done joint rest ih =>
      obtain ⟨tokens, later⟩ := ih
      exact ⟨_, .separator joint later⟩
  | case6 done name raw rest ih =>
      obtain ⟨tokens, later⟩ := ih
      exact ⟨_, .lifetime name raw later⟩
  | case7 done c joint rest unpaired unnamed ih =>
      obtain ⟨tokens, later⟩ := ih
      exact ⟨_, .mark c joint unpaired unnamed later⟩

theorem flattenOnto_eq (trees : List Tree) (tokens : List Flat) (flattens : Flattens trees tokens)
    (done : List Flat) : flattenOnto done trees = tokens.reverse ++ done := by
  induction flattens generalizing done with
  | nil => simp [flattenOnto]
  | group delimiter _ _ innerIh restIh =>
      rw [flattenOnto, innerIh, restIh]
      simp
  | word name raw _ ih =>
      rw [flattenOnto, ih]
      simp
  | literal text _ ih => rw [flattenOnto, ih]
  | separator joint _ ih =>
      rw [flattenOnto, ih]
      simp
  | lifetime name raw _ ih => rw [flattenOnto, ih]
  | mark c joint unpaired unnamed _ ih =>
      rw [flattenOnto, ih]
      · split <;> simp
      · exact unpaired
      · exact unnamed

theorem flatten_eq {trees : List Tree} {tokens : List Flat} (flattens : Flattens trees tokens) :
    flatten trees = tokens := by
  rw [flatten, flattenOnto_eq trees tokens flattens, List.append_nil, List.reverse_reverse]

theorem flattens_flatten (trees : List Tree) : Flattens trees (flatten trees) := by
  obtain ⟨tokens, flattens⟩ := flattens_some [] trees
  rwa [flatten_eq flattens]

theorem flatten_group (delimiter : Delimiter) (inner rest : List Tree) :
    flatten (.group delimiter inner :: rest) =
      .mark delimiter.opens :: flatten inner ++ .mark delimiter.closes :: flatten rest :=
  flatten_eq (.group delimiter (flattens_flatten inner) (flattens_flatten rest))

theorem flatten_mark (c : Char) (joint : Bool) (rest : List Tree) (plain : c ∉ [':', '\'']) :
    flatten (.mark c joint :: rest) = .mark c :: flatten rest := by
  have noColon : c ≠ ':' := fun same => plain (by simp [same])
  have noQuote : c ≠ '\'' := fun same => plain (by simp [same])
  have flattens := Flattens.mark c joint (fun _ _ _ same _ => noColon same)
    (fun _ _ _ _ same _ => noQuote same) (flattens_flatten rest)
  rw [flatten_eq flattens]
  simp [noQuote]

/-- A border no tree before it takes part in: what comes after starts with no colon and no name. -/
def Border (after : List Tree) : Prop :=
  (∀ joint rest, after ≠ .mark ':' joint :: rest) ∧ ∀ name raw rest, after ≠ .word name raw :: rest

theorem border_mark (c : Char) (joint : Bool) (rest : List Tree) (noColon : c ≠ ':') :
    Border (.mark c joint :: rest) := by
  constructor
  · rintro _ _ ⟨⟩
    exact noColon rfl
  · rintro _ _ _ ⟨⟩

theorem border_group (delimiter : Delimiter) (inner rest : List Tree) :
    Border (.group delimiter inner :: rest) := by
  constructor
  · rintro _ _ ⟨⟩
  · rintro _ _ _ ⟨⟩

theorem flattens_append {before after : List Tree} {tokens more : List Flat} (border : Border after)
    (first : Flattens before tokens) (second : Flattens after more) :
    Flattens (before ++ after) (tokens ++ more) := by
  induction first with
  | nil => exact second
  | group delimiter held _ _ ih => simpa using Flattens.group delimiter held ih
  | word name raw _ ih => exact .word name raw ih
  | literal text _ ih => exact .literal text ih
  | separator joint _ ih => exact .separator joint ih
  | lifetime name raw _ ih => exact .lifetime name raw ih
  | @mark c joint rest tokens unpaired unnamed _ ih =>
      -- What comes next is the next tree before the border, or the border itself.
      have laterUnpaired (next : Bool) (later : List Tree) (equal : rest ++ after = .mark ':' next :: later)
          (colon : c = ':') (paired : joint = true) : False := by
        cases rest with
        | nil => exact border.1 next later equal
        | cons first others =>
            cases equal
            exact unpaired next others rfl colon paired
      have laterUnnamed (name : List Char) (raw : Bool) (later : List Tree)
          (equal : rest ++ after = .word name raw :: later) (quote : c = '\'') (paired : joint = true) : False := by
        cases rest with
        | nil => exact border.2 name raw later equal
        | cons first others =>
            cases equal
            exact unnamed name raw others rfl quote paired
      have whole := Flattens.mark c joint laterUnpaired laterUnnamed ih
      simp only [List.cons_append]
      split at whole
      · next dropped => simpa only [dropped, ↓reduceIte] using whole
      · next kept => simpa only [kept, Bool.false_eq_true, ↓reduceIte, List.cons_append] using whole

theorem flatten_append {before after : List Tree} (border : Border after) :
    flatten (before ++ after) = flatten before ++ flatten after :=
  flatten_eq (flattens_append border (flattens_flatten before) (flattens_flatten after))

end Flattening

section Levels

/-- The levels of nested trees, the outermost one and that of each group in them, with the flat tokens before and
after each. -/
inductive Level (trees : List Tree) : List Flat → List Tree → List Flat → Prop where
  | whole : Level trees [] trees []
  | inside (delimiter : Delimiter) {front back : List Flat} {before inner after : List Tree} :
      Level trees front (before ++ .group delimiter inner :: after) back →
      Level trees (front ++ flatten before ++ [.mark delimiter.opens]) inner
        (.mark delimiter.closes :: flatten after ++ back)

/-- The flat tokens of a level stand between those before and those after it. -/
theorem Level.flatten_eq {trees level : List Tree} {front back : List Flat} (place : Level trees front level back) :
    flatten trees = front ++ flatten level ++ back := by
  induction place with
  | whole => simp
  | inside delimiter _ ih =>
      rw [ih, flatten_append (border_group delimiter _ _), flatten_group]
      simp

-- What is said of a name in the rest of a level is said of it in the level.
theorem named_later {name : List Char} {raw : Bool} {tokens : List Flat} {before : List Tree} (first : Tree)
    (found : .word name raw ∈ tokens ∨ ∃ front, before = front ++ [.mark '\'' true]) :
    .word name raw ∈ tokens ∨ ∃ front, first :: before = front ++ [.mark '\'' true] := by
  rcases found with found | ⟨front, rfl⟩
  · exact .inl found
  · exact .inr ⟨first :: front, rfl⟩

theorem Flattens.word_mem {trees : List Tree} {tokens : List Flat} (flattens : Flattens trees tokens)
    {name : List Char} {raw : Bool} {before after : List Tree} (level : trees = before ++ .word name raw :: after) :
    .word name raw ∈ tokens ∨ ∃ first, before = first ++ [.mark '\'' true] := by
  induction flattens generalizing before with
  | nil => simp at level
  | group delimiter _ _ _ ih =>
      cases before with
      | nil => cases level
      | cons first before =>
          cases level
          apply named_later
          rcases ih rfl with found | quoted
          · left
            simp [found]
          · exact .inr quoted
  | word other otherRaw _ ih =>
      cases before with
      | nil =>
          cases level
          exact .inl List.mem_cons_self
      | cons first before =>
          cases level
          apply named_later
          exact (ih rfl).imp_left (List.mem_cons_of_mem _)
  | literal text _ ih =>
      cases before with
      | nil => cases level
      | cons first before =>
          cases level
          exact named_later _ (ih rfl)
  | separator joint _ ih =>
      match before with
      | [] => cases level
      | [_] => cases level
      | _ :: _ :: before =>
          cases level
          apply named_later
          apply named_later
          exact (ih rfl).imp_left (List.mem_cons_of_mem _)
  | lifetime other otherRaw _ ih =>
      match before with
      | [] => cases level
      | [_] =>
          cases level
          exact .inr ⟨[], rfl⟩
      | _ :: _ :: before =>
          cases level
          exact named_later _ (named_later _ (ih rfl))
  | @mark c joint rest tokens unpaired unnamed _ ih =>
      cases before with
      | nil => cases level
      | cons first before =>
          cases level
          apply named_later
          refine (ih rfl).imp_left ?_
          intro found
          split
          · exact found
          · exact List.mem_cons_of_mem _ found

/-- Only the name of a lifetime is not among the flat tokens of its level. -/
theorem word_mem_flatten (before : List Tree) (name : List Char) (raw : Bool) (after : List Tree) :
    .word name raw ∈ flatten (before ++ .word name raw :: after) ∨ ∃ first, before = first ++ [.mark '\'' true] :=
  (flattens_flatten _).word_mem rfl

end Levels
end SnippetRunner.Token

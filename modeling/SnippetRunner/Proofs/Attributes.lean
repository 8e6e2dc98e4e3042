import SnippetRunner.Proofs.FlatLevels
import SnippetRunner.Proofs.PolicyScan

/-!
Attributes at every nesting depth. The policy reads them off the flat tokens and counts square brackets to find
where one ends. It finds the right place: in the trees of a text no mark is a square bracket, so those in the flat
tokens come in pairs, one pair for each group. And the scan stands at every `#`, for no path holds one.
-/

namespace SnippetRunner

namespace Token

section Punctuation

theorem mem_marks_of_lexeme (text : List Char) (c : Char) (joint : Bool) (count : Nat)
    (read : lexeme? text = some (.mark c joint, count)) : c ∈ marks := by
  have marked : mark? text = some (.mark c joint, count) := by
    simpa using lexeme_kinds text (.mark c joint) count read
  cases text with
  | nil => cases marked
  | cons first rest =>
      rw [mark?] at marked
      split at marked
      · next starts =>
          have known : first ∈ marks := by
            simp only [startsMark, Bool.and_eq_true, List.contains_eq_mem, decide_eq_true_eq] at starts
            exact starts.1
          split at marked
          · split at marked
            · cases marked
              exact known
            · cases marked
          · cases marked
            exact known
      · cases marked

/-- The marks of a lexed text are punctuation, and so are those its documentation comments stand for. -/
theorem mem_marks_of_lex (text : List Char) (trees : List Tree) (lexed : lex? text = some trees)
    (c : Char) (joint : Bool) (member : .mark c joint ∈ spelledAll trees) : c ∈ marks := by
  obtain ⟨lexemes, scanned, matched⟩ := Option.bind_eq_some_iff.mp lexed
  rw [spelledAll_of_trees lexemes trees matched] at member
  obtain ⟨lexeme, among, spelled⟩ := List.mem_flatMap.mp member
  obtain ⟨rest, count, read⟩ := lexemes_read text lexemes scanned lexeme among
  cases lexeme with
  | mark other otherJoint =>
      simp only [Lexeme.spelled, List.mem_singleton] at spelled
      cases spelled
      exact mem_marks_of_lexeme rest c joint count read
  | doc inner body =>
      have plain : ∀ c joint, .mark c joint ∈ spelledAll (docTrees inner body).reverse → c ∈ marks := by
        cases inner <;> simp [docTrees, spelledAll, Tree.spelled] <;> decide
      exact plain c joint spelled
  | opens | closes | word | literal => simp [Lexeme.spelled] at spelled

theorem Level.spelled_subset {trees level : List Tree} {front back : List Flat}
    (place : Level trees front level back) : spelledAll level ⊆ spelledAll trees := by
  induction place with
  | whole => exact List.Subset.refl _
  | inside delimiter _ ih =>
      refine List.Subset.trans ?_ ih
      intro lexeme member
      simp [spelledAll_append, spelledAll, Tree.spelled, member]

end Punctuation
end Token

namespace Policy
open Token (Flat Tree Level flatten)

section Counting

/-- Flat tokens whose square brackets come in pairs. -/
inductive Paired : List Flat → Prop where
  | nil : Paired []
  | other {token : Flat} {rest : List Flat} (noBracket : token ∉ [.mark '[', .mark ']']) :
      Paired rest → Paired (token :: rest)
  | square {inner rest : List Flat} :
      Paired inner → Paired rest → Paired (.mark '[' :: inner ++ .mark ']' :: rest)

theorem Paired.append {tokens more : List Flat} (first : Paired tokens) (second : Paired more) :
    Paired (tokens ++ more) := by
  induction first with
  | nil => exact second
  | other noBracket _ ih => exact .other noBracket ih
  | square inner _ _ ih => simpa using Paired.square inner ih

/-- No mark in the trees is a square bracket, at any depth. -/
def Plain (trees : List Tree) : Prop :=
  ∀ c joint, .mark c joint ∈ Token.spelledAll trees → c ∉ ['[', ']']

theorem Plain.within {trees level : List Tree} (plain : Plain trees)
    (inside : Token.spelledAll level ⊆ Token.spelledAll trees) : Plain level := by
  intro c joint member
  exact plain c joint (inside member)

theorem Plain.rest {first : Tree} {rest : List Tree} (plain : Plain (first :: rest)) : Plain rest := by
  apply plain.within
  rw [Token.spelledAll]
  exact List.subset_append_right _ _

theorem Plain.inner {delimiter : Token.Delimiter} {inner rest : List Tree}
    (plain : Plain (.group delimiter inner :: rest)) : Plain inner := by
  apply plain.within
  intro lexeme member
  simp [Token.spelledAll, Tree.spelled, member]

theorem paired_of_flattens {trees : List Tree} {tokens : List Flat} (flattens : Token.Flattens trees tokens)
    (plain : Plain trees) : Paired tokens := by
  induction flattens with
  | nil => exact .nil
  | group delimiter _ _ innerIh restIh =>
      have inner := innerIh plain.inner
      have rest := restIh plain.rest
      -- Only a group in square brackets brings such brackets, and it brings both.
      cases delimiter with
      | square => exact .square inner rest
      | round => exact .other (by decide) (inner.append (.other (by decide) rest))
      | curly => exact .other (by decide) (inner.append (.other (by decide) rest))
  | word name raw _ ih => exact .other (by simp) (ih plain.rest)
  | literal text _ ih => exact ih plain.rest
  | separator joint _ ih => exact .other (by simp) (ih plain.rest.rest)
  | lifetime name raw _ ih => exact ih plain.rest.rest
  | mark c joint _ _ _ ih =>
      have noBracket := plain c joint (by simp [Token.spelledAll, Tree.spelled])
      split
      · exact ih plain.rest
      · exact .other (by simpa using noBracket) (ih plain.rest)

/-- How many square brackets are open after these tokens; below zero if more were closed than opened. -/
def depthAfter (read : List Flat) : Int :=
  read.count (.mark '[') - read.count (.mark ']')

theorem depthAfter_append (read more : List Flat) : depthAfter (read ++ more) = depthAfter read + depthAfter more := by
  simp only [depthAfter, List.count_append]
  omega

theorem depthAfter_other (token : Flat) (read : List Flat) (noBracket : token ∉ [.mark '[', .mark ']']) :
    depthAfter (token :: read) = depthAfter read := by
  simp only [List.mem_cons, List.not_mem_nil, or_false, not_or] at noBracket
  simp [depthAfter, noBracket.1, noBracket.2]

theorem depthAfter_opens (read : List Flat) : depthAfter (.mark '[' :: read) = depthAfter read + 1 := by
  simp only [depthAfter, List.count_cons_self, List.count_cons_of_ne (by decide : Flat.mark '[' ≠ .mark ']')]
  omega

theorem depthAfter_closes (read : List Flat) : depthAfter (.mark ']' :: read) = depthAfter read - 1 := by
  simp only [depthAfter, List.count_cons_self, List.count_cons_of_ne (by decide : Flat.mark ']' ≠ .mark '[')]
  omega

theorem Paired.depthAfter_eq {tokens : List Flat} (paired : Paired tokens) : depthAfter tokens = 0 := by
  induction paired with
  | nil => rfl
  | other noBracket _ ih => rw [depthAfter_other _ _ noBracket, ih]
  | square _ _ innerIh restIh =>
      rw [depthAfter_append, depthAfter_opens, depthAfter_closes, innerIh, restIh]
      rfl

/-- Where square brackets come in pairs, none is closed before it is opened. -/
theorem Paired.depthAfter_nonneg {tokens : List Flat} (paired : Paired tokens) (read : List Flat)
    (front : read <+: tokens) : 0 ≤ depthAfter read := by
  induction paired generalizing read with
  | nil =>
      rw [List.prefix_nil.mp front]
      exact Int.le_refl 0
  | other noBracket _ ih =>
      rcases List.prefix_cons_iff.mp front with rfl | ⟨more, rfl, later⟩
      · exact Int.le_refl 0
      · rw [depthAfter_other _ _ noBracket]
        exact ih more later
  | @square inner rest paired _ innerIh restIh =>
      -- The front ends before the opening bracket, in the pair, or after it.
      rcases List.prefix_cons_iff.mp front with rfl | ⟨more, rfl, later⟩
      · exact Int.le_refl 0
      · rw [depthAfter_opens]
        rcases List.prefix_or_prefix_of_prefix later (List.prefix_append inner _) with within | ⟨last, rfl⟩
        · have covered := innerIh more within
          omega
        · rw [depthAfter_append, paired.depthAfter_eq]
          rcases List.prefix_cons_iff.mp ((List.prefix_append_right_inj inner).mp later) with
            rfl | ⟨after, rfl, last⟩
          · decide
          · rw [depthAfter_closes]
            have covered := restIh after last
            omega

/-- The counter of a reading is the number of brackets open, as long as one is. -/
theorem bracketedFrom_read (depth : Nat) (done read rest : List Flat)
    (opened : ∀ front, front <+: read → 0 < depth + depthAfter front) :
    ∃ later : Nat, later = depth + depthAfter read ∧
      bracketedFrom depth done (read ++ rest) = bracketedFrom later (read.reverse ++ done) rest := by
  induction read generalizing depth done with
  | nil => exact ⟨depth, (Int.add_zero _).symm, rfl⟩
  | cons token read ih =>
      have openedAfter (front : List Flat) (within : front <+: read) : 0 < depth + depthAfter (token :: front) :=
        opened (token :: front) ((List.prefix_cons_inj token).mpr within)
      by_cases opens : token = .mark '['
      · subst opens
        have deeper (front : List Flat) (within : front <+: read) : 0 < (depth + 1 : Nat) + depthAfter front := by
          have counted := openedAfter front within
          rw [depthAfter_opens] at counted
          omega
        obtain ⟨later, count, run⟩ := ih (depth + 1) (.mark '[' :: done) deeper
        refine ⟨later, by rw [count, depthAfter_opens]; omega, ?_⟩
        rw [List.cons_append, bracketedFrom, if_pos (by decide), run]
        simp
      · by_cases closes : token = .mark ']'
        · subst closes
          have outer : 1 < depth := by
            have counted := openedAfter [] List.nil_prefix
            rw [depthAfter_closes] at counted
            simp only [depthAfter, List.count_nil] at counted
            omega
          have higher (front : List Flat) (within : front <+: read) : 0 < (depth - 1 : Nat) + depthAfter front := by
            have counted := openedAfter front within
            rw [depthAfter_closes] at counted
            omega
          obtain ⟨later, count, run⟩ := ih (depth - 1) (.mark ']' :: done) higher
          refine ⟨later, by rw [count, depthAfter_closes]; omega, ?_⟩
          rw [List.cons_append, bracketedFrom, if_neg (by decide), if_pos (by decide), if_neg (by omega), run]
          simp
        · have noBracket : token ∉ [.mark '[', .mark ']'] := by simp [opens, closes]
          have level (front : List Flat) (within : front <+: read) : 0 < depth + depthAfter front := by
            have counted := openedAfter front within
            rwa [depthAfter_other token front noBracket] at counted
          obtain ⟨later, count, run⟩ := ih depth (token :: done) level
          refine ⟨later, by rw [count, depthAfter_other token read noBracket], ?_⟩
          rw [List.cons_append, bracketedFrom, if_neg (by simpa using opens), if_neg (by simpa using closes), run]
          simp

/-- Where brackets come in pairs, at least the first one is open at each place between it and its own closing one. -/
theorem bracketed_within {inner : List Flat} (paired : Paired inner) (read last rest : List Flat)
    (parts : inner = read ++ last) :
    ∃ depth : Nat, depth = depthAfter (.mark '[' :: read) ∧ 0 < depth ∧
      bracketed (.mark '[' :: inner ++ .mark ']' :: rest) =
        bracketedFrom depth read.reverse (last ++ .mark ']' :: rest) := by
  have nonneg (front : List Flat) (within : front <+: read) : 0 ≤ depthAfter front :=
    paired.depthAfter_nonneg front (within.trans ⟨last, parts.symm⟩)
  have opened (front : List Flat) (within : front <+: read) : 0 < (1 : Nat) + depthAfter front := by
    have counted := nonneg front within
    omega
  obtain ⟨depth, count, run⟩ := bracketedFrom_read 1 [] read (last ++ .mark ']' :: rest) opened
  have counted := nonneg read (List.prefix_refl read)
  refine ⟨depth, by rw [depthAfter_opens]; omega, by omega, ?_⟩
  rw [List.cons_append, bracketed, parts, List.append_assoc, run, List.append_nil]

theorem bracketed_paired {inner : List Flat} (paired : Paired inner) (rest : List Flat) :
    bracketed (.mark '[' :: inner ++ .mark ']' :: rest) = inner := by
  obtain ⟨depth, count, _, run⟩ := bracketed_within paired inner [] rest (List.append_nil inner).symm
  rw [depthAfter_opens, paired.depthAfter_eq] at count
  have single : depth ≤ 1 := by omega
  rw [run]
  simp [bracketedFrom, single]

end Counting

section Attributes

/-- The trees hold an attribute: at some depth a group in square brackets comes right after a `#`. Beside what the
group holds stand the flat tokens before the `#` and those after the group. -/
inductive HasAttribute (trees : List Tree) : List Flat → List Tree → List Flat → Prop where
  | intro (joint : Bool) {front back : List Flat} {before inner after : List Tree} :
      Level trees front (before ++ .mark '#' joint :: .group .square inner :: after) back →
      HasAttribute trees (front ++ flatten before) inner (flatten after ++ back)

/-- A word stands in the trees, at some depth, with these trees before it in its level. -/
def HasWord (trees : List Tree) (name : List Char) (before : List Tree) : Prop :=
  ∃ raw front back after, Level trees front (before ++ .word name raw :: after) back

/-- An attribute is read as the group it is: the slice between its brackets is what the group holds, the counter at
each place in it is the number of brackets open there, and that number is at no place below zero. -/
structure ReadAsGroup (trees : List Tree) (front : List Flat) (inner : List Tree) (back : List Flat) : Prop where
  tokens : flatten trees = front ++ .mark '#' :: (.mark '[' :: flatten inner ++ .mark ']' :: back)
  slice : bracketed (.mark '[' :: flatten inner ++ .mark ']' :: back) = flatten inner
  counter : ∀ read last, flatten inner = read ++ last → ∃ depth : Nat, depth = depthAfter (.mark '[' :: read) ∧
    0 < depth ∧ bracketed (.mark '[' :: flatten inner ++ .mark ']' :: back) =
      bracketedFrom depth read.reverse (last ++ .mark ']' :: back)
  depth : ∀ read, read <+: .mark '[' :: flatten inner ++ [.mark ']'] → 0 ≤ depthAfter read

/-- No `#` comes right before a `!`, and no attribute holds the word `path` but as the name of a lifetime, which comes
right after its quote. -/
structure Guarded (trees : List Tree) : Prop where
  outer : ∀ front back before joint next after,
    ¬ Level trees front (before ++ .mark '#' joint :: .mark '!' next :: after) back
  pathless : ∀ front inner back before, HasAttribute trees front inner back →
    HasWord inner ['p', 'a', 't', 'h'] before → ∃ first, before = first ++ [.mark '\'' true]

theorem tokens_of_attribute (trees : List Tree) (front : List Flat) (inner : List Tree) (back : List Flat)
    (has : HasAttribute trees front inner back) :
    flatten trees = front ++ .mark '#' :: (.mark '[' :: flatten inner ++ .mark ']' :: back) := by
  obtain ⟨joint, place⟩ := has
  rw [place.flatten_eq, Token.flatten_append (Token.border_mark '#' joint _ (by decide)),
    Token.flatten_mark '#' joint _ (by decide), Token.flatten_group]
  simp [Token.Delimiter.opens, Token.Delimiter.closes]

theorem plain_of_lex (text : List Char) (trees : List Tree) (lexed : Token.lex? text = some trees) : Plain trees := by
  intro c joint member bracket
  have known := Token.mem_marks_of_lex text trees lexed c joint member
  revert known
  simp only [List.mem_cons, List.not_mem_nil, or_false] at bracket
  rcases bracket with rfl | rfl
  · decide
  · decide

theorem readAsGroup_of_lex (text : List Char) (trees : List Tree) (lexed : Token.lex? text = some trees)
    (front : List Flat) (inner : List Tree) (back : List Flat) (has : HasAttribute trees front inner back) :
    ReadAsGroup trees front inner back := by
  have paired : Paired (flatten inner) := by
    obtain ⟨joint, place⟩ := has
    apply paired_of_flattens (Token.flattens_flatten inner)
    apply ((plain_of_lex text trees lexed).within place.spelled_subset).within
    intro lexeme member
    simp [Token.spelledAll_append, Token.spelledAll, Tree.spelled, member]
  constructor
  · exact tokens_of_attribute trees front inner back has
  · exact bracketed_paired paired back
  · intro read last parts
    exact bracketed_within paired read last back parts
  · exact (Paired.square paired .nil).depthAfter_nonneg

theorem forbiddenAttribute_none_iff (tokens : List Flat) : forbiddenAttribute? tokens = none ↔
    ∀ name raw, .word name raw ∈ bracketed tokens → name ∉ forbiddenAttributes := by
  rw [forbiddenAttribute?, List.findSome?_eq_none_iff]
  constructor
  · intro clean name raw member forbidden
    have passed := clean _ member
    simp [forbidden] at passed
  · intro allowed token member
    cases token with
    | word name raw => simp [allowed name raw member]
    | separator => rfl
    | mark c => rfl

theorem guarded_of_scan (allowed : AllowList) (trees : List Tree) (clean : scan allowed (flatten trees) = none)
    (read : ∀ front inner back, HasAttribute trees front inner back → ReadAsGroup trees front inner back) :
    Guarded trees := by
  constructor
  · intro front back before joint next after place
    rw [place.flatten_eq, Token.flatten_append (Token.border_mark '#' joint _ (by decide)),
      Token.flatten_mark '#' joint _ (by decide), Token.flatten_mark '!' next _ (by decide),
      List.append_assoc, List.append_assoc, ← List.append_assoc] at clean
    cases violationAt_mark_of_scan allowed _ '#' _ clean
  · rintro front inner back before has ⟨raw, innerFront, innerBack, after, place⟩
    have asGroup := read front inner back has
    rw [asGroup.tokens] at clean
    have passed : forbiddenAttribute? (.mark '[' :: flatten inner ++ .mark ']' :: back) = none := by
      simpa [violationAt] using violationAt_mark_of_scan allowed front '#' _ clean
    rcases Token.word_mem_flatten before ['p', 'a', 't', 'h'] raw after with named | lifetime
    · have member : .word ['p', 'a', 't', 'h'] raw ∈ flatten inner := by
        rw [place.flatten_eq]
        simp [named]
      rw [← asGroup.slice] at member
      exact absurd (by decide) ((forbiddenAttribute_none_iff _).mp passed _ raw member)
    · exact lifetime

/-- Each attribute in a snippet is read as the group it is, at every depth. So in an accepted snippet no attribute is
an inner one, and none holds the word `path` but as the name of a lifetime. -/
theorem accepted_attributes_guarded (allowed : AllowList) (snippet : String) :
    (∀ trees, Token.lex? snippet.toList = some trees → ∀ front inner back,
      HasAttribute trees front inner back → ReadAsGroup trees front inner back) ∧
    (check allowed snippet = .ok () → ∃ trees, Token.lex? snippet.toList = some trees ∧ Guarded trees) := by
  constructor
  · exact readAsGroup_of_lex snippet.toList
  · intro accepted
    obtain ⟨_, trees, lexed, clean⟩ := (check_eq_ok_iff allowed snippet).mp accepted
    exact ⟨trees, lexed, guarded_of_scan allowed trees clean (readAsGroup_of_lex snippet.toList trees lexed)⟩

-- The name of a lifetime is a word of the trees, so the attribute in this argument of a macro does hold the word.
def lifetimeAttribute : List Tree :=
  [.word ['a'] false, .group .round [.mark '\'' true, .word ['p', 'a', 't', 'h'] false]]

def lifetimeTrees : List Tree :=
  [.word ['m'] false, .mark '!' false, .group .round [.mark '#' false, .group .square lifetimeAttribute]]

theorem lifetimeTrees_lexed : Token.lex? "m!(#[a('path)])".toList = some lifetimeTrees := by
  have lexemes : Token.lexemes? "m!(#[a('path)])".toList =
      some [.word ['m'] false, .mark '!' false, .opens .round, .mark '#' false, .opens .square, .word ['a'] false,
        .opens .round, .mark '\'' true, .word ['p', 'a', 't', 'h'] false, .closes .round, .closes .square,
        .closes .round] := by
    decide +kernel
  rw [Token.lex?, lexemes]
  rfl

theorem lifetimeTrees_accepted : check (.ofNamespaces []) "m!(#[a('path)])" = .ok () := by
  refine (check_eq_ok_iff _ _).mpr ⟨by decide +kernel, _, lifetimeTrees_lexed, ?_⟩
  simp only [lifetimeTrees, lifetimeAttribute, flatten, Token.flattenOnto]
  decide +kernel

theorem lifetimeAttribute_held : ∃ front back, HasAttribute lifetimeTrees front lifetimeAttribute back := by
  have argument : Level lifetimeTrees _ ([] ++ .mark '#' false :: .group .square lifetimeAttribute :: []) _ :=
    @Level.inside _ .round [] [] [.word ['m'] false, .mark '!' false] _ [] .whole
  exact ⟨_, _, .intro false argument⟩

theorem lifetimeAttribute_word : HasWord lifetimeAttribute ['p', 'a', 't', 'h'] [.mark '\'' true] :=
  ⟨false, _, _, [], @Level.inside _ .round [] [] [.word ['a'] false] _ [] .whole⟩

theorem lifetime_in_attribute_passes :
    ¬ ∀ allowed snippet, check allowed snippet = .ok () → ∀ trees, Token.lex? snippet.toList = some trees →
      ∀ front inner back before, HasAttribute trees front inner back → ¬ HasWord inner ['p', 'a', 't', 'h'] before := by
  intro pathless
  obtain ⟨front, back, held⟩ := lifetimeAttribute_held
  exact pathless _ _ lifetimeTrees_accepted _ lifetimeTrees_lexed front _ back _ held lifetimeAttribute_word

theorem accepted_macro_argument_guarded :
    check (.ofNamespaces []) "m!(#[a('path)])" = .ok () ∧
      ∃ trees front inner back, Token.lex? "m!(#[a('path)])".toList = some trees ∧
        HasAttribute trees front inner back ∧ ReadAsGroup trees front inner back ∧ Guarded trees := by
  obtain ⟨read, guarded⟩ := accepted_attributes_guarded (.ofNamespaces []) "m!(#[a('path)])"
  obtain ⟨trees, lexed, safe⟩ := guarded lifetimeTrees_accepted
  cases lifetimeTrees_lexed.symm.trans lexed
  obtain ⟨front, back, held⟩ := lifetimeAttribute_held
  exact ⟨lifetimeTrees_accepted, _, front, _, back, lexed, held, read _ lexed front _ back held, safe⟩

end Attributes
end Policy
end SnippetRunner

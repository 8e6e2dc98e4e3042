import SnippetRunner.Token.Tree

/-!
Matching delimiters part by part. Lexemes that match on their own match the same way wherever they stand: the
groups open around them and the trees before them are left as they are. So trees are put together as texts are,
one after the other or in a group.
-/

namespace SnippetRunner.Token

section Around
variable (outer : List (Delimiter × List Tree)) (before : List Tree)

/-- A state of matching, with groups open around it and trees before it. -/
def around : List (Delimiter × List Tree) → List Tree → List (Delimiter × List Tree) × List Tree
  | [], done => (outer, done ++ before)
  | (delimiter, first) :: rest, done =>
      let below := around rest first
      ((delimiter, below.2) :: below.1, done)

theorem around_append (opened : List (Delimiter × List Tree)) (newer done : List Tree) :
    around outer before opened (newer ++ done) =
      ((around outer before opened done).1, newer ++ (around outer before opened done).2) := by
  cases opened with
  | nil => simp [around]
  | cons first rest => rfl

theorem around_cons (opened : List (Delimiter × List Tree)) (tree : Tree) (done : List Tree) :
    around outer before opened (tree :: done) =
      ((around outer before opened done).1, tree :: (around outer before opened done).2) :=
  around_append outer before opened [tree] done

theorem treesFrom_around (opened : List (Delimiter × List Tree)) (done : List Tree)
    (lexemes more : List Lexeme) (trees : List Tree) (matched : treesFrom opened done lexemes = some trees) :
    treesFrom (around outer before opened done).1 (around outer before opened done).2 (lexemes ++ more) =
      treesFrom outer (trees.reverse ++ before) more := by
  fun_induction treesFrom opened done lexemes with
  | case1 opened done finished =>
      cases opened with
      | nil =>
          cases matched
          simp [around]
      | cons => simp at finished
  | case2 => cases matched
  | case3 opened done delimiter rest ih => exact ih matched
  | case4 => cases matched
  | case5 done delimiter rest first here below same ih =>
      have closed := ih matched
      rw [around_cons] at closed
      simp only [around, List.cons_append, treesFrom, if_pos same]
      exact closed
  | case6 => cases matched
  | case7 opened done name raw rest ih =>
      have later := ih matched
      rwa [around_cons] at later
  | case8 opened done c joint rest ih =>
      have later := ih matched
      rwa [around_cons] at later
  | case9 opened done text rest ih =>
      have later := ih matched
      rwa [around_cons] at later
  | case10 opened done inner text rest ih =>
      have later := ih matched
      rwa [around_append] at later

end Around

section Parts
variable {lexemes more : List Lexeme} {trees others : List Tree}

/-- Matching goes on after a part that matches on its own. -/
theorem treesFrom_part (outer : List (Delimiter × List Tree)) (before : List Tree)
    (matched : trees? lexemes = some trees) (rest : List Lexeme) :
    treesFrom outer before (lexemes ++ rest) = treesFrom outer (trees.reverse ++ before) rest :=
  treesFrom_around outer before [] [] lexemes rest trees matched

theorem trees_append (matched : trees? lexemes = some trees) (matchedMore : trees? more = some others) :
    trees? (lexemes ++ more) = some (trees ++ others) := by
  have first := treesFrom_part [] [] matched (more ++ [])
  rw [treesFrom_part [] _ matchedMore []] at first
  rw [List.append_nil] at first
  rw [trees?, first]
  simp [treesFrom]

theorem trees_group (delimiter : Delimiter) (matched : trees? lexemes = some trees) :
    trees? (.opens delimiter :: lexemes ++ [.closes delimiter]) = some [.group delimiter trees] := by
  rw [trees?, List.cons_append, treesFrom, treesFrom_part _ [] matched]
  simp [treesFrom]

end Parts

section Spelling

mutual
/-- The lexemes a tree is written with. -/
def Tree.spelled : Tree → List Lexeme
  | .group delimiter inner => .opens delimiter :: spelledAll inner ++ [.closes delimiter]
  | .word name raw => [.word name raw]
  | .mark c joint => [.mark c joint]
  | .literal text => [.literal text]

def spelledAll : List Tree → List Lexeme
  | [] => []
  | first :: rest => first.spelled ++ spelledAll rest
end

mutual
theorem trees_spelled (tree : Tree) : trees? tree.spelled = some [tree] := by
  cases tree with
  | group delimiter inner =>
      rw [Tree.spelled]
      exact trees_group delimiter (trees_spelledAll inner)
  | word name raw => rfl
  | mark c joint => rfl
  | literal text => rfl

/-- Trees are read back from the lexemes they are written with. -/
theorem trees_spelledAll (trees : List Tree) : trees? (spelledAll trees) = some trees := by
  cases trees with
  | nil => rfl
  | cons first rest =>
      rw [spelledAll]
      exact trees_append (trees_spelled first) (trees_spelledAll rest)
end

theorem spelledAll_append (trees others : List Tree) :
    spelledAll (trees ++ others) = spelledAll trees ++ spelledAll others := by
  induction trees with
  | nil => rfl
  | cons first rest ih => rw [List.cons_append, spelledAll, spelledAll, ih, List.append_assoc]

/-- The lexemes a lexeme stands for: those of the attribute if it is documentation, otherwise itself. -/
def Lexeme.spelled : Lexeme → List Lexeme
  | .doc inner text => spelledAll (docTrees inner text).reverse
  | lexeme => [lexeme]

-- What was read before the rest, as it was written.
def spelledOpen : List (Delimiter × List Tree) → List Tree → List Lexeme
  | [], done => spelledAll done.reverse
  | (delimiter, before) :: opened, done => spelledOpen opened before ++ .opens delimiter :: spelledAll done.reverse

theorem spelledOpen_append (opened : List (Delimiter × List Tree)) (newer done : List Tree) :
    spelledOpen opened (newer ++ done) = spelledOpen opened done ++ spelledAll newer.reverse := by
  cases opened <;> simp [spelledOpen, spelledAll_append]

theorem spelledOpen_cons (opened : List (Delimiter × List Tree)) (tree : Tree) (done : List Tree) :
    spelledOpen opened (tree :: done) = spelledOpen opened done ++ tree.spelled := by
  have parts := spelledOpen_append opened [tree] done
  rwa [List.singleton_append, List.reverse_singleton, spelledAll, spelledAll, List.append_nil] at parts

theorem spelledAll_of_treesFrom (opened : List (Delimiter × List Tree)) (done trees : List Tree)
    (lexemes : List Lexeme) (matched : treesFrom opened done lexemes = some trees) :
    spelledAll trees = spelledOpen opened done ++ lexemes.flatMap Lexeme.spelled := by
  fun_induction treesFrom opened done lexemes with
  | case1 opened done finished =>
      cases matched
      rw [List.isEmpty_iff.mp finished, spelledOpen, List.flatMap_nil, List.append_nil]
  | case2 => cases matched
  | case3 opened done delimiter rest ih =>
      rw [ih matched, spelledOpen]
      simp [spelledAll, Lexeme.spelled]
  | case4 => cases matched
  | case5 done delimiter rest first before outer same ih =>
      cases beq_iff_eq.mp same
      rw [ih matched, spelledOpen_cons, spelledOpen, Tree.spelled]
      simp [Lexeme.spelled]
  | case6 => cases matched
  | case7 opened done name raw rest ih =>
      rw [ih matched, spelledOpen_cons]
      simp [Tree.spelled, Lexeme.spelled]
  | case8 opened done c joint rest ih =>
      rw [ih matched, spelledOpen_cons]
      simp [Tree.spelled, Lexeme.spelled]
  | case9 opened done text rest ih =>
      rw [ih matched, spelledOpen_cons]
      simp [Tree.spelled, Lexeme.spelled]
  | case10 opened done inner text rest ih =>
      rw [ih matched, spelledOpen_append]
      simp [Lexeme.spelled]

/-- Matching delimiters loses nothing: the trees are written with the lexemes they were read from. -/
theorem spelledAll_of_trees (lexemes : List Lexeme) (trees : List Tree) (matched : trees? lexemes = some trees) :
    spelledAll trees = lexemes.flatMap Lexeme.spelled :=
  spelledAll_of_treesFrom [] [] trees lexemes matched

end Spelling
end SnippetRunner.Token

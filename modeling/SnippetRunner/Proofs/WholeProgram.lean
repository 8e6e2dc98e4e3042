import SnippetRunner.Proofs.PolicyScan
import SnippetRunner.Proofs.UseLines

/-!
A snippet stays in its closure. The scaffold is lines that lex on their own, and so is a snippet that lexes, with
the line end that is put after it. So the trees of the whole program are those of the scaffold, with the trees
of the snippet in the braces of the closure and nowhere else.
-/

namespace SnippetRunner.Scaffold
open Token (Lexeme Tree lexemesFrom spelledAll trees?)

section Lines

/-- The lexemes of lines that are lexed one by one. -/
def lexLines : List String → Option (List Lexeme)
  | [] => some []
  | line :: rest =>
      match lexemesFrom [] line.toList, lexLines rest with
      | some found, some later => some (found ++ later)
      | _, _ => none

theorem lexLines_cons (line : String) (rest : List String) (found later : List Lexeme)
    (first : lexemesFrom [] line.toList = some found) (others : lexLines rest = some later) :
    lexLines (line :: rest) = some (found ++ later) := by
  rw [lexLines, first, others]

theorem lexLines_append (front back : List String) (found later : List Lexeme)
    (read : lexLines front = some found) (readBack : lexLines back = some later) :
    lexLines (front ++ back) = some (found ++ later) := by
  induction front generalizing found with
  | nil =>
      cases read
      exact readBack
  | cons line rest ih =>
      rw [lexLines] at read
      split at read
      · next first others here below =>
          cases read
          rw [List.cons_append, lexLines_cons line _ first _ here (ih others below), List.append_assoc]
      · cases read

theorem toList_ofLines (line : String) (rest : List String) :
    (ofLines (line :: rest)).toList = line.toList ++ '\n' :: (ofLines rest).toList := by
  simp [ofLines, String.join_cons]

/-- Lines that lex one by one lex together, whatever comes after them. -/
theorem lexemesFrom_ofLines (lines : List String) (found : List Lexeme) (read : lexLines lines = some found)
    (more : List Char) :
    lexemesFrom [] ((ofLines lines).toList ++ more) = (lexemesFrom [] more).map (found ++ ·) := by
  induction lines generalizing found with
  | nil =>
      cases read
      simp [ofLines]
  | cons line rest ih =>
      rw [lexLines] at read
      split at read
      · next first others here below =>
          cases read
          rw [toList_ofLines, List.append_assoc, List.cons_append]
          rw [← List.append_nil line.toList] at here
          rw [Token.lexemesFrom_lines _ [] _ .finished first here, ih others below, Option.map_map]
          congr 1
          funext later
          simp
      · cases read

-- Without a byte order mark, all of a text is lexed.
theorem lexemes_eq (text : List Char) (unmarked : text.head? ≠ some Token.byteOrderMark) :
    Token.lexemes? text = lexemesFrom [] text := by
  cases text with
  | nil => exact Token.lexemesFrom_nil.symm
  | cons c rest =>
      have plain : (c == Token.byteOrderMark) = false := by simpa using unmarked
      rw [Token.lexemes?, plain]
      rfl

theorem runtime_unmarked (lines : List String) (rest : List Char) :
    ((ofLines (runtimeLines ++ lines)).toList ++ rest).head? ≠ some Token.byteOrderMark := by
  rw [runtimeLines, List.cons_append, toList_ofLines]
  show some '#' ≠ some Token.byteOrderMark
  decide

theorem useLines_lex (namespaces : List String)
    (valid : ∀ text ∈ namespaces, Namespace.isValid text = true) :
    lexLines (namespaces.map fun text => "    use " ++ text ++ ";") =
      some (spelledAll (namespaces.flatMap Namespace.useTrees)) := by
  induction namespaces with
  | nil => rfl
  | cons text rest ih =>
      have line := Namespace.useLine_lexes text (valid text List.mem_cons_self)
      have later := ih fun other member => valid other (List.mem_cons_of_mem text member)
      rw [List.map_cons, lexLines_cons _ _ _ _ line later, List.flatMap_cons, Token.spelledAll_append]

end Lines

section Parts

def word (name : String) : Tree :=
  .word name.toList false

def separator : List Tree :=
  [.mark ':' true, .mark ':' false]

def listed (names : List String) : List Tree :=
  names.flatMap fun name => [word name, .mark ',' false]

-- The module of the snippet, up to the imports of namespaces.
def importTrees : List Tree :=
  [word "use", word "crate"] ++ separator ++ [word "render"] ++ separator ++
    [.group .curly (listed ["RenderDebug", "RenderDisplay", "RenderOpaque", "RenderOptionDebug",
      "RenderOptionDisplay", "RenderUnit"]), .mark ';' false]

def structTrees : List Tree :=
  [word "pub", word "struct", word "Snippet", .mark ';' false, word "impl", word "Snippet"]

def evalTrees : List Tree :=
  [word "pub", word "fn", word "eval", .group .round [], .mark '-' true, .mark '>' false, word "Option",
    .mark '<' false, word "String", .mark '>' false]

def letTrees : List Tree :=
  [word "let", word closureName, .mark '=' false, .mark '|' true, .mark '|' false]

-- What comes after the closure: its value is computed and shown.
def resultTrees : List Tree :=
  [.mark ';' false,
    .group .round (List.replicate 5 (.mark '&' true) ++ [.mark '&' false, word "crate"] ++ separator ++
      [word "render"] ++ separator ++ [word "Value", .group .round [word closureName, .group .round []]]),
    .mark '.' false, word "render", .group .round []]

/-- The trees of the part of the program that runs a snippet and shows its value. -/
def runtimeTrees : List Tree :=
  (Token.lex? (ofLines runtimeLines).toList).getD []

/-- The trees of a whole program, around the trees of the closure's body. -/
def programTrees (namespaces : List String) (body : List Tree) : List Tree :=
  runtimeTrees ++ [word "mod", word "snippet", .group .curly (importTrees ++
    namespaces.flatMap Namespace.useTrees ++ structTrees ++ [.group .curly (evalTrees ++
      [.group .curly (letTrees ++ .group .curly body :: resultTrees)])])]

theorem frontLines_lex : lexLines ["", "mod snippet \x7b", "    use crate::render::\x7b",
    "        RenderDebug, RenderDisplay, RenderOpaque, RenderOptionDebug, RenderOptionDisplay, RenderUnit,",
    "    \x7d;"] =
      some (spelledAll [word "mod", word "snippet"] ++ .opens .curly :: spelledAll importTrees) := by
  decide +kernel

theorem closureLines_lex : lexLines closureLines = some (spelledAll structTrees ++ .opens .curly ::
    spelledAll evalTrees ++ .opens .curly :: spelledAll letTrees ++ [.opens .curly]) := by
  decide +kernel

theorem after_lexes : lexemesFrom [] after.toList =
    some (.closes .curly :: spelledAll resultTrees ++ [.closes .curly, .closes .curly, .closes .curly]) := by
  have lines : lexLines ["            \x7d;",
      "            (&&&&&&crate::render::Value(" ++ closureName ++ "())).render()", "        \x7d", "    \x7d",
      "\x7d"] = some (.closes .curly :: spelledAll resultTrees ++
        [.closes .curly, .closes .curly, .closes .curly]) := by
    decide +kernel
  have read := lexemesFrom_ofLines _ _ lines []
  rwa [List.append_nil, Token.lexemesFrom_nil] at read

theorem runtime_lexes : ∃ found, lexLines runtimeLines = some found ∧ trees? found = some runtimeTrees := by
  have whole : ((lexLines runtimeLines).bind trees?).isSome = true := by decide +kernel
  obtain ⟨trees, read⟩ := Option.isSome_iff_exists.mp whole
  obtain ⟨found, lines, matched⟩ := Option.bind_eq_some_iff.mp read
  have lexed : Token.lex? (ofLines runtimeLines).toList = some trees := by
    have together := lexemesFrom_ofLines _ _ lines []
    rw [List.append_nil, Token.lexemesFrom_nil, Option.map_some, List.append_nil] at together
    have unmarked := runtime_unmarked [] []
    rw [List.append_nil, List.append_nil] at unmarked
    rw [Token.lex?, lexemes_eq _ unmarked, together]
    exact matched
  rw [runtimeTrees, lexed]
  exact ⟨found, lines, matched⟩

theorem programTrees_matched (namespaces : List String) (body : List Lexeme) (trees : List Tree)
    (matched : trees? body = some trees) (runtime : List Lexeme)
    (runtimeMatched : trees? runtime = some runtimeTrees) :
    trees? (runtime ++ (spelledAll [word "mod", word "snippet"] ++ .opens .curly :: spelledAll importTrees) ++
      spelledAll (namespaces.flatMap Namespace.useTrees) ++
      (spelledAll structTrees ++ .opens .curly :: spelledAll evalTrees ++ .opens .curly ::
        spelledAll letTrees ++ [.opens .curly]) ++ body ++
      (.closes .curly :: spelledAll resultTrees ++ [.closes .curly, .closes .curly, .closes .curly])) =
      some (programTrees namespaces trees) := by
  have closure := Token.trees_append (Token.trees_spelledAll letTrees)
    (Token.trees_append (Token.trees_group .curly matched) (Token.trees_spelledAll resultTrees))
  have eval := Token.trees_append (Token.trees_spelledAll evalTrees) (Token.trees_group .curly closure)
  have module := Token.trees_append (Token.trees_spelledAll
    (importTrees ++ namespaces.flatMap Namespace.useTrees ++ structTrees)) (Token.trees_group .curly eval)
  have program := Token.trees_append runtimeMatched (Token.trees_append
    (Token.trees_spelledAll [word "mod", word "snippet"]) (Token.trees_group .curly module))
  simp only [Token.spelledAll_append] at program
  simpa [programTrees] using program

end Parts

section Wrapping

-- A snippet with the line end that is put after it is one or more whole lines.
theorem lineEnd_cases (snippet : String) :
    ∃ text last, Token.LastLineEnd last ∧ snippet.toList = text ++ last ∧ ∀ more,
      snippet.toList ++ (if endsLine snippet then "" else "\n").toList ++ more = text ++ '\n' :: more := by
  cases ends : endsLine snippet with
  | false => exact ⟨snippet.toList, [], .finished, by simp, by simp⟩
  | true =>
      have last : snippet.toList.getLast? = some '\n' := by simpa [endsLine] using ends
      obtain ⟨text, equal⟩ := List.getLast?_eq_some_iff.mp last
      exact ⟨text, ['\n'], .feed, equal, by simp [equal]⟩

/-- The trees of a wrapped snippet are those of the scaffold around those of the snippet. -/
theorem wrap_lexes (namespaces : List String) (valid : ∀ text ∈ namespaces, Namespace.isValid text = true)
    (snippet : String) (unmarked : snippet.toList.head? ≠ some Token.byteOrderMark) (trees : List Tree)
    (lexed : Token.lex? snippet.toList = some trees) :
    Token.lex? (wrap snippet namespaces).source.toList = some (programTrees namespaces trees) := by
  obtain ⟨body, bodyRead, bodyMatched⟩ := Option.bind_eq_some_iff.mp lexed
  obtain ⟨runtime, runtimeRead, runtimeMatched⟩ := runtime_lexes
  obtain ⟨text, last, isLast, whole, ended⟩ := lineEnd_cases snippet
  rw [lexemes_eq _ unmarked, whole] at bodyRead
  have front := lexLines_append _ _ _ _ (lexLines_append _ _ _ _ runtimeRead
    (lexLines_append _ _ _ _ frontLines_lex (useLines_lex namespaces valid))) closureLines_lex
  have source : (wrap snippet namespaces).source.toList =
      (before namespaces).toList ++ (text ++ '\n' :: after.toList) := by
    rw [← ended after.toList]
    simp [wrap]
  have program := programTrees_matched namespaces body trees bodyMatched runtime runtimeMatched
  have programUnmarked := runtime_unmarked (useLines namespaces ++ closureLines) (text ++ '\n' :: after.toList)
  rw [← List.append_assoc runtimeLines] at programUnmarked
  rw [Token.lex?, source, before, lexemes_eq _ programUnmarked, useLines]
  rw [lexemesFrom_ofLines _ _ front, Token.lexemesFrom_lines text last _ isLast body bodyRead, after_lexes]
  simpa using program

/-- A snippet that the policy accepts does not get out of its closure: the program it becomes lexes, and its trees
are those of the scaffold, with the snippet's own trees as the body of the closure. -/
theorem accepted_within_closure (namespaces : List String)
    (valid : ∀ text ∈ namespaces, Namespace.isValid text = true) (allowed : Policy.AllowList) (snippet : String)
    (accepted : Policy.check allowed snippet = .ok ())
    (unmarked : snippet.toList.head? ≠ some Token.byteOrderMark) :
    ∃ trees, Token.lex? snippet.toList = some trees ∧
      Token.lex? (wrap snippet namespaces).source.toList = some (programTrees namespaces trees) := by
  obtain ⟨_, trees, lexed, _⟩ := (Policy.check_eq_ok_iff allowed snippet).mp accepted
  exact ⟨trees, lexed, wrap_lexes namespaces valid snippet unmarked trees lexed⟩

-- The comment ends with its line, so what comes after the snippet is read as code.
theorem comment_lexes : Token.lex? "1 // one".toList = some [.literal ['1']] := by
  have lexemes : Token.lexemes? "1 // one".toList = some [.literal ['1']] := by decide +kernel
  rw [Token.lex?, lexemes]
  rfl

theorem comment_accepted : Policy.check (.ofNamespaces ["std::fmt"]) "1 // one" = .ok () := by
  refine (Policy.check_eq_ok_iff _ _).mpr ⟨by decide +kernel, _, comment_lexes, ?_⟩
  simp only [Token.flatten, Token.flattenOnto]
  decide +kernel

theorem comment_within_closure :
    Policy.check (.ofNamespaces ["std::fmt"]) "1 // one" = .ok () ∧
      Token.lex? (wrap "1 // one" ["std::fmt"]).source.toList =
        some (programTrees ["std::fmt"] [.literal ['1']]) := by
  obtain ⟨trees, lexed, program⟩ := accepted_within_closure ["std::fmt"] (by decide +kernel)
    (.ofNamespaces ["std::fmt"]) "1 // one" comment_accepted (by decide)
  rw [comment_lexes] at lexed
  cases lexed
  exact ⟨comment_accepted, program⟩

end Wrapping
end SnippetRunner.Scaffold

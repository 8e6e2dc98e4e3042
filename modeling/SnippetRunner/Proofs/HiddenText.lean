import SnippetRunner.Proofs.FlatLevels
import SnippetRunner.Proofs.WholeProgram

/-!
What a verdict does not depend on. Flat tokens hold nothing of what literals and documentation say, so two snippets
with the same lexemes up to that get the same verdict. A comment at the end of a line is no lexeme at all, and a
string is one literal whatever it holds, so neither what they say nor the brackets in it can change an answer.
-/

namespace SnippetRunner

namespace Token

section Masks

/-- A lexeme without what a literal or a documentation comment says. -/
def Lexeme.masked : Lexeme → Lexeme
  | .literal _ => .literal []
  | .doc inner _ => .doc inner []
  | lexeme => lexeme

mutual
def Tree.masked : Tree → Tree
  | .group delimiter inner => .group delimiter (maskedAll inner)
  | .word name raw => .word name raw
  | .mark c joint => .mark c joint
  | .literal _ => .literal []

def maskedAll : List Tree → List Tree
  | [] => []
  | first :: rest => first.masked :: maskedAll rest
end

theorem maskedAll_eq_map (trees : List Tree) : maskedAll trees = trees.map Tree.masked := by
  induction trees with
  | nil => rw [maskedAll, List.map_nil]
  | cons first rest ih => rw [maskedAll, ih, List.map_cons]

theorem maskedAll_append (trees others : List Tree) :
    maskedAll (trees ++ others) = maskedAll trees ++ maskedAll others := by
  simp only [maskedAll_eq_map, List.map_append]

theorem maskedAll_reverse (trees : List Tree) : maskedAll trees.reverse = (maskedAll trees).reverse := by
  simp only [maskedAll_eq_map, List.map_reverse]

theorem maskedAll_docTrees (inner : Bool) (text : List Char) : maskedAll (docTrees inner text) = docTrees inner [] := by
  cases inner <;> simp [docTrees, maskedAll, Tree.masked]

/-- The groups that are open, with the trees before each masked. -/
def maskedOpen (opened : List (Delimiter × List Tree)) : List (Delimiter × List Tree) :=
  opened.map fun level => (level.1, maskedAll level.2)

/-- Delimiters match whatever literals say. -/
theorem treesFrom_masked (opened : List (Delimiter × List Tree)) (done : List Tree) (lexemes : List Lexeme) :
    treesFrom (maskedOpen opened) (maskedAll done) (lexemes.map Lexeme.masked) =
      (treesFrom opened done lexemes).map maskedAll := by
  fun_induction treesFrom opened done lexemes with
  | case1 opened done finished =>
      rw [List.isEmpty_iff.mp finished]
      simp [treesFrom, maskedOpen, maskedAll_reverse]
  | case2 opened done unfinished => simpa [treesFrom, maskedOpen] using unfinished
  | case3 opened done delimiter rest ih =>
      rw [← ih]
      simp [treesFrom, maskedOpen, maskedAll, Lexeme.masked]
  | case4 => rfl
  | case5 done delimiter rest first before outer same ih =>
      rw [← ih]
      simp [treesFrom, maskedOpen, maskedAll, Lexeme.masked, Tree.masked, maskedAll_reverse, same]
  | case6 done delimiter rest first before outer different =>
      simp [treesFrom, maskedOpen, Lexeme.masked, different]
  | case7 opened done name raw rest ih =>
      rw [← ih]
      simp [treesFrom, maskedAll, Lexeme.masked, Tree.masked]
  | case8 opened done c joint rest ih =>
      rw [← ih]
      simp [treesFrom, maskedAll, Lexeme.masked, Tree.masked]
  | case9 opened done text rest ih =>
      rw [← ih]
      simp [treesFrom, maskedAll, Lexeme.masked, Tree.masked]
  | case10 opened done inner text rest ih =>
      rw [← ih, maskedAll_append, maskedAll_docTrees]
      simp [treesFrom, Lexeme.masked]

theorem trees_masked (lexemes : List Lexeme) :
    trees? (lexemes.map Lexeme.masked) = (trees? lexemes).map maskedAll :=
  treesFrom_masked [] [] lexemes

theorem flattens_masked {trees : List Tree} {tokens : List Flat} (flattens : Flattens trees tokens) :
    Flattens (maskedAll trees) tokens := by
  induction flattens with
  | nil => exact .nil
  | group delimiter _ _ innerIh restIh => exact .group delimiter innerIh restIh
  | word name raw _ ih => exact .word name raw ih
  | literal text _ ih => exact .literal [] ih
  | separator joint _ ih => exact .separator joint ih
  | lifetime name raw _ ih => exact .lifetime name raw ih
  | @mark c joint rest tokens unpaired unnamed _ ih =>
      -- What follows the mark is a colon or a name after masking only where it was one before.
      refine .mark c joint ?_ ?_ ih
      · intro next more equal
        cases rest with
        | nil => cases equal
        | cons first later =>
            cases first <;> cases equal
            exact unpaired _ later rfl
      · intro name raw more equal
        cases rest with
        | nil => cases equal
        | cons first later =>
            cases first <;> cases equal
            exact unnamed _ _ later rfl

/-- Texts with the same lexemes, up to what literals and documentation say. -/
def Alike (text other : List Char) : Prop :=
  (lexemes? text).map (·.map Lexeme.masked) = (lexemes? other).map (·.map Lexeme.masked)

/-- Flat tokens say nothing of what literals and documentation say. -/
theorem flat_of_alike {text other : List Char} (alike : Alike text other) :
    (lex? text).map flatten = (lex? other).map flatten := by
  have masked (text : List Char) :
      (lex? text).map flatten = (((lexemes? text).map (·.map Lexeme.masked)).bind trees?).map flatten := by
    rw [lex?]
    cases lexemes? text with
    | none => rfl
    | some lexemes =>
        simp only [Option.map_some, Option.bind_some, trees_masked]
        cases trees? lexemes with
        | none => rfl
        | some trees =>
            simp only [Option.map_some]
            rw [flatten_eq (flattens_masked (flattens_flatten trees))]
  rw [masked text, masked other, alike]

end Masks

section Seams

theorem lexemesFrom_ended (text more : List Char) (ended : text.getLast? = some '\n') (found : List Lexeme)
    (read : lexemesFrom [] text = some found) :
    lexemesFrom [] (text ++ more) = (lexemesFrom [] more).map (found ++ ·) := by
  obtain ⟨front, rfl⟩ := List.getLast?_eq_some_iff.mp ended
  rw [List.append_assoc]
  exact lexemesFrom_lines front ['\n'] more .feed found read

/-- After a text that lexes and ends with a line, or is empty, lexing starts anew. -/
theorem lexemes_ended (front more : List Char) (whole : front = [] ∨ front.getLast? = some '\n')
    (unmarked : more.head? ≠ some byteOrderMark) (found : List Lexeme) (read : lexemes? front = some found) :
    lexemes? (front ++ more) = (lexemesFrom [] more).map (found ++ ·) := by
  cases front with
  | nil =>
      cases read
      rw [List.nil_append, Scaffold.lexemes_eq more unmarked]
      simp
  | cons c rest =>
      have ended : (c :: rest).getLast? = some '\n' := by simpa using whole
      simp only [List.cons_append, lexemes?] at read ⊢
      by_cases marked : (c == byteOrderMark) = true
      · rw [if_pos marked] at read ⊢
        refine lexemesFrom_ended rest more ?_ found read
        cases rest with
        | nil =>
            obtain rfl : c = '\n' := by simpa using ended
            revert marked
            decide
        | cons d later => rwa [List.getLast?_cons_cons] at ended
      · rw [if_neg marked] at read ⊢
        exact lexemesFrom_ended (c :: rest) more ended found read

end Seams

section Comments

theorem lineFrom_plain (count : Nat) (text : List Char) (plain : ∀ c ∈ text, c ≠ '\n' ∧ c ≠ '\r') :
    lineFrom count text = count + text.length := by
  induction text generalizing count with
  | nil => rfl
  | cons c rest ih =>
      obtain ⟨noFeed, noReturn⟩ := plain c List.mem_cons_self
      rw [lineFrom, ih (count + 1) fun d member => plain d (List.mem_cons_of_mem c member)]
      simp [noFeed, noReturn]
      omega

-- What makes documentation of a comment is its third character.
theorem startsWith_third (mark : String) (third : Char) (whole : mark.toList = ['/', '/', third])
    (body more : List Char) (absent : body.head? ≠ some third) (noFeed : third ≠ '\n') :
    startsWith mark ('/' :: '/' :: (body ++ '\n' :: more)) = false := by
  rw [startsWith, whole]
  cases body with
  | nil => simp [List.isPrefixOf, noFeed]
  | cons c rest =>
      have different : third ≠ c := fun same => absent (by rw [same]; rfl)
      simp [List.isPrefixOf, different]

theorem plainComment_line (body more : List Char) (plain : ∀ c ∈ body, c ≠ '\n' ∧ c ≠ '\r')
    (noSlash : body.head? ≠ some '/') (noBang : body.head? ≠ some '!') :
    plainComment? ('/' :: '/' :: (body ++ '\n' :: more)) = some (body.length + 2) := by
  have opened : startsWith "//" ('/' :: '/' :: (body ++ '\n' :: more)) = true := rfl
  have ends : lineFrom 0 ('/' :: '/' :: (body ++ '\n' :: more)) = body.length + 2 := by
    have upToFeed := lineFrom_lineEnd 0 ('/' :: '/' :: body) ('\n' :: more) (.feed more)
    rw [lineFrom_plain 0 ('/' :: '/' :: body) (by simpa using plain), Nat.zero_add] at upToFeed
    exact upToFeed
  simp [plainComment?, opened, startsWith_third "///" '/' rfl body more noSlash (by decide),
    startsWith_third "//!" '!' rfl body more noBang (by decide), ends]

/-- A line of comment that is no documentation is skipped up to its end. -/
theorem lexemesFrom_comment (body more : List Char) (plain : ∀ c ∈ body, c ≠ '\n' ∧ c ≠ '\r')
    (noSlash : body.head? ≠ some '/') (noBang : body.head? ≠ some '!') :
    lexemesFrom [] ('/' :: '/' :: (body ++ '\n' :: more)) = lexemesFrom [] ('\n' :: more) := by
  have noGap : isGap '/' = false := by decide
  have skipped : skipGap ('/' :: '/' :: (body ++ '\n' :: more)) = skipGap ('\n' :: more) := by
    rw [skipGap_cons, plainComment_line body more plain noSlash noBang]
    simp [noGap]
  rw [lexemesFrom_eq, skipped, ← lexemesFrom_eq]

end Comments

section Strings

/-- A string as it is written. -/
def quoted (body : List Char) : List Char :=
  '"' :: (body ++ ['"'])

theorem cookedFrom_plain (count : Nat) (body more : List Char) (plain : ∀ c ∈ body, c ∉ ['"', '\\', '\r']) :
    cookedFrom .text count (body ++ '"' :: more) = some (count + body.length + 1) := by
  induction body generalizing count with
  | nil =>
      rw [List.nil_append, cookedFrom_cons]
      rfl
  | cons c rest ih =>
      have here := plain c List.mem_cons_self
      simp only [List.mem_cons, List.not_mem_nil, or_false, not_or] at here
      have admitted : StringKind.text.admits c = true := rfl
      rw [List.cons_append, cookedFrom_cons, ih (count + 1) fun d member => plain d (List.mem_cons_of_mem c member)]
      simp [here, admitted]
      omega

-- A string goes on to the end of the word after it, its suffix.
theorem literal_quoted (body more : List Char) (plain : ∀ c ∈ body, c ∉ ['"', '\\', '\r']) :
    literal? (quoted body ++ more) = some ((quoted body).length + wordCount more) := by
  have opened : startsWith "\"" (quoted body ++ more) = true := rfl
  have closed : cookedFrom .text 1 ((quoted body ++ more).drop 1) = some (quoted body).length := by
    have inner : (quoted body ++ more).drop 1 = body ++ '"' :: more := by simp [quoted]
    rw [inner, cookedFrom_plain 1 body more plain, quoted]
    simp only [List.length_cons, List.length_append, List.length_nil]
    congr 1
    omega
  have scanned : literal? (quoted body ++ more) = string? "" .text (quoted body ++ more) := by
    rw [quoted, List.cons_append, literal_scannerAt, scannerAt, if_pos (.inl rfl)]
  rw [scanned, string?, String.empty_append, if_pos opened, cookedString?]
  simp only [String.length_empty, Nat.zero_add, closed, Option.map_some, suffixed, List.drop_left]

-- How many characters the literal takes that starts with this string.
def quotedCount (body more : List Char) : Nat :=
  (quoted body).length + wordCount more

theorem lexeme_quoted (body more : List Char) (plain : ∀ c ∈ body, c ∉ ['"', '\\', '\r']) :
    lexeme? (quoted body ++ more) =
      some (.literal ((quoted body ++ more).take (quotedCount body more)), quotedCount body more) := by
  have literal := literal_quoted body more plain
  rw [quoted, List.cons_append, lexeme_leaf '"' _ (by decide) (by decide), ← List.cons_append, ← quoted, leaf?,
    literal]
  rfl

/-- A string without escapes is one literal, whatever it holds. -/
theorem lexemesFrom_quoted (body more : List Char) (plain : ∀ c ∈ body, c ∉ ['"', '\\', '\r']) :
    lexemesFrom [] (quoted body ++ more) = (lexemesFrom [] (more.drop (wordCount more))).map
      (.literal ((quoted body ++ more).take (quotedCount body more)) :: ·) := by
  have first := lexeme_quoted body more plain
  have after : (body ++ ['"'] ++ more).drop (quotedCount body more - 1) = more.drop (wordCount more) := by
    have count : quotedCount body more - 1 = (body ++ ['"']).length + wordCount more := by
      simp only [quotedCount, quoted, List.length_cons]
      omega
    rw [count, ← List.drop_drop, List.drop_left]
  have here : skipGap (quoted body ++ more) = '"' :: (body ++ ['"'] ++ more) :=
    skipGap_here '"' _ (by decide) (by decide)
  rw [lexemesFrom_eq, here]
  rw [quoted, List.cons_append] at first ⊢
  simp only [first, after]
  exact lexemesFrom_done _ _

end Strings

section Hiding
variable {front : List Char} {found : List Lexeme}

/-- Behind whole lines that lex, a line of comment changes no lexeme. -/
theorem alike_comment (read : lexemes? front = some found) (whole : front = [] ∨ front.getLast? = some '\n')
    (body more : List Char) (plain : ∀ c ∈ body, c ≠ '\n' ∧ c ≠ '\r') (noSlash : body.head? ≠ some '/')
    (noBang : body.head? ≠ some '!') :
    Alike (front ++ '/' :: '/' :: (body ++ '\n' :: more)) (front ++ '\n' :: more) := by
  have unmarked (c : Char) (rest : List Char) (plain : c ≠ byteOrderMark) :
      (c :: rest).head? ≠ some byteOrderMark := by
    simpa using plain
  rw [Alike, lexemes_ended front _ whole (unmarked '/' _ (by decide)) found read,
    lexemes_ended front _ whole (unmarked '\n' _ (by decide)) found read,
    lexemesFrom_comment body more plain noSlash noBang]

/-- Behind whole lines that lex, a string is as good as any other. -/
theorem alike_quoted (read : lexemes? front = some found) (whole : front = [] ∨ front.getLast? = some '\n')
    (body other more : List Char) (plain : ∀ c ∈ body, c ∉ ['"', '\\', '\r'])
    (plainOther : ∀ c ∈ other, c ∉ ['"', '\\', '\r']) :
    Alike (front ++ (quoted body ++ more)) (front ++ (quoted other ++ more)) := by
  have opened (body : List Char) : (quoted body ++ more).head? ≠ some byteOrderMark := by
    show some '"' ≠ some byteOrderMark
    decide
  rw [Alike, lexemes_ended front _ whole (opened body) found read,
    lexemes_ended front _ whole (opened other) found read, lexemesFrom_quoted body more plain,
    lexemesFrom_quoted other more plainOther]
  cases lexemesFrom [] (more.drop (wordCount more)) with
  | none => rfl
  | some later => simp [Lexeme.masked]

end Hiding
end Token

namespace Policy
open Token (Alike lexemesFrom)

section Verdicts

theorem check_alike (allowed : AllowList) (snippet other : String) (short : snippet.utf8ByteSize ≤ maxSnippetBytes)
    (shortOther : other.utf8ByteSize ≤ maxSnippetBytes) (alike : Alike snippet.toList other.toList) :
    check allowed snippet = check allowed other := by
  have flat := Token.flat_of_alike alike
  unfold check
  rw [if_neg (Nat.not_lt.mpr short), if_neg (Nat.not_lt.mpr shortOther)]
  cases lexed : Token.lex? snippet.toList with
  | none =>
      rw [lexed] at flat
      rw [Option.map_eq_none_iff.mp flat.symm]
  | some trees =>
      rw [lexed] at flat
      obtain ⟨trees', lexed', same⟩ := Option.map_eq_some_iff.mp flat.symm
      simp only [lexed', same]

/-- What a comment and what a string holds makes no difference. After whole lines that lex, a line of comment is as good
as none, and a string is as good as any other: the answer is the same whatever comes after them. -/
theorem verdict_ignores_hidden_text (allowed : AllowList) (front back comment text other : String)
    (lexed : (Token.lex? front.toList).isSome = true) (whole : front = "" ∨ Scaffold.endsLine front = true)
    (oneLine : ∀ hidden ∈ [comment, text, other], '\n' ∉ hidden.toList ∧ '\r' ∉ hidden.toList)
    (undocumented : comment.toList.head? ≠ some '/' ∧ comment.toList.head? ≠ some '!')
    (unquoted : ∀ hidden ∈ [text, other], '"' ∉ hidden.toList ∧ '\\' ∉ hidden.toList)
    (short : ∀ snippet ∈ [front ++ "//" ++ comment ++ "\n" ++ back, front ++ "\n" ++ back,
      front ++ "\"" ++ text ++ "\"" ++ back, front ++ "\"" ++ other ++ "\"" ++ back],
      snippet.utf8ByteSize ≤ maxSnippetBytes) :
    check allowed (front ++ "//" ++ comment ++ "\n" ++ back) = check allowed (front ++ "\n" ++ back) ∧
      check allowed (front ++ "\"" ++ text ++ "\"" ++ back) =
        check allowed (front ++ "\"" ++ other ++ "\"" ++ back) := by
  obtain ⟨_, trees⟩ := Option.isSome_iff_exists.mp lexed
  obtain ⟨found, read, _⟩ := Option.bind_eq_some_iff.mp trees
  have lines : front.toList = [] ∨ front.toList.getLast? = some '\n' := by
    rcases whole with rfl | ends
    · exact .inl rfl
    · exact .inr (by simpa [Scaffold.endsLine] using ends)
  constructor
  · have noEnd : ∀ c ∈ comment.toList, c ≠ '\n' ∧ c ≠ '\r' := by
      obtain ⟨noFeed, noReturn⟩ := oneLine comment (by simp)
      intro c member
      exact ⟨fun same => noFeed (same ▸ member), fun same => noReturn (same ▸ member)⟩
    apply check_alike allowed _ _ (short _ (by simp)) (short _ (by simp))
    simpa [String.toList_append] using
      Token.alike_comment read lines comment.toList back.toList noEnd undocumented.1 undocumented.2
  · have plain (hidden : String) (listed : hidden ∈ [text, other]) :
        ∀ c ∈ hidden.toList, c ∉ ['"', '\\', '\r'] := by
      obtain ⟨_, noReturn⟩ := oneLine hidden (List.mem_cons_of_mem comment listed)
      obtain ⟨noQuote, noBackslash⟩ := unquoted hidden listed
      intro c member special
      simp only [List.mem_cons, List.not_mem_nil, or_false] at special
      rcases special with rfl | rfl | rfl
      · exact noQuote member
      · exact noBackslash member
      · exact noReturn member
    apply check_alike allowed _ _ (short _ (by simp)) (short _ (by simp))
    simpa [String.toList_append, Token.quoted] using Token.alike_quoted read lines text.toList other.toList
      back.toList (plain text (by simp)) (plain other (by simp))

theorem verdict_ignores_brackets :
    (Token.lex? "let x = 1;\n".toList).isSome = true ∧
      check (.ofNamespaces ["std::fmt"]) ("let x = 1;\n" ++ "//" ++ " unsafe \x7b \"" ++ "\n" ++ ".len()") =
        check (.ofNamespaces ["std::fmt"]) ("let x = 1;\n" ++ "\n" ++ ".len()") ∧
      check (.ofNamespaces ["std::fmt"]) ("let x = 1;\n" ++ "\"" ++ "// std::fs (" ++ "\"" ++ ".len()") =
        check (.ofNamespaces ["std::fmt"]) ("let x = 1;\n" ++ "\"" ++ "" ++ "\"" ++ ".len()") := by
  have lexed : (Token.lex? "let x = 1;\n".toList).isSome = true := by decide +kernel
  exact ⟨lexed, verdict_ignores_hidden_text (.ofNamespaces ["std::fmt"]) "let x = 1;\n" ".len()"
    " unsafe \x7b \"" "// std::fs (" "" lexed (.inr (by decide)) (by decide) (by decide) (by decide)
    (by decide +kernel)⟩

end Verdicts
end Policy
end SnippetRunner

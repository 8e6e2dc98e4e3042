import SnippetRunner.Proofs.LexedLines
import SnippetRunner.Proofs.NamespaceSegments
import SnippetRunner.Proofs.TreeParts
import SnippetRunner.Scaffold

/-!
The lines that import namespaces. A valid namespace is ASCII identifiers and separators, so its line lexes to
the words and marks it is written with, whatever the namespace is called.
-/

namespace SnippetRunner

namespace Token
open Text.Ident (isStart isContinue)

section Words

def asciiStart (c : Char) : Bool :=
  Text.Ident.isLetter c || c == '_'

/-- A name that starts with an ASCII character. -/
structure IsName (name : List Char) : Prop where
  starts : name.head?.any asciiStart = true
  goesOn : ∀ c ∈ name, isContinue c = true

theorem isStart_of_asciiStart (c : Char) (starts : asciiStart c = true) : isStart c = true := by
  rw [asciiStart] at starts
  rw [isStart, starts, Bool.true_or]

-- What holds some other character is no start of a name that ends before another one.
theorem startsWith_name (front : String) (name : List Char) (isName : IsName name) (stop : Char)
    (rest : List Char) (absent : stop ∉ front.toList) (other : front.toList.any (!isContinue ·) = true) :
    startsWith front (name ++ stop :: rest) = false := by
  unfold startsWith
  rw [isPrefixOf_stop _ _ _ _ absent]
  obtain ⟨c, member, noName⟩ := List.any_eq_true.mp other
  cases starts : front.toList.isPrefixOf name with
  | false => rfl
  | true =>
      have inside := (List.isPrefixOf_iff_prefix.mp starts).subset member
      rw [isName.goesOn c inside] at noName
      cases noName

-- The characters that make a literal or a raw name of a name before them.
def fences : List Char := ['"', '\'', '#']

theorem wordCount_name (name : List Char) (isName : IsName name) (stop : Char) (rest : List Char)
    (ends : isContinue stop = false) : wordCount (name ++ stop :: rest) = name.length := by
  cases name with
  | nil => cases isName.starts
  | cons c tail =>
      have first : isStart c = true := isStart_of_asciiStart c (by simpa using isName.starts)
      have kept : ∀ d ∈ tail, isContinue d = true := fun d member =>
        isName.goesOn d (List.mem_cons_of_mem c member)
      rw [List.cons_append, wordCount, if_pos first, List.takeWhile_append_of_pos kept,
        List.takeWhile_cons_of_neg (by simp [ends]), List.append_nil, List.length_cons, Nat.add_comm]

def endsName (c : Char) : Bool :=
  !isContinue c && !fences.contains c

theorem word_name (name : List Char) (isName : IsName name) (stop : Char) (rest : List Char)
    (ends : endsName stop = true) :
    word? (name ++ stop :: rest) = some (.word name false, name.length) := by
  simp only [endsName, Bool.and_eq_true, Bool.not_eq_true'] at ends
  obtain ⟨noName, noFence⟩ := ends
  have absent (front : String) (known : front.toList.all (fun c => isContinue c || fences.contains c) = true) :
      stop ∉ front.toList := by
    intro member
    have either := List.all_eq_true.mp known stop member
    rw [noName, noFence] at either
    cases either
  have cooked : startsWith "r#" (name ++ stop :: rest) = false :=
    startsWith_name "r#" name isName stop rest (absent "r#" (by decide)) (by decide)
  have unquoted : quotedFronts.any (startsWith · (name ++ stop :: rest)) = false := by
    rw [List.any_eq_false]
    intro front member
    have known : quotedFronts.all (fun front => front.toList.all (fun c => isContinue c || fences.contains c) &&
        front.toList.any (!isContinue ·)) = true := by
      decide
    have ⟨plain, other⟩ := Bool.and_eq_true_iff.mp (List.all_eq_true.mp known front member)
    rw [startsWith_name front name isName stop rest (absent front plain) other]
    exact Bool.false_ne_true
  have long : (name.length == 0) = false := by
    cases name with
    | nil => cases isName.starts
    | cons => rfl
  simp [word?, unquoted, identifier?, cooked, wordCount_name name isName stop rest noName, long]

theorem lexeme_leaf (c : Char) (rest : List Char) (noSlash : c ≠ '/')
    (noDelimiter : opening? c = none ∧ closing? c = none) : lexeme? (c :: rest) = leaf? (c :: rest) := by
  have plain : opensComment (c :: rest) = false := by
    simp [opensComment, startsWith, List.isPrefixOf, noSlash.symm]
  rw [lexeme_plain c rest plain, noDelimiter.1, noDelimiter.2]

theorem start_leaf (c : Char) (starts : asciiStart c = true) :
    c ≠ '/' ∧ c ∉ marks ∧ opening? c = none ∧ closing? c = none := by
  have different (d : Char) (listed : d ∈ marks ++ "()[]\x7b\x7d".toList) : c ≠ d := by
    rintro rfl
    have other : asciiStart c = false := by
      apply each_of_all (marks ++ "()[]\x7b\x7d".toList) _ c listed
      decide
    rw [other] at starts
    cases starts
  refine ⟨different '/' (by decide), ?_, ?_, ?_⟩
  · intro isMark
    exact different c (List.mem_append_left _ isMark) rfl
  · simp [opening?, different '(' (by decide), different '[' (by decide), different '\x7b' (by decide)]
  · simp [closing?, different ')' (by decide), different ']' (by decide), different '\x7d' (by decide)]

/-- A name before a character that ends it is a word. -/
theorem lexeme_name (name : List Char) (isName : IsName name) (stop : Char) (rest : List Char)
    (ends : endsName stop = true) :
    lexeme? (name ++ stop :: rest) = some (.word name false, name.length) := by
  have word := word_name name isName stop rest ends
  have literal := literal_none_of_word _ _ _ word
  cases name with
  | nil => cases isName.starts
  | cons c tail =>
      have ⟨noSlash, noMark, noDelimiter⟩ := start_leaf c (by simpa using isName.starts)
      have mark : mark? (c :: (tail ++ stop :: rest)) = none := by simp [mark?, startsMark, noMark]
      rw [List.cons_append] at word literal ⊢
      rw [lexeme_leaf c _ noSlash noDelimiter, leaf?, literal, mark, word]

theorem lexeme_mark (c : Char) (rest : List Char) (isMark : c ∈ marks) (plain : c ≠ '/' ∧ c ≠ '\'') :
    lexeme? (c :: rest) = some (.mark c (startsMark rest), 1) := by
  have noDelimiter : opening? c = none ∧ closing? c = none := by
    apply each_of_all marks _ c isMark
    decide
  have mark : mark? (c :: rest) = some (.mark c (startsMark rest), 1) := by
    simp [mark?, startsMark, isMark, plain]
  rw [lexeme_leaf c rest plain.1 noDelimiter, leaf?, literal_none_of_mark _ _ _ mark, mark]

end Words

section Steps

theorem start_solid (c : Char) (starts : asciiStart c = true) : isGap c = false := by
  have bounds : 0x41 ≤ c.toNat ∧ c.toNat ≤ 0x7a := by
    simp only [asciiStart, Text.Ident.isLetter, Bool.or_eq_true, Bool.and_eq_true, decide_eq_true_eq,
      beq_iff_eq] at starts
    rcases starts with (⟨low, high⟩ | ⟨low, high⟩) | rfl
    · have above : 0x61 ≤ c.toNat := low
      exact ⟨by omega, high⟩
    · have below : c.toNat ≤ 0x5a := high
      exact ⟨low, by omega⟩
    · decide
  simp only [isGap, Text.isBlank, Bool.or_eq_false_iff, Bool.and_eq_false_iff, beq_eq_false_iff_ne,
    decide_eq_false_iff_not, ne_eq]
  omega

-- A lexeme that is no white space and no comment is the first one.
theorem skipGap_here (c : Char) (rest : List Char) (solid : isGap c = false) (noSlash : c ≠ '/') :
    skipGap (c :: rest) = c :: rest := by
  simp [skipGap_cons, solid, noSlash]

theorem lexemesFrom_blank (c : Char) (rest : List Char) (blank : isGap c = true) :
    lexemesFrom [] (c :: rest) = lexemesFrom [] rest := by
  rw [lexemesFrom_eq, skipGap_cons, if_pos blank, ← lexemesFrom_eq]

theorem lexemesFrom_name (name : List Char) (isName : IsName name) (stop : Char) (rest : List Char)
    (ends : endsName stop = true) :
    lexemesFrom [] (name ++ stop :: rest) =
      (lexemesFrom [] (stop :: rest)).map (.word name false :: ·) := by
  have read := lexeme_name name isName stop rest ends
  cases name with
  | nil => cases isName.starts
  | cons c tail =>
      have first : asciiStart c = true := by simpa using isName.starts
      rw [List.cons_append] at read ⊢
      rw [lexemesFrom_eq, skipGap_here c _ (start_solid c first) (start_leaf c first).1]
      simp only [read, List.length_cons, Nat.add_sub_cancel, List.drop_left]
      exact lexemesFrom_done _ _

theorem lexemesFrom_mark (c : Char) (rest : List Char) (isMark : c ∈ marks) (plain : c ≠ '/' ∧ c ≠ '\'') :
    lexemesFrom [] (c :: rest) = (lexemesFrom [] rest).map (.mark c (startsMark rest) :: ·) := by
  have solid : isGap c = false := by
    apply each_of_all marks _ c isMark
    decide
  rw [lexemesFrom_eq, skipGap_here c rest solid plain.1]
  simp only [lexeme_mark c rest isMark plain, Nat.sub_self, List.drop_zero]
  exact lexemesFrom_done _ _

end Steps
end Token

namespace Namespace
open Token (lexemesFrom spelledAll startsMark)

section Paths

def globText (glob : Bool) : List Char :=
  if glob then [':', ':', '*'] else []

/-- The trees of a path, with a glob at its end or without. -/
def pathTrees (glob : Bool) : List (List Char) → List Token.Tree
  | [] => []
  | [segment] =>
      .word segment false :: if glob then [.mark ':' true, .mark ':' true, .mark '*' true] else []
  | segment :: rest => .word segment false :: .mark ':' true :: .mark ':' false :: pathTrees glob rest

theorem segment_isName (segment : List Char) (valid : isSegment segment = true) : Token.IsName segment := by
  cases segment with
  | nil => cases valid
  | cons c rest =>
      refine ⟨?_, ?_⟩
      · simp only [isSegment, Bool.and_eq_true, Bool.or_eq_true, beq_iff_eq] at valid
        simp only [List.head?_cons, Option.any_some, Token.asciiStart, Bool.or_eq_true, beq_iff_eq]
        rcases valid.1 with low | letter
        · exact .inr low
        · exact .inl letter
      · intro d member
        simp only [Text.Ident.isContinue, Text.Ident.isStart, Bool.or_eq_true, beq_iff_eq]
        rcases segment_characters (c :: rest) valid d member with low | letter | digit
        · exact .inl (.inl (.inl (.inr low)))
        · exact .inl (.inl (.inl (.inl letter)))
        · exact .inl (.inr digit)

theorem separator_lexes (rest : List Char) :
    lexemesFrom [] (':' :: ':' :: rest) =
      (lexemesFrom [] rest).map fun later => .mark ':' true :: .mark ':' (startsMark rest) :: later := by
  have joint : startsMark (':' :: rest) = true := by
    have isMark : ':' ∈ Token.marks := by decide
    simp [startsMark, isMark]
  rw [Token.lexemesFrom_mark ':' _ (by decide) (by decide),
    Token.lexemesFrom_mark ':' _ (by decide) (by decide), Option.map_map, joint]
  rfl

theorem startsMark_name (name : List Char) (isName : Token.IsName name) (rest : List Char) :
    startsMark (name ++ rest) = false := by
  cases name with
  | nil => cases isName.starts
  | cons c tail =>
      have noMark := (Token.start_leaf c (by simpa using isName.starts)).2.1
      simp [startsMark, noMark]

theorem globEnd_lexes (glob : Bool) (segment : List Char) (isName : Token.IsName segment) :
    lexemesFrom [] (segment ++ globText glob ++ [';']) =
      some (spelledAll (pathTrees glob [segment]) ++ [.mark ';' false]) := by
  have ends : lexemesFrom [] [';'] = some [.mark ';' false] := by
    rw [Token.lexemesFrom_mark ';' [] (by decide) (by decide), Token.lexemesFrom_nil]
    rfl
  cases glob with
  | false =>
      rw [globText, if_neg Bool.false_ne_true, List.append_nil,
        Token.lexemesFrom_name segment isName ';' [] (by decide), ends]
      rfl
  | true =>
      have star : lexemesFrom [] ['*', ';'] = some [.mark '*' true, .mark ';' false] := by
        rw [Token.lexemesFrom_mark '*' [';'] (by decide) (by decide), ends]
        rfl
      rw [globText, if_pos rfl, List.append_assoc]
      show lexemesFrom [] (segment ++ ':' :: [':', '*', ';']) = _
      rw [Token.lexemesFrom_name segment isName ':' _ (by decide), separator_lexes, star]
      rfl

theorem path_lexes (glob : Bool) (segment : List Char) (rest : List (List Char))
    (valid : ∀ part ∈ segment :: rest, isSegment part = true) :
    lexemesFrom [] (Policy.pathText (segment :: rest) ++ globText glob ++ [';']) =
      some (spelledAll (pathTrees glob (segment :: rest)) ++ [.mark ';' false]) := by
  have isName := segment_isName segment (valid segment List.mem_cons_self)
  induction rest generalizing segment with
  | nil => exact globEnd_lexes glob segment isName
  | cons next later ih =>
      have nextValid : ∀ part ∈ next :: later, isSegment part = true := fun part member =>
        valid part (List.mem_cons_of_mem segment member)
      have nextName := segment_isName next (nextValid next List.mem_cons_self)
      have read := ih next nextValid nextName
      have ready : startsMark (Policy.pathText (next :: later) ++ globText glob ++ [';']) = false := by
        cases later <;>
          simp only [Policy.pathText, Text.joinWith, List.append_assoc] <;>
          exact startsMark_name next nextName _
      have path : Policy.pathText (segment :: next :: later) ++ globText glob ++ [';'] =
          segment ++ ':' :: ':' :: (Policy.pathText (next :: later) ++ globText glob ++ [';']) := by
        simp [Policy.pathText, Text.joinWith]
      rw [path, Token.lexemesFrom_name segment isName ':' _ (by decide), separator_lexes, ready, read]
      rfl

def hasGlob (text : String) : Bool :=
  [':', ':', '*'].isSuffixOf text.toList

theorem withoutGlob_append (text : String) :
    Policy.withoutGlob text ++ globText (hasGlob text) = text.toList := by
  unfold Policy.withoutGlob globText Text.dropBack?
  cases glob : hasGlob text with
  | false =>
      rw [hasGlob] at glob
      simp [glob]
  | true =>
      rw [hasGlob] at glob
      obtain ⟨front, equal⟩ := List.isSuffixOf_iff_suffix.mp glob
      rw [if_pos glob, ← equal]
      simp

/-- The trees of the line that imports a namespace. -/
def useTrees (text : String) : List Token.Tree :=
  .word "use".toList false :: pathTrees (hasGlob text) (segmentsOf text) ++ [.mark ';' false]

/-- The line that imports a valid namespace lexes to the segments of the namespace and what stands between. -/
theorem useLine_lexes (text : String) (valid : isValid text = true) :
    lexemesFrom [] ("    use " ++ text ++ ";").toList = some (spelledAll (useTrees text)) := by
  cases segments : segmentsOf text with
  | nil => exact absurd segments (segmentsOf_ne_nil text)
  | cons segment rest =>
      have parts := (isValid_iff text).mp valid
      rw [segments] at parts
      have path := path_lexes (hasGlob text) segment rest parts
      rw [← segments, pathText_segmentsOf, withoutGlob_append] at path
      have line : ("    use " ++ text ++ ";").toList =
          ' ' :: ' ' :: ' ' :: ' ' :: ("use".toList ++ ' ' :: (text.toList ++ [';'])) := by
        simp [String.toList_append]
      have blank (rest : List Char) := Token.lexemesFrom_blank ' ' rest (by decide)
      rw [line, blank, blank, blank, blank,
        Token.lexemesFrom_name "use".toList ⟨by decide, Token.each_of_all _ (by decide)⟩ ' ' _ (by decide),
        blank, path, useTrees, Token.spelledAll_append]
      rfl

end Paths
end Namespace
end SnippetRunner

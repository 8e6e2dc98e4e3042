import SnippetRunner.Proofs.FlatLevels
import SnippetRunner.Proofs.WholeProgram

/-!
The grammar of namespaces. What is accepted is a path of ASCII identifiers, with a glob at its end or without; a
text is such a path in one way only. The line that imports a namespace lexes to the tokens of its path, so a
namespace that is accepted brings nothing else into a program.
-/

namespace SnippetRunner

namespace Text

theorem mem_joinWith (between : List Char) (pieces : List (List Char)) (c : Char)
    (member : c ∈ joinWith between pieces) : c ∈ between ∨ ∃ piece ∈ pieces, c ∈ piece := by
  induction pieces with
  | nil => cases member
  | cons piece rest ih =>
      cases rest with
      | nil => exact .inr ⟨piece, List.mem_cons_self, member⟩
      | cons next rest =>
          rw [joinWith_cons between piece _ (by simp), List.mem_append, List.mem_append] at member
          rcases member with (here | here) | later
          · exact .inr ⟨piece, List.mem_cons_self, here⟩
          · exact .inl here
          · rcases ih later with inBetween | ⟨other, listed, inside⟩
            · exact .inl inBetween
            · exact .inr ⟨other, List.mem_cons_of_mem piece listed, inside⟩

end Text

namespace Namespace
open Token (Flat Tree Flattens lexemesFrom spelledAll)

section Grammar

/-- An ASCII identifier: a letter or a low line, then letters, digits and low lines. -/
inductive Segment : List Char → Prop where
  | mk (first : Char) (rest : List Char) (starts : first = '_' ∨ isLetter first = true)
      (goesOn : ∀ c ∈ rest, c = '_' ∨ isLetter c = true ∨ isDigit c = true) : Segment (first :: rest)

/-- The text is a path of these segments, with a separator between each two and a glob at its end or none. -/
structure IsPath (segments : List (List Char)) (glob : Bool) (text : List Char) : Prop where
  nonempty : segments ≠ []
  each : ∀ segment ∈ segments, Segment segment
  written : text = Text.joinWith [':', ':'] segments ++ globText glob

theorem isSegment_iff (segment : List Char) : isSegment segment = true ↔ Segment segment := by
  cases segment with
  | nil =>
      constructor
      · rintro ⟨⟩
      · rintro ⟨⟩
  | cons first rest =>
      simp only [isSegment, Bool.and_eq_true, Bool.or_eq_true, beq_iff_eq, List.all_eq_true, or_assoc]
      constructor
      · rintro ⟨starts, goesOn⟩
        exact .mk first rest starts goesOn
      · rintro ⟨_, _, starts, goesOn⟩
        exact ⟨starts, goesOn⟩

theorem star_not_mem (segments : List (List Char)) (each : ∀ segment ∈ segments, Segment segment) :
    '*' ∉ Text.joinWith [':', ':'] segments := by
  intro member
  rcases Text.mem_joinWith _ segments '*' member with between | ⟨segment, listed, inside⟩
  · revert between
    decide
  · have star := segment_characters segment ((isSegment_iff segment).mpr (each segment listed)) '*' inside
    revert star
    decide

theorem hasGlob_of_path {segments : List (List Char)} {glob : Bool} {text : String}
    (isPath : IsPath segments glob text.toList) : hasGlob text = glob := by
  rw [hasGlob, isPath.written]
  cases glob with
  | true => exact List.isSuffixOf_iff_suffix.mpr ⟨_, rfl⟩
  | false =>
      rw [globText, if_neg Bool.false_ne_true, List.append_nil, Bool.eq_false_iff]
      intro ends
      have star := (List.isSuffixOf_iff_suffix.mp ends).subset (a := '*') (by simp)
      exact star_not_mem segments isPath.each star

/-- The segments of a path are found as they were written. -/
theorem segmentsOf_path {segments : List (List Char)} {glob : Bool} {text : String}
    (isPath : IsPath segments glob text.toList) : segmentsOf text = segments := by
  have parts := withoutGlob_append text
  rw [hasGlob_of_path isPath, isPath.written] at parts
  rw [segmentsOf, List.append_cancel_right parts]
  refine Text.cut_joinWith segments isPath.nonempty fun segment listed => ?_
  exact segment_plain segment ((isSegment_iff segment).mpr (isPath.each segment listed))

theorem isValid_iff_isPath (text : String) :
    isValid text = true ↔ ∃ segments glob, IsPath segments glob text.toList := by
  constructor
  · intro valid
    refine ⟨segmentsOf text, hasGlob text, segmentsOf_ne_nil text, ?_, ?_⟩
    · intro segment listed
      exact (isSegment_iff segment).mp ((isValid_iff text).mp valid segment listed)
    · rw [← withoutGlob_append text, ← pathText_segmentsOf, Policy.pathText]
  · rintro ⟨segments, glob, isPath⟩
    rw [isValid_iff, segmentsOf_path isPath]
    intro segment listed
    exact (isSegment_iff segment).mpr (isPath.each segment listed)

end Grammar

section Lines

/-- The flat tokens of a path: its segments, a separator between each two, and those of the glob. -/
def pathFlats (segments : List (List Char)) (glob : Bool) : List Flat :=
  (segments.map fun segment => .word segment false).intersperse .separator ++
    if glob then [.separator, .mark '*'] else []

theorem flattens_path (segments : List (List Char)) (nonempty : segments ≠ []) (glob : Bool) {rest : List Tree}
    {tokens : List Flat} (later : Flattens rest tokens) :
    Flattens (pathTrees glob segments ++ rest) (pathFlats segments glob ++ tokens) := by
  induction segments with
  | nil => exact absurd rfl nonempty
  | cons segment others ih =>
      cases others with
      | nil =>
          cases glob with
          | false => exact .word segment false later
          | true => exact .word segment false (.separator true (.mark '*' true (by simp) (by simp) later))
      | cons next others =>
          have tail := ih (by simp)
          have tokens : pathFlats (segment :: next :: others) glob =
              .word segment false :: .separator :: pathFlats (next :: others) glob := by
            simp [pathFlats]
          rw [tokens, pathTrees]
          · exact .word segment false (.separator false tail)
          · simp

/-- The line that imports a namespace. -/
def useLine (text : String) : String :=
  "    use " ++ text ++ ";"

/-- The trees of a line that imports a path. -/
def lineTrees (segments : List (List Char)) (glob : Bool) : List Tree :=
  .word "use".toList false :: pathTrees glob segments ++ [.mark ';' false]

theorem useLine_unmarked (text : String) : (useLine text).toList.head? ≠ some Token.byteOrderMark := by
  have line : (useLine text).toList = ' ' :: ("   use " ++ text ++ ";").toList := by
    simp [useLine, String.toList_append]
  rw [line, List.head?_cons]
  decide

theorem useLine_of_path {segments : List (List Char)} {glob : Bool} {text : String}
    (isPath : IsPath segments glob text.toList) :
    lexemesFrom [] (useLine text).toList = some (spelledAll (lineTrees segments glob)) := by
  have read := useLine_lexes text ((isValid_iff_isPath text).mpr ⟨segments, glob, isPath⟩)
  rwa [useTrees, hasGlob_of_path isPath, segmentsOf_path isPath] at read

theorem flatten_lineTrees (segments : List (List Char)) (nonempty : segments ≠ []) (glob : Bool) :
    Token.flatten (lineTrees segments glob) =
      .word "use".toList false :: pathFlats segments glob ++ [.mark ';'] := by
  have last : Flattens [Tree.mark ';' false] [.mark ';'] := .mark ';' false (by simp) (by simp) .nil
  exact Token.flatten_eq (.word _ false (flattens_path segments nonempty glob last))

/-- Accepted is exactly the grammar: a text is a namespace when it is a path of identifiers, with a glob at its end or
without. The line that imports it lexes to the tokens of that path and no others, and the lines after it are
lexed as they are without it. -/
theorem namespaces_are_paths (text : String) :
    (isValid text = true ↔ ∃ segments glob, IsPath segments glob text.toList) ∧
    ∀ segments glob, IsPath segments glob text.toList →
      (∀ others, Scaffold.useLines (others ++ [text]) = Scaffold.useLines others ++ [useLine text]) ∧
      Token.lex? (useLine text).toList = some (lineTrees segments glob) ∧
      Token.flatten (lineTrees segments glob) =
        .word "use".toList false :: pathFlats segments glob ++ [.mark ';'] ∧
      ∀ more, lexemesFrom [] ((useLine text).toList ++ '\n' :: more) =
        (lexemesFrom [] more).map (spelledAll (lineTrees segments glob) ++ ·) := by
  refine ⟨isValid_iff_isPath text, ?_⟩
  intro segments glob isPath
  have read := useLine_of_path isPath
  refine ⟨?_, ?_, flatten_lineTrees segments isPath.nonempty glob, ?_⟩
  · intro others
    simp [Scaffold.useLines, useLine]
  · rw [Token.lex?, Scaffold.lexemes_eq _ (useLine_unmarked text), read]
    exact Token.trees_spelledAll _
  · intro more
    rw [← List.append_nil (useLine text).toList] at read
    exact Token.lexemesFrom_lines _ [] more .finished _ read

theorem std_io_is_path :
    isValid "std::io::*" = true ∧ IsPath ["std".toList, "io".toList] true "std::io::*".toList ∧
      Token.lex? "    use std::io::*;".toList = some (lineTrees ["std".toList, "io".toList] true) := by
  have isPath : IsPath ["std".toList, "io".toList] true "std::io::*".toList := by
    refine ⟨by decide, ?_, by decide⟩
    intro segment listed
    rw [← isSegment_iff]
    revert segment
    decide
  obtain ⟨grammar, line⟩ := namespaces_are_paths "std::io::*"
  exact ⟨grammar.mpr ⟨_, _, isPath⟩, isPath, (line _ _ isPath).2.1⟩

end Lines
end Namespace
end SnippetRunner

import SnippetRunner.Scaffold
import SnippetRunner.Proofs.TextLines

/-!
Where a snippet stands in its program. What comes before the snippet, the snippet with its line end and what comes
after it are whole lines, so the lines of the program are theirs, in this order. A line of the program is
mapped to a line of the snippet exactly when it is that line.
-/

namespace SnippetRunner.Scaffold
open Text (IsRows)

/-- What is put after a snippet that does not end in a line feed. -/
def lineEnd (snippet : String) : String :=
  if endsLine snippet then "" else "\n"

section Parts

theorem ofLines_ended (lines : List String) (last : String) :
    ∃ text, (ofLines (lines ++ [last])).toList = text ++ ['\n'] :=
  ⟨(ofLines lines).toList ++ last.toList, by simp [ofLines, String.join_append]⟩

theorem before_ended (namespaces : List String) : ∃ text, (before namespaces).toList = text ++ ['\n'] := by
  have closure : closureLines = closureLines.dropLast ++ [closureLines.getLast (by simp [closureLines])] :=
    (List.dropLast_concat_getLast _).symm
  rw [before, closure, ← List.append_assoc]
  exact ofLines_ended _ _

theorem after_ended : ∃ text, after.toList = text ++ ['\n'] :=
  ofLines_ended ["            \x7d;", "            (&&&&&&crate::render::Value(" ++ closureName ++ "())).render()",
    "        \x7d", "    \x7d"] "\x7d"

theorem snippet_ended (snippet : String) : ∃ text, (snippet ++ lineEnd snippet).toList = text ++ ['\n'] := by
  cases ends : endsLine snippet with
  | false => exact ⟨snippet.toList, by simp [lineEnd, ends]⟩
  | true =>
      have last : snippet.toList.getLast? = some '\n' := by simpa [endsLine] using ends
      obtain ⟨text, whole⟩ := List.getLast?_eq_some_iff.mp last
      exact ⟨text, by simp [lineEnd, ends, whole]⟩

theorem rows_of_parts (text : List Char) (ended : ∃ front, text = front ++ ['\n']) :
    ∃ rows, IsRows text rows ∧ rows.length = text.count '\n' := by
  obtain ⟨front, rfl⟩ := ended
  exact Text.rows_of_ended front

end Parts

section Counts

theorem lineCount_of_ended (text : List Char) (ended : ∃ front, text = front ++ ['\n']) :
    Text.lineCount text = text.count '\n' := by
  obtain ⟨front, rfl⟩ := ended
  simp [Text.lineCount_eq, Text.isClosed]

-- The line end that is put after a snippet ends its last line, or is the only line of an empty snippet.
theorem snippetLines_eq (snippet : String) :
    max (Text.lineCount snippet.toList) 1 = (snippet ++ lineEnd snippet).toList.count '\n' := by
  rw [Text.lineCount_eq]
  cases ends : endsLine snippet with
  | true =>
      have last : (snippet.toList.getLast? == some '\n') = true := ends
      have feed : '\n' ∈ snippet.toList := List.mem_of_getLast? (by simpa using last)
      have some : 0 < snippet.toList.count '\n' := List.count_pos_iff.mpr feed
      simp only [Text.isClosed, last, lineEnd, ends, Bool.or_true, if_true, String.append_empty]
      omega
  | false =>
      have last : (snippet.toList.getLast? == some '\n') = false := ends
      have count : (snippet ++ lineEnd snippet).toList.count '\n' = snippet.toList.count '\n' + 1 := by
        simp [lineEnd, ends]
      rw [count, Text.isClosed, last, Bool.or_false]
      cases snippet.toList with
      | nil => rfl
      | cons c rest =>
          simp only [List.isEmpty_cons, Bool.false_eq_true, if_false]
          omega

end Counts

section Lines
variable (snippet : String) (namespaces : List String)

/-- The rows of a program, in their three parts, and how its lines are numbered by them. -/
structure Layout (program : Program) (front body back : List (List Char)) : Prop where
  before : IsRows (before namespaces).toList front
  snippet : IsRows (snippet ++ lineEnd snippet).toList body
  after : IsRows after.toList back
  whole : IsRows program.source.toList (front ++ body ++ back)
  first : program.snippetLine = front.length + 1
  count : program.snippetLines = body.length
  -- lines are counted from one
  inside (line relative : Nat) : program.snippetLine? line = some relative ↔ ∃ index row,
    body[index]? = some row ∧ (front ++ body ++ back)[front.length + index]? = some row ∧
      line = front.length + index + 1 ∧ relative = index + 1
  outside (line : Nat) : program.snippetLine? line = none ↔
    line ≤ front.length ∨ front.length + body.length < line

theorem snippetLine?_some_iff (program : Program) (line relative : Nat) :
    program.snippetLine? line = some relative ↔ program.snippetLine ≤ line ∧
      line < program.snippetLine + program.snippetLines ∧ relative = line - program.snippetLine + 1 := by
  unfold Program.snippetLine?
  split
  · next outside =>
      simp only [Bool.or_eq_true, decide_eq_true_eq] at outside
      constructor
      · intro none
        cases none
      · rintro ⟨low, high, _⟩
        omega
  · next inside =>
      simp only [Bool.or_eq_true, decide_eq_true_eq, not_or, Nat.not_lt, Nat.not_le] at inside
      simp only [Option.some.injEq]
      omega

theorem snippetLine?_none_iff (program : Program) (line : Nat) :
    program.snippetLine? line = none ↔
      line < program.snippetLine ∨ program.snippetLine + program.snippetLines ≤ line := by
  unfold Program.snippetLine?
  split
  · next outside => simpa using outside
  · next inside => simpa using inside

/-- The lines of the program of any snippet are those before the snippet, which do not depend on it, those of the
snippet with its line end, and those after it, and a line of the program is said to be a line of the snippet
exactly when it is that line. -/
theorem program_lines_of_snippet :
    (wrap snippet namespaces).source = before namespaces ++ (snippet ++ lineEnd snippet) ++ after ∧
      ∃ front body back, Layout snippet namespaces (wrap snippet namespaces) front body back := by
  have source : (wrap snippet namespaces).source = before namespaces ++ (snippet ++ lineEnd snippet) ++ after := by
    simp [wrap, lineEnd, String.append_assoc]
  obtain ⟨front, frontRows, frontCount⟩ := rows_of_parts _ (before_ended namespaces)
  obtain ⟨body, bodyRows, bodyCount⟩ := rows_of_parts _ (snippet_ended snippet)
  obtain ⟨back, backRows, _⟩ := rows_of_parts _ after_ended
  have first : (wrap snippet namespaces).snippetLine = front.length + 1 := by
    rw [frontCount, ← lineCount_of_ended _ (before_ended namespaces)]
    rfl
  have count : (wrap snippet namespaces).snippetLines = body.length := by
    rw [bodyCount, ← snippetLines_eq]
    rfl
  refine ⟨source, front, body, back, frontRows, bodyRows, backRows, ?_, first, count, ?_, ?_⟩
  · rw [source, String.toList_append, String.toList_append]
    exact (frontRows.append bodyRows).append backRows
  · intro line relative
    rw [snippetLine?_some_iff, first, count]
    constructor
    · rintro ⟨low, high, rfl⟩
      have bound : line - (front.length + 1) < body.length := by omega
      refine ⟨line - (front.length + 1), body[line - (front.length + 1)], by simp [bound], ?_, by omega, rfl⟩
      rw [List.append_assoc, List.getElem?_append_right (by omega), Nat.add_sub_cancel_left,
        List.getElem?_append_left bound, List.getElem?_eq_getElem bound]
    · rintro ⟨index, row, there, _, rfl, rfl⟩
      have bound : index < body.length := (List.getElem?_eq_some_iff.mp there).1
      omega
  · intro line
    rw [snippetLine?_none_iff, first, count]
    omega

-- An empty snippet has one line, which is empty.
example : (wrap "" []).snippetLines = 1 := rfl

end Lines
end SnippetRunner.Scaffold

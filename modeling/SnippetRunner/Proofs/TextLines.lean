import SnippetRunner.Text.Lines

/-!
The lines of a text. A text is read line by line: what comes after a line feed is read as if nothing came
before it, so lines are counted by the line feeds, and a last line that is not ended counts as one more.
-/

namespace SnippetRunner.Text

section Reading

/-- A text is one line that is not ended, or starts with a line that is. -/
theorem line_cases (text : List Char) :
    '\n' ∉ text ∨ ∃ line rest, text = line ++ '\n' :: rest ∧ '\n' ∉ line := by
  by_cases feed : '\n' ∈ text
  · obtain ⟨line, rest, equal, plain⟩ := List.eq_append_cons_of_mem feed
    exact .inr ⟨line, rest, equal, plain⟩
  · exact .inl feed

-- Every text is reached by putting ended lines before a line that is not ended.
theorem line_induction {motive : List Char → Prop} (last : ∀ line, '\n' ∉ line → motive line)
    (ended : ∀ line rest, '\n' ∉ line → motive rest → motive (line ++ '\n' :: rest))
    (text : List Char) : motive text := by
  rcases line_cases text with plain | ⟨line, rest, rfl, plain⟩
  · exact last text plain
  · exact ended line rest plain (line_induction last ended rest)
termination_by text.length
decreasing_by
  subst_vars
  simp only [List.length_append, List.length_cons]
  omega

theorem lines_last (line : List Char) (plain : '\n' ∉ line) :
    lines line = if line.isEmpty then [] else [line] := by
  rw [lines, List.splitOn_eq_singleton plain]
  simp

theorem lines_ended (line rest : List Char) (plain : '\n' ∉ line) :
    lines (line ++ '\n' :: rest) = dropReturn line :: lines rest := by
  rw [lines, lines, List.splitOn_append_cons_self_of_not_mem plain]
  cases turned : (rest.splitOn '\n').reverse with
  | nil => exact absurd (List.reverse_eq_nil_iff.mp turned) (List.splitOn_ne_nil '\n' rest)
  | cons final closed =>
      rw [List.reverse_cons, turned]
      simp

/-- A line feed after a text ends its last line, or is a line of its own when that is ended. -/
theorem lines_feed (front rest : List Char) : ∃ closed, lines (front ++ '\n' :: rest) = closed ++ lines rest ∧
    (closed = lines front ++ [[]] ∨
      ∃ before last, lines front = before ++ [last] ∧ closed = before ++ [dropReturn last]) := by
  induction front using line_induction with
  | last line plain =>
      refine ⟨[dropReturn line], lines_ended line rest plain, ?_⟩
      by_cases empty : line = []
      · rw [empty]
        exact .inl rfl
      · exact .inr ⟨[], line, by simp [lines_last line plain, empty], rfl⟩
  | ended line middle plain ih =>
      obtain ⟨closed, whole, known⟩ := ih
      refine ⟨dropReturn line :: closed, ?_, ?_⟩
      · rw [List.append_assoc, List.cons_append, lines_ended line _ plain, whole, List.cons_append]
      · rw [lines_ended line middle plain]
        rcases known with rfl | ⟨before, last, ends, rfl⟩
        · exact .inl rfl
        · exact .inr ⟨dropReturn line :: before, last, by rw [ends, List.cons_append], rfl⟩

end Reading

section Counting

/-- Every line of the text is ended. -/
def isClosed (text : List Char) : Bool :=
  text.isEmpty || text.getLast? == some '\n'

theorem isClosed_ended (line rest : List Char) : isClosed (line ++ '\n' :: rest) = isClosed rest := by
  cases rest with
  | nil => simp [isClosed]
  | cons c more =>
      have last : (line ++ '\n' :: c :: more).getLast? = (c :: more).getLast? := by
        rw [List.getLast?_append, List.getLast?_cons_cons, List.getLast?_cons, Option.some_or]
      have nonempty : (line ++ '\n' :: c :: more).isEmpty = false := by simp
      rw [isClosed, isClosed, last, nonempty]
      rfl

theorem isClosed_line (line : List Char) (plain : '\n' ∉ line) : isClosed line = line.isEmpty := by
  have unended : line.getLast? ≠ some '\n' := fun ends => plain (List.mem_of_getLast? ends)
  simp [isClosed, unended]

/-- A text has a line for every line feed, and one more if that is not ended. -/
theorem lineCount_eq (text : List Char) :
    lineCount text = text.count '\n' + if isClosed text then 0 else 1 := by
  induction text using line_induction with
  | last line plain =>
      rw [lineCount, lines_last line plain, isClosed_line line plain, List.count_eq_zero.mpr plain]
      cases line <;> rfl
  | ended line rest plain ih =>
      rw [lineCount, lines_ended line rest plain, List.length_cons, ← lineCount, ih, isClosed_ended]
      simp only [List.count_append, List.count_cons_self, List.count_eq_zero.mpr plain]
      omega

end Counting

section Rows

/-- The lines of a text in which each is ended. -/
structure IsRows (text : List Char) (rows : List (List Char)) : Prop where
  whole : text = rows.flatMap (· ++ ['\n'])
  plain : ∀ row ∈ rows, '\n' ∉ row

theorem IsRows.append {first second : List Char} {front back : List (List Char)} (one : IsRows first front)
    (other : IsRows second back) : IsRows (first ++ second) (front ++ back) where
  whole := by rw [List.flatMap_append, ← one.whole, ← other.whole]
  plain row member := by
    rcases List.mem_append.mp member with early | late
    · exact one.plain row early
    · exact other.plain row late

/-- A text that ends in a line feed has as many lines as line feeds. -/
theorem rows_of_ended (text : List Char) :
    ∃ rows, IsRows (text ++ ['\n']) rows ∧ rows.length = (text ++ ['\n']).count '\n' := by
  induction text using line_induction with
  | last line plain =>
      have none : line.count '\n' = 0 := List.count_eq_zero.mpr plain
      exact ⟨[line], ⟨by simp, by simpa using plain⟩, by simp [none]⟩
  | ended line rest plain ih =>
      obtain ⟨rows, ⟨whole, plains⟩, count⟩ := ih
      have none : line.count '\n' = 0 := List.count_eq_zero.mpr plain
      refine ⟨line :: rows, ⟨by simp [← whole], ?_⟩, ?_⟩
      · intro row member
        rcases List.mem_cons.mp member with rfl | later
        · exact plain
        · exact plains row later
      · simp only [List.length_cons, count, List.append_assoc, List.cons_append, List.count_append,
          List.count_cons_self, none]
        omega

end Rows

section Keeping

/-- The text without the lines, each with its end, that are not to be kept. -/
def keepLines (keep : List Char → Bool) (text : List Char) : List Char :=
  match (text.splitOn '\n').reverse with
  | [] => []
  | last :: closed =>
      (closed.reverse.filter fun line => keep (dropReturn line)).flatMap (· ++ ['\n']) ++
        if keep last then last else []

theorem keepLines_last (keep : List Char → Bool) (line : List Char) (plain : '\n' ∉ line) :
    keepLines keep line = if keep line then line else [] := by
  rw [keepLines, List.splitOn_eq_singleton plain]
  simp

theorem keepLines_ended (keep : List Char → Bool) (line rest : List Char) (plain : '\n' ∉ line) :
    keepLines keep (line ++ '\n' :: rest) =
      (if keep (dropReturn line) then line ++ ['\n'] else []) ++ keepLines keep rest := by
  rw [keepLines, keepLines, List.splitOn_append_cons_self_of_not_mem plain]
  cases turned : (rest.splitOn '\n').reverse with
  | nil => exact absurd (List.reverse_eq_nil_iff.mp turned) (List.splitOn_ne_nil '\n' rest)
  | cons final closed =>
      rw [List.reverse_cons, turned]
      by_cases kept : keep (dropReturn line) <;> simp [kept]

/-- The lines that are kept stay as they are. -/
theorem lines_keepLines (keep : List Char → Bool) (text : List Char) :
    lines (keepLines keep text) = (lines text).filter keep := by
  induction text using line_induction with
  | last line plain =>
      rw [keepLines_last keep line plain, lines_last line plain]
      by_cases kept : keep line
      · rw [if_pos kept, lines_last line plain]
        split <;> simp [kept]
      · have none : lines [] = [] := rfl
        rw [if_neg kept, none]
        split <;> simp [kept]
  | ended line rest plain ih =>
      rw [keepLines_ended keep line rest plain, lines_ended line rest plain]
      by_cases kept : keep (dropReturn line)
      · rw [if_pos kept, List.append_assoc, List.singleton_append, lines_ended line _ plain, ih,
          List.filter_cons_of_pos kept]
      · rw [if_neg kept, List.nil_append, ih, List.filter_cons_of_neg kept]

end Keeping
end SnippetRunner.Text

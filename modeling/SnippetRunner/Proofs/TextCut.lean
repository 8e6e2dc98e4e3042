import SnippetRunner.Text.Search

/-!
Cutting a text and joining the pieces again. Joining undoes cutting; cutting undoes joining when the place
to cut at cannot come about inside a piece or where two meet.
-/

namespace SnippetRunner.Text

section Joining

theorem joinWith_cons (between piece : List Char) (rest : List (List Char)) (nonempty : rest ≠ []) :
    joinWith between (piece :: rest) = piece ++ between ++ joinWith between rest := by
  cases rest with
  | nil => exact absurd rfl nonempty
  | cons next rest => rfl

theorem joinWith_append (between : List Char) (front back : List (List Char)) (frontNonempty : front ≠ [])
    (backNonempty : back ≠ []) :
    joinWith between (front ++ back) = joinWith between front ++ between ++ joinWith between back := by
  induction front with
  | nil => exact absurd rfl frontNonempty
  | cons piece rest ih =>
      cases rest with
      | nil => exact joinWith_cons between piece back backNonempty
      | cons next rest =>
          rw [List.cons_append, joinWith_cons between piece (next :: rest ++ back) (by simp),
            ih (by simp), joinWith_cons between piece (next :: rest) (by simp)]
          simp only [List.append_assoc]

end Joining

section Cutting

theorem cutFrom_nil (part word : List Char) (done : List (List Char)) :
    cutFrom part word done [] = done.reverse ++ [word.reverse] := by
  simp [cutFrom]

theorem cutFrom_here (part word : List Char) (done : List (List Char)) (rest : List Char)
    (nonempty : part ≠ []) :
    cutFrom part word done (part ++ rest) = cutFrom part [] (word.reverse :: done) rest := by
  cases part with
  | nil => exact absurd rfl nonempty
  | cons c more =>
      rw [List.cons_append, cutFrom]
      simp

theorem cutFrom_on (part word : List Char) (done : List (List Char)) (c : Char) (rest : List Char)
    (absent : part.isPrefixOf (c :: rest) = false) :
    cutFrom part word done (c :: rest) = cutFrom part (c :: word) done rest := by
  rw [cutFrom]
  simp [absent]

-- At every place the text goes on with the separator or with one more character of a piece.
theorem cutFrom_induction (part : List Char) (nonempty : part ≠ []) {motive : List Char → Prop}
    (nil : motive [])
    (here : ∀ rest, motive rest → motive (part ++ rest))
    (on : ∀ c rest, part.isPrefixOf (c :: rest) = false → motive rest → motive (c :: rest))
    (text : List Char) : motive text := by
  match text with
  | [] => exact nil
  | c :: rest =>
      by_cases starts : part.isPrefixOf (c :: rest) = true
      · obtain ⟨after, equal⟩ := List.isPrefixOf_iff_prefix.mp starts
        rw [← equal]
        exact here after (cutFrom_induction part nonempty nil here on after)
      · have absent := Bool.eq_false_iff.mpr starts
        exact on c rest absent (cutFrom_induction part nonempty nil here on rest)
termination_by text.length
decreasing_by
  · have positive := List.length_pos_iff.mpr nonempty
    have lengths := congrArg List.length equal
    simp only [List.length_append] at lengths
    omega
  · simp

theorem cutFrom_done (part : List Char) (nonempty : part ≠ []) (text word : List Char)
    (done : List (List Char)) :
    cutFrom part word done text = done.reverse ++ cutFrom part word [] text := by
  induction text using cutFrom_induction part nonempty generalizing word done with
  | nil => simp [cutFrom_nil]
  | here rest ih =>
      rw [cutFrom_here part word done rest nonempty, cutFrom_here part word [] rest nonempty,
        ih [] (word.reverse :: done), ih [] [word.reverse]]
      simp
  | on c rest absent ih =>
      rw [cutFrom_on part word done c rest absent, cutFrom_on part word [] c rest absent]
      exact ih (c :: word) done

theorem cutFrom_ne_nil (part : List Char) (nonempty : part ≠ []) (text word : List Char) :
    cutFrom part word [] text ≠ [] := by
  induction text using cutFrom_induction part nonempty generalizing word with
  | nil => simp [cutFrom_nil]
  | here rest ih =>
      rw [cutFrom_here part word [] rest nonempty, cutFrom_done part nonempty]
      simp
  | on c rest absent ih =>
      rw [cutFrom_on part word [] c rest absent]
      exact ih (c :: word)

theorem joinWith_cutFrom (part : List Char) (nonempty : part ≠ []) (text word : List Char) :
    joinWith part (cutFrom part word [] text) = word.reverse ++ text := by
  induction text using cutFrom_induction part nonempty generalizing word with
  | nil => simp [cutFrom_nil, joinWith]
  | here rest ih =>
      rw [cutFrom_here part word [] rest nonempty, cutFrom_done part nonempty]
      simp only [List.reverse_cons, List.reverse_nil, List.nil_append, List.singleton_append]
      rw [joinWith_cons _ _ _ (cutFrom_ne_nil part nonempty rest []), ih []]
      simp
  | on c rest absent ih =>
      rw [cutFrom_on part word [] c rest absent, ih (c :: word)]
      simp

/-- The pieces of a text, joined again, are the text. -/
theorem joinWith_cut (part text : List Char) (nonempty : part ≠ []) :
    joinWith part (cut part text) = text :=
  joinWith_cutFrom part nonempty text []

end Cutting

/-! A piece that has no character of the separator's front is cut off as a whole. -/
section PlainPieces
variable {mark : Char} {more : List Char}

theorem cutFrom_plain (piece word rest : List Char) (plain : mark ∉ piece) :
    cutFrom (mark :: more) word [] (piece ++ rest) =
      cutFrom (mark :: more) (piece.reverse ++ word) [] rest := by
  induction piece generalizing word with
  | nil => rfl
  | cons c tail ih =>
      have different : mark ≠ c := by
        intro equal
        exact plain (equal ▸ List.mem_cons_self)
      have absent : (mark :: more).isPrefixOf (c :: (tail ++ rest)) = false := by
        simp [List.isPrefixOf, different]
      rw [List.cons_append, cutFrom_on _ _ _ _ _ absent,
        ih (c :: word) (fun member => plain (List.mem_cons_of_mem c member))]
      simp

theorem cut_plain (piece : List Char) (plain : mark ∉ piece) : cut (mark :: more) piece = [piece] := by
  rw [cut, ← List.append_nil piece, cutFrom_plain piece [] [] plain, cutFrom_nil]
  simp

theorem cut_plain_append (piece rest : List Char) (plain : mark ∉ piece) :
    cut (mark :: more) (piece ++ (mark :: more) ++ rest) = piece :: cut (mark :: more) rest := by
  rw [cut, List.append_assoc, cutFrom_plain piece [] _ plain, cutFrom_here _ _ _ _ (by simp),
    cutFrom_done _ (by simp)]
  simp [cut]

/-- Pieces without the separator's front come back as they were joined. -/
theorem cut_joinWith (pieces : List (List Char)) (nonempty : pieces ≠ [])
    (plain : ∀ piece ∈ pieces, mark ∉ piece) :
    cut (mark :: more) (joinWith (mark :: more) pieces) = pieces := by
  induction pieces with
  | nil => exact absurd rfl nonempty
  | cons piece rest ih =>
      have headPlain := plain piece List.mem_cons_self
      cases rest with
      | nil => exact cut_plain piece headPlain
      | cons next rest =>
          rw [joinWith_cons _ _ _ (by simp), cut_plain_append _ _ headPlain,
            ih (by simp) (fun other member => plain other (List.mem_cons_of_mem piece member))]

theorem cut_joinWith_append (pieces : List (List Char)) (rest : List Char) (nonempty : pieces ≠ [])
    (plain : ∀ piece ∈ pieces, mark ∉ piece) :
    cut (mark :: more) (joinWith (mark :: more) pieces ++ (mark :: more) ++ rest) =
      pieces ++ cut (mark :: more) rest := by
  induction pieces with
  | nil => exact absurd rfl nonempty
  | cons piece tail ih =>
      have headPlain := plain piece List.mem_cons_self
      cases tail with
      | nil => exact cut_plain_append piece rest headPlain
      | cons next tail =>
          have later := ih (by simp) (fun other member => plain other (List.mem_cons_of_mem piece member))
          rw [joinWith_cons _ _ _ (by simp)]
          simp only [List.append_assoc] at later ⊢
          rw [← List.append_assoc, cut_plain_append _ _ headPlain, later]
          rfl

/-- Joined pieces start a joined path, at the end of a piece, exactly when they are its first pieces. -/
theorem joinWith_starts_iff (front pieces : List (List Char)) (frontNonempty : front ≠ [])
    (piecesNonempty : pieces ≠ []) (frontPlain : ∀ piece ∈ front, mark ∉ piece)
    (piecesPlain : ∀ piece ∈ pieces, mark ∉ piece) :
    (joinWith (mark :: more) pieces = joinWith (mark :: more) front ∨
        ∃ rest, joinWith (mark :: more) pieces =
          joinWith (mark :: more) front ++ (mark :: more) ++ rest) ↔
      front <+: pieces := by
  constructor
  · rintro (equal | ⟨rest, equal⟩)
    · have same := congrArg (cut (mark :: more)) equal
      rw [cut_joinWith pieces piecesNonempty piecesPlain,
        cut_joinWith front frontNonempty frontPlain] at same
      exact ⟨[], by simp [same]⟩
    · have same := congrArg (cut (mark :: more)) equal
      rw [cut_joinWith pieces piecesNonempty piecesPlain,
        cut_joinWith_append front rest frontNonempty frontPlain] at same
      exact ⟨_, same.symm⟩
  · rintro ⟨back, rfl⟩
    by_cases last : back = []
    · left
      rw [last, List.append_nil]
    · right
      exact ⟨_, joinWith_append _ front back frontNonempty last⟩

end PlainPieces

section CuttingOnce

theorem cutOnce_plain (mark : Char) (text : List Char) (plain : mark ∉ text) : cutOnce? mark text = none := by
  have passes : ∀ c ∈ text, (c != mark) = true := by
    intro c member
    simpa using fun same : c = mark => plain (same ▸ member)
  rw [cutOnce?, ← List.append_nil text, List.dropWhile_append_of_pos passes]
  rfl

/-- A text is cut at its first mark. -/
theorem cutOnce_marked (mark : Char) (front back : List Char) (plain : mark ∉ front) :
    cutOnce? mark (front ++ mark :: back) = some (front, back) := by
  have passes : ∀ c ∈ front, (c != mark) = true := by
    intro c member
    simpa using fun same : c = mark => plain (same ▸ member)
  rw [cutOnce?, List.dropWhile_append_of_pos passes, List.takeWhile_append_of_pos passes]
  simp

end CuttingOnce
end SnippetRunner.Text

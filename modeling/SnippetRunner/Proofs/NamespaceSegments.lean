import SnippetRunner.Namespace
import SnippetRunner.Policy
import SnippetRunner.Proofs.TextCut

/-!
The segments of a namespace. A namespace is the joined text of its segments, with a glob at the end or without,
and no segment holds a colon.
-/

namespace SnippetRunner.Namespace

/-- The segments of a namespace, without the glob it may end in. -/
def segmentsOf (text : String) : List (List Char) :=
  Text.cut [':', ':'] (Policy.withoutGlob text)

theorem isValid_iff (text : String) :
    isValid text = true ↔ ∀ segment ∈ segmentsOf text, isSegment segment = true :=
  List.all_eq_true

theorem segmentsOf_ne_nil (text : String) : segmentsOf text ≠ [] :=
  Text.cutFrom_ne_nil _ (by simp) _ _

theorem pathText_segmentsOf (text : String) :
    Policy.pathText (segmentsOf text) = Policy.withoutGlob text :=
  Text.joinWith_cut _ _ (by simp)

theorem segment_characters (segment : List Char) (valid : isSegment segment = true) :
    ∀ c ∈ segment, c = '_' ∨ isLetter c = true ∨ isDigit c = true := by
  cases segment with
  | nil => simp
  | cons first rest =>
      simp only [isSegment, Bool.and_eq_true, Bool.or_eq_true, beq_iff_eq, List.all_eq_true] at valid
      intro c member
      rcases List.mem_cons.mp member with rfl | later
      · rcases valid.1 with low | letter
        · exact .inl low
        · exact .inr (.inl letter)
      · rcases valid.2 c later with (low | letter) | digit
        · exact .inl low
        · exact .inr (.inl letter)
        · exact .inr (.inr digit)

theorem segment_plain (segment : List Char) (valid : isSegment segment = true) : ':' ∉ segment := by
  intro member
  have colon := segment_characters segment valid ':' member
  revert colon
  decide

end SnippetRunner.Namespace

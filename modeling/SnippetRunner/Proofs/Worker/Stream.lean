import SnippetRunner.Proofs.Octets
import SnippetRunner.Proofs.TextLines
import SnippetRunner.Worker.Serve

/-!
The stream of a worker, line by line. What comes after a line feed is cut as if nothing came before it, and
the lines that are cut from the octets of a text are the lines of that text.
-/

namespace SnippetRunner.Worker

section Cutting

theorem cutFrom_plain (begun more rest : Bytes) (plain : lineFeed ∉ more) :
    cutFrom begun (more ++ rest) = cutFrom (more.reverse ++ begun) rest := by
  induction more generalizing begun with
  | nil => rfl
  | cons b more ih =>
      have other : (b == lineFeed) = false := beq_false_of_ne fun same => plain (same ▸ List.mem_cons_self)
      rw [List.cons_append, cutFrom, other, if_neg Bool.false_ne_true,
        ih _ fun later => plain (List.mem_cons_of_mem b later), List.reverse_cons, List.append_assoc,
        List.singleton_append]

theorem cutFrom_feed (begun rest : Bytes) :
    cutFrom begun (lineFeed :: rest) = (begun.reverse ++ [lineFeed]) :: cut rest := by
  rw [cutFrom, beq_self_eq_true, if_pos rfl, List.reverse_cons, cut]

theorem cut_ended (line rest : Bytes) (plain : lineFeed ∉ line) :
    cut (line ++ lineFeed :: rest) = (line ++ [lineFeed]) :: cut rest := by
  rw [cut, cutFrom_plain [] line _ plain, cutFrom_feed, List.append_nil, List.reverse_reverse]

theorem cut_last (line : Bytes) (plain : lineFeed ∉ line) : cut line = if line.isEmpty then [] else [line] := by
  have whole := cutFrom_plain [] line [] plain
  rw [List.append_nil, List.append_nil] at whole
  rw [cut, whole, cutFrom, List.isEmpty_reverse, List.reverse_reverse]

/-- No line is open after these octets. -/
def Ended (front : Bytes) : Prop :=
  front = [] ∨ front.getLast? = some lineFeed

theorem cutFrom_append (begun front back : Bytes) :
    cutFrom begun (front ++ lineFeed :: back) = cutFrom begun (front ++ [lineFeed]) ++ cut back := by
  induction front generalizing begun with
  | nil => rw [List.nil_append, List.nil_append, cutFrom_feed, cutFrom_feed]; rfl
  | cons b front ih =>
      rw [List.cons_append, List.cons_append, cutFrom, cutFrom]
      split
      · rw [ih, List.cons_append]
      · exact ih _

/-- Where no line is open, a stream is cut in two without a trace. -/
theorem cut_append (front back : Bytes) (ended : Ended front) : cut (front ++ back) = cut front ++ cut back := by
  rcases ended with rfl | last
  · rfl
  · obtain ⟨earlier, rfl⟩ := List.getLast?_eq_some_iff.mp last
    rw [List.append_assoc, List.singleton_append, cut, cutFrom_append]
    rfl

/-- A line that is put where no line is open is cut out again, and the others are as before. -/
theorem cut_insert (front line back : Bytes) (ended : Ended front) (plain : lineFeed ∉ line) :
    cut (front ++ (line ++ lineFeed :: back)) = cut front ++ (line ++ [lineFeed]) :: cut back := by
  rw [cut_append front _ ended, cut_ended line back plain]

end Cutting

section Lines

theorem withoutEnd_plain (line : List Char) (plain : '\n' ∉ line) : withoutEnd line = line := by
  have unended : line.getLast? ≠ some '\n' := fun ends => plain (List.mem_of_getLast? ends)
  simp [withoutEnd, unended]

theorem withoutEnd_ended (line : List Char) : withoutEnd (line ++ ['\n']) = Text.dropReturn line := by
  simp [withoutEnd]

theorem read_write (text : List Char) : Line.read (Utf8.write text) = .ok (.ofText (withoutEnd text)) := by
  rw [Line.read, Utf8.readStrict_write]
  rfl

/-- The lines of a text are what its octets are read as, and none of them is lost. -/
theorem read_cut_write (text : List Char) :
    (cut (Utf8.write text)).map Line.read = (Text.lines text).map fun line => .ok (.ofText line) := by
  induction text using Text.line_induction with
  | last line plain =>
      rw [cut_last _ (Utf8.feed_not_mem_write line plain), Text.lines_last line plain]
      cases line with
      | nil => rfl
      | cons c rest =>
          have some : (Utf8.write (c :: rest)).isEmpty = false := by
            obtain ⟨lead, more, spelled, _⟩ := Utf8.piece_encode c
            rw [Utf8.write, List.flatMap_cons, spelled]
            rfl
          rw [some, if_neg Bool.false_ne_true, List.map_singleton, read_write, withoutEnd_plain _ plain]
          rfl
  | ended line rest plain ih =>
      have first : Utf8.write (line ++ '\n' :: rest) = Utf8.write line ++ lineFeed :: Utf8.write rest := by
        rw [Utf8.write_append, Utf8.write_feed]
        rfl
      have whole : Utf8.write line ++ [lineFeed] = Utf8.write (line ++ ['\n']) := by
        rw [Utf8.write_append, Utf8.write_feed]
        rfl
      rw [first, cut_ended _ _ (Utf8.feed_not_mem_write line plain), Text.lines_ended line rest plain,
        List.map_cons, List.map_cons, ih, whole, read_write, withoutEnd_ended]

end Lines

section Texts
open Utf8 (IsText)

theorem isText_iff_read (octets : Bytes) : IsText octets ↔ ∃ line, Line.read octets = .ok line := by
  rw [Utf8.isText_iff, Line.read]
  cases Utf8.readStrict octets with
  | ok text => exact ⟨fun _ => ⟨_, rfl⟩, fun _ => ⟨text, rfl⟩⟩
  | error fault => exact ⟨fun ⟨_, read⟩ => (nomatch read), fun ⟨_, read⟩ => (nomatch read)⟩

theorem not_isText_iff_read (octets : Bytes) : ¬ IsText octets ↔ ∃ fault, Line.read octets = .error fault := by
  rw [isText_iff_read]
  cases Line.read octets <;> simp

/-- Lines are read to the end exactly when all of them are texts. -/
theorem readLines_whole_iff (pieces : List Bytes) :
    (readLines pieces).2 = none ↔ ∀ octets ∈ pieces, IsText octets := by
  induction pieces with
  | nil => exact ⟨fun _ _ member => (nomatch member), fun _ => rfl⟩
  | cons octets rest ih =>
      rw [List.forall_mem_cons, ← ih, isText_iff_read, readLines]
      cases Line.read octets <;> simp

/-- Lines that are texts are read one by one. -/
theorem map_read_of_texts (pieces : List Bytes) (texts : ∀ octets ∈ pieces, IsText octets) :
    pieces.map Line.read = (readLines pieces).1.map .ok := by
  induction pieces with
  | nil => rfl
  | cons octets rest ih =>
      obtain ⟨line, read⟩ := (isText_iff_read octets).mp (texts octets List.mem_cons_self)
      have later := ih fun other member => texts other (List.mem_cons_of_mem octets member)
      simp only [readLines, List.map_cons, read, later]

theorem flatten_cutFrom (begun stream : Bytes) : (cutFrom begun stream).flatten = begun.reverse ++ stream := by
  induction stream generalizing begun with
  | nil => cases begun <;> simp [cutFrom]
  | cons b rest ih =>
      rw [cutFrom]
      split <;> simp [ih]

theorem flatten_cut (stream : Bytes) : (cut stream).flatten = stream :=
  flatten_cutFrom [] stream

theorem isText_of_mem_cut (text : List Char) (octets : Bytes) (member : octets ∈ cut (Utf8.write text)) :
    IsText octets := by
  have listed : Line.read octets ∈ (Text.lines text).map fun line => .ok (.ofText line) := by
    rw [← read_cut_write]
    exact List.mem_map_of_mem member
  obtain ⟨line, _, read⟩ := List.mem_map.mp listed
  exact (isText_iff_read octets).mpr ⟨.ofText line, read.symm⟩

/-- A stream is read to its end exactly when it is a text. -/
theorem isText_iff_readLines (stream : Bytes) : IsText stream ↔ (readLines (cut stream)).2 = none := by
  rw [readLines_whole_iff]
  constructor
  · rintro ⟨text, rfl⟩
    exact isText_of_mem_cut text
  · intro each
    have whole := Utf8.isText_flatten (cut stream) each
    rwa [flatten_cut] at whole

/-- The octets of a text are read as its lines, to the end. -/
theorem readLines_write (text : List Char) :
    readLines (cut (Utf8.write text)) = ((Text.lines text).map .ofText, none) := by
  have lines := map_read_of_texts _ (isText_of_mem_cut text)
  rw [read_cut_write] at lines
  have same : ((Text.lines text).map Line.ofText).map (Except.ok (ε := Utf8.Fault)) =
      (readLines (cut (Utf8.write text))).1.map .ok := by
    rw [← lines, List.map_map]
    rfl
  have injective : Function.Injective (Except.ok (ε := Utf8.Fault) (α := Line)) := fun _ _ equal => by
    cases equal
    rfl
  exact Prod.ext (List.map_injective_iff.mpr injective same).symm
    ((isText_iff_readLines _).mp ⟨text, rfl⟩)

end Texts
end SnippetRunner.Worker

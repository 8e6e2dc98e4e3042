import SnippetRunner.Box.Account
import SnippetRunner.Proofs.TextCut
import SnippetRunner.Proofs.TextLines

/-!
The two readings of an account. They decide alike about every line; the lenient one goes on after a malformed
line as if it was not there, the strict one ends at the first and names it.
-/

namespace SnippetRunner.Box.Account

section Lines
variable {line : List Char}

/-- A line that is not blank, and has no colon or nothing to read before its first colon. -/
def IsMalformed (line : List Char) : Prop :=
  Text.trim line ≠ [] ∧ ∀ key value, Text.trim line = key ++ ':' :: value → ':' ∉ key → Text.trim key = []

/-- What is wrong with a malformed line. -/
def reasonOf (line : List Char) : String :=
  if ':' ∈ Text.trim line then "empty key before colon" else "missing colon separator"

/-- What a line tells: nothing when it is blank, the reason when it is malformed, an entry otherwise. -/
inductive Tells (line : List Char) : Line → Prop where
  | blank (empty : Text.trim line = []) : Tells line .blank
  | malformed (wrong : IsMalformed line) : Tells line (.malformed (reasonOf line))
  | entry (key value : List Char) (whole : Text.trim line = key ++ ':' :: value) (first : ':' ∉ key)
      (named : Text.trim key ≠ []) : Tells line (.entry (Text.trim key) (Text.trim value))

theorem tells_read (line : List Char) : Tells line (Line.read line) := by
  by_cases blank : Text.trim line = []
  · have read : Line.read line = .blank := by simp [Line.read, blank]
    rw [read]
    exact .blank blank
  · by_cases colon : ':' ∈ Text.trim line
    · obtain ⟨key, value, whole, first⟩ := List.eq_append_cons_of_mem colon
      by_cases named : Text.trim key = []
      · have read : Line.read line = .malformed (reasonOf line) := by
          simp [Line.read, reasonOf, whole, Text.cutOnce_marked ':' key value first, named]
        rw [read]
        refine .malformed ⟨blank, fun other rest same unmarked => ?_⟩
        have cut := Text.cutOnce_marked ':' key value first
        rw [← whole, same, Text.cutOnce_marked ':' other rest unmarked] at cut
        cases cut
        exact named
      · have read : Line.read line = .entry (Text.trim key) (Text.trim value) := by
          simp [Line.read, whole, Text.cutOnce_marked ':' key value first, named]
        rw [read]
        exact .entry key value whole first named
    · have read : Line.read line = .malformed (reasonOf line) := by
        simp [Line.read, reasonOf, blank, colon, Text.cutOnce_plain ':' _ colon]
      rw [read]
      refine .malformed ⟨blank, fun key value whole _ => ?_⟩
      exact absurd (by rw [whole]; simp) colon

theorem read_of_malformed (wrong : IsMalformed line) : Line.read line = .malformed (reasonOf line) := by
  have tells := tells_read line
  generalize Line.read line = read at tells
  cases tells with
  | blank empty => exact absurd empty wrong.1
  | malformed => rfl
  | entry key value whole first named => exact absurd (wrong.2 key value whole first) named

theorem malformed_of_read {reason : String} (read : Line.read line = .malformed reason) : IsMalformed line := by
  have tells := tells_read line
  rw [read] at tells
  cases tells with
  | malformed wrong => exact wrong

instance : DecidablePred IsMalformed := fun line =>
  match read : Line.read line with
  | .malformed _ => .isTrue (malformed_of_read read)
  | .blank => .isFalse fun wrong => by rw [read_of_malformed wrong] at read; cases read
  | .entry _ _ => .isFalse fun wrong => by rw [read_of_malformed wrong] at read; cases read

/-- Both readings take the same from a line. -/
theorem addLine_eq (account : Account) (line : List Char) : account.addLine line = account.add (Line.read line) := by
  unfold addLine Line.read
  dsimp only
  split
  · rfl
  · cases Text.cutOnce? ':' (Text.trim line) with
    | none => rfl
    | some halves =>
        obtain ⟨key, value⟩ := halves
        dsimp only
        split <;> rfl

theorem addLine_malformed (account : Account) (wrong : IsMalformed line) : account.addLine line = account := by
  rw [addLine_eq, read_of_malformed wrong]
  rfl

end Lines

section Runs

/-- The strict reading takes up lines as the lenient one does, as long as none is malformed. -/
theorem readStrictFrom_append (account : Account) (number : Nat) (front rest : List (List Char))
    (sound : ∀ line ∈ front, ¬IsMalformed line) : readStrictFrom account number (front ++ rest) =
      readStrictFrom (front.foldl addLine account) (number + front.length) rest := by
  induction front generalizing account number with
  | nil => rfl
  | cons line front ih =>
      have later (other : List Char) (member : other ∈ front) : ¬IsMalformed other :=
        sound other (List.mem_cons_of_mem line member)
      rw [List.cons_append, readStrictFrom]
      split
      · next reason read => exact absurd (malformed_of_read read) (sound line List.mem_cons_self)
      · rw [← addLine_eq, ih _ _ later, List.foldl_cons, List.length_cons]
        congr 1
        omega

theorem readStrictFrom_malformed (account : Account) (number : Nat) (line : List Char) (rest : List (List Char))
    (wrong : IsMalformed line) :
    readStrictFrom account number (line :: rest) = .error ⟨number, line, reasonOf line⟩ := by
  rw [readStrictFrom, read_of_malformed wrong]

/-- The misreading of some lines: the first that is malformed, with its number and what is wrong with it. -/
inductive IsFirst (lines : List (List Char)) : Misreading → Prop where
  | mk (before : List (List Char)) (line : List Char) (after : List (List Char))
      (whole : lines = before ++ line :: after) (sound : ∀ earlier ∈ before, ¬IsMalformed earlier)
      (wrong : IsMalformed line) : IsFirst lines ⟨before.length + 1, line, reasonOf line⟩

theorem sound_or_first (lines : List (List Char)) :
    (∀ line ∈ lines, ¬IsMalformed line) ∨ ∃ misreading, IsFirst lines misreading := by
  induction lines with
  | nil => exact .inl (by simp)
  | cons line rest ih =>
      by_cases wrong : IsMalformed line
      · exact .inr ⟨_, .mk [] line rest rfl (by simp) wrong⟩
      · rcases ih with sound | ⟨misreading, first⟩
        · left
          intro other member
          rcases List.mem_cons.mp member with rfl | later
          · exact wrong
          · exact sound other later
        · right
          cases first with
          | mk before other after whole sound otherWrong =>
              refine ⟨_, .mk (line :: before) other after (by rw [whole]; rfl) ?_ otherWrong⟩
              intro earlier member
              rcases List.mem_cons.mp member with rfl | later
              · exact wrong
              · exact sound earlier later

theorem readStrict_sound {content : List Char} (sound : ∀ line ∈ Text.lines content, ¬IsMalformed line) :
    readStrict content = .ok (readLenient content) := by
  have read := readStrictFrom_append empty 1 (Text.lines content) [] sound
  rw [List.append_nil] at read
  rw [readStrict, read]
  rfl

theorem readStrict_first {content : List Char} {misreading : Misreading}
    (first : IsFirst (Text.lines content) misreading) : readStrict content = .error misreading := by
  cases first with
  | mk before line after whole sound wrong =>
      rw [readStrict, whole, readStrictFrom_append empty 1 before (line :: after) sound,
        readStrictFrom_malformed _ _ line after wrong, Nat.add_comm]

/-- A malformed line changes nothing for those after it. -/
theorem foldl_sound (lines : List (List Char)) (account : Account) :
    (lines.filter fun line => !decide (IsMalformed line)).foldl addLine account = lines.foldl addLine account := by
  induction lines generalizing account with
  | nil => rfl
  | cons line rest ih =>
      by_cases wrong : IsMalformed line
      · rw [List.filter_cons_of_neg (by simpa using wrong), List.foldl_cons, addLine_malformed account wrong, ih]
      · rw [List.filter_cons_of_pos (by simpa using wrong), List.foldl_cons, List.foldl_cons, ih]

end Runs

/-- The account without its malformed lines. -/
def withoutMalformed (content : List Char) : List Char :=
  Text.keepLines (fun line => !decide (IsMalformed line)) content

theorem lines_withoutMalformed (content : List Char) : Text.lines (withoutMalformed content) =
    (Text.lines content).filter fun line => !decide (IsMalformed line) :=
  Text.lines_keepLines _ content

theorem readStrict_withoutMalformed (content : List Char) :
    readStrict (withoutMalformed content) = .ok (readLenient content) := by
  have kept := lines_withoutMalformed content
  rw [readStrict_sound]
  · rw [readLenient, kept, foldl_sound]
    rfl
  · intro line member
    rw [kept] at member
    simpa using (List.mem_filter.mp member).2

/-- The strict reading is that of the lenient one when no line is malformed; otherwise it names the first line that
is. The lenient reading is the strict one of the account without its malformed lines. -/
theorem readings_agree (content : List Char) :
    (∀ account, readStrict content = .ok account ↔
      (∀ line ∈ Text.lines content, ¬IsMalformed line) ∧ readLenient content = account) ∧
    (∀ misreading, readStrict content = .error misreading ↔ IsFirst (Text.lines content) misreading) ∧
    readStrict (withoutMalformed content) = .ok (readLenient content) := by
  have known := sound_or_first (Text.lines content)
  constructor
  · intro account
    constructor
    · intro read
      rcases known with sound | ⟨misreading, first⟩
      · exact ⟨sound, Except.ok.inj ((readStrict_sound sound).symm.trans read)⟩
      · cases (readStrict_first first).symm.trans read
    · rintro ⟨sound, rfl⟩
      exact readStrict_sound sound
  · constructor
    · intro misreading
      constructor
      · intro failed
        rcases known with sound | ⟨other, first⟩
        · cases (readStrict_sound sound).symm.trans failed
        · cases (readStrict_first first).symm.trans failed
          exact first
      · exact readStrict_first
    · exact readStrict_withoutMalformed content

-- Two lines are malformed, and the first of them is the second line.
example : readStrict "time:0.042\n  : 7 \nfinished\nexitcode:0\n".toList =
    .error ⟨2, "  : 7 ".toList, "empty key before colon"⟩ := by rfl

end SnippetRunner.Box.Account

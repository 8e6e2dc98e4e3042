import Mathlib.Data.List.Induction
import SnippetRunner.Proofs.Octets

/-!
The first octets of a text, up to a limit. They are read as the longest front of the text that fits, and where the
limit cuts a character in two, the rest of that character is read as one U+FFFD.
-/

namespace SnippetRunner.Utf8

section Fronts

/-- The number of octets a text is written with. -/
def size (text : List Char) : Nat :=
  (write text).length

variable {front other text back : List Char} {c : Char} {limit : Nat}

theorem size_append (front back : List Char) : size (front ++ back) = size front + size back := by
  rw [size, write_append, List.length_append]
  rfl

theorem size_mono (starts : front <+: text) : size front ≤ size text := by
  obtain ⟨back, rfl⟩ := starts
  rw [size_append]
  exact Nat.le_add_right _ _

/-- No front of the text that fits within the limit goes beyond this one. -/
structure IsLongest (limit : Nat) (text front : List Char) : Prop where
  starts : front <+: text
  fits : size front ≤ limit
  longest (other : List Char) : other <+: text → size other ≤ limit → other <+: front

/-- The limit cuts a character of the text in two. -/
def Splits (limit : Nat) (text : List Char) : Prop :=
  ∃ front c back, text = front ++ c :: back ∧ size front < limit ∧ limit < size (front ++ [c])

/-- What is kept of a text of which the first octets are read, up to a limit. -/
inductive Kept (limit : Nat) (text : List Char) : List Char → Prop where
  | whole (fits : size text ≤ limit) : Kept limit text text
  | border (front : List Char) (exceeds : limit < size text) (longest : IsLongest limit text front)
      (between : ¬Splits limit text) : Kept limit text front
  | inside (front : List Char) (exceeds : limit < size text) (longest : IsLongest limit text front)
      (splits : Splits limit text) : Kept limit text (front ++ [replacement])

/-- A text that is too long goes on, after the longest front that fits, with a character that does not. -/
theorem fits_or_exceeds (limit : Nat) (text : List Char) : size text ≤ limit ∨
    ∃ front c back, text = front ++ c :: back ∧ size front ≤ limit ∧ limit < size (front ++ [c]) := by
  induction text using List.reverseRecOn with
  | nil => exact .inl (Nat.zero_le limit)
  | append_singleton front c ih =>
      rcases ih with fits | ⟨before, d, after, rfl, fits, exceeds⟩
      · by_cases exceeds : limit < size (front ++ [c])
        · exact .inr ⟨front, c, [], rfl, fits, exceeds⟩
        · exact .inl (Nat.not_lt.mp exceeds)
      · exact .inr ⟨before, d, after ++ [c], by simp, fits, exceeds⟩

theorem isLongest_of_exceeds (back : List Char) (fits : size front ≤ limit) (exceeds : limit < size (front ++ [c])) :
    IsLongest limit (front ++ c :: back) front where
  starts := List.prefix_append front _
  fits := fits
  longest other starts small := by
    have next : front ++ [c] <+: front ++ c :: back := ⟨back, by simp⟩
    rcases List.prefix_or_prefix_of_prefix starts next with within | beyond
    · rcases List.prefix_concat_iff.mp within with rfl | inner
      · exact absurd small (Nat.not_le.mpr exceeds)
      · exact inner
    · exact absurd (Nat.le_trans (size_mono beyond) small) (Nat.not_le.mpr exceeds)

/-- Only the character after the longest front can be cut in two. -/
theorem splits_iff (fits : size front ≤ limit) (exceeds : limit < size (front ++ [c])) :
    Splits limit (front ++ c :: back) ↔ size front < limit := by
  constructor
  · rintro ⟨before, d, after, whole, small, beyond⟩
    have starts : before ++ [d] <+: front ++ c :: back := ⟨after, by simp [whole]⟩
    rcases List.prefix_or_prefix_of_prefix (List.prefix_append front (c :: back)) starts with within | past
    · rcases List.prefix_concat_iff.mp within with rfl | same
      · exact absurd fits (Nat.not_le.mpr beyond)
      · exact Nat.lt_of_le_of_lt (size_mono same) small
    · exact absurd (Nat.le_trans (size_mono past) fits) (Nat.not_le.mpr beyond)
  · intro small
    exact ⟨front, c, back, rfl, small, exceeds⟩

end Fronts

section Pieces
variable {c : Char}

theorem tails_take (value seen more count : Nat) (rest : Bytes) (known : Nat)
    (read : tails value seen more rest = .char c count) (short : seen + known < count) :
    tails value seen more (rest.take known) = .unfinished (seen + known) := by
  induction more generalizing value seen rest known with
  | zero =>
      rw [tails_done] at read
      cases read
      omega
  | succ more ih =>
      obtain ⟨b, later, rfl, low, high, further⟩ := tails_char read
      have tail : isTail b = true := by
        simp only [isTail, UInt8.le_iff_toNat_le, Bool.and_eq_true, decide_eq_true_eq]
        exact ⟨low, high⟩
      cases known with
      | zero => rfl
      | succ known =>
          have deeper := ih _ _ later known further (by omega)
          rw [List.take_succ_cons, tails, if_pos tail]
          exact deeper.trans (congrArg _ (by omega))

/-- A character that breaks off is not finished. -/
theorem piece_take (lead : UInt8) (rest : Bytes) (count known : Nat) (read : piece lead rest = .char c count)
    (short : known < count) : piece lead (rest.take known) = .unfinished known := by
  unfold piece at read ⊢
  split at read
  case isTrue low =>
    cases read
    omega
  case isFalse high =>
    rw [if_neg high]
    split at read
    case h_1 => cases read
    case h_2 => cases read
    case h_3 least greatest more second after shaped =>
      split at read
      case isFalse => cases read
      case isTrue within =>
        rw [shaped]
        cases known with
        | zero => rfl
        | succ known =>
            rw [List.take_succ_cons]
            simp only [within, if_true]
            rw [tails_take _ 1 _ count after known read (by omega)]
            exact congrArg _ (by omega)

theorem readFrom_char (done : List Char) (c : Char) (rest : Bytes) :
    readFrom done (String.utf8EncodeChar c ++ rest) = readFrom (c :: done) rest := by
  obtain ⟨lead, more, spelled, read⟩ := piece_encode c
  rw [spelled, List.cons_append, readFrom, read]
  simp only [List.drop_left]

theorem readFrom_write (text done : List Char) (rest : Bytes) :
    readFrom done (write text ++ rest) = readFrom (text.reverse ++ done) rest := by
  induction text generalizing done with
  | nil => rfl
  | cons c more ih =>
      have first : write (c :: more) = String.utf8EncodeChar c ++ write more := rfl
      rw [first, List.append_assoc, readFrom_char, ih, List.reverse_cons, List.append_assoc]
      rfl

/-- The front of a character is read as one U+FFFD. -/
theorem readFrom_short (done : List Char) (c : Char) (known : Nat) (some : 0 < known)
    (short : known < (String.utf8EncodeChar c).length) :
    readFrom done ((String.utf8EncodeChar c).take known) = (replacement :: done).reverse := by
  obtain ⟨lead, more, spelled, read⟩ := piece_encode c
  obtain ⟨known, rfl⟩ := Nat.exists_eq_succ_of_ne_zero (Nat.ne_of_gt some)
  have whole := read []
  rw [List.append_nil] at whole
  rw [spelled, List.length_cons] at short
  have length : (more.take known).length = known := List.length_take_of_le (by omega)
  rw [spelled, List.take_succ_cons, readFrom, piece_take lead more more.length known whole (by omega)]
  simp only [List.drop_of_length_le (Nat.le_of_eq length), readFrom]

end Pieces

/-- Of a text that was written, the first octets are read as its longest front that fits, and where the limit is
inside a character, as one U+FFFD after that. -/
theorem kept_of_take (limit : Nat) (text : List Char) : Kept limit text (readLossy ((write text).take limit)) := by
  rcases fits_or_exceeds limit text with fits | ⟨front, c, back, rfl, fits, exceeds⟩
  · have read := readFrom_write text [] []
    rw [List.append_nil, List.append_nil, readFrom, List.reverse_reverse] at read
    rw [List.take_of_length_le fits, readLossy, read]
    exact .whole fits
  · have longest := isLongest_of_exceeds back fits exceeds
    have single : size [c] = (String.utf8EncodeChar c).length := congrArg List.length (List.append_nil _)
    rw [size_append, single] at exceeds
    have beyond : limit < size (front ++ c :: back) := by
      have starts : front ++ [c] <+: front ++ c :: back := ⟨back, by simp⟩
      have more := size_mono starts
      rw [size_append, single] at more
      omega
    have taken : (write (front ++ c :: back)).take limit =
        write front ++ (String.utf8EncodeChar c).take (limit - size front) := by
      have spelled : write (c :: back) = String.utf8EncodeChar c ++ write back := rfl
      rw [write_append, spelled, List.take_append, List.take_of_length_le fits, List.take_append_of_le_length]
      · rfl
      · show limit - size front ≤ _
        omega
    rw [taken, readLossy, readFrom_write, List.append_nil]
    by_cases small : size front < limit
    · rw [readFrom_short _ c _ (by omega) (by omega), List.reverse_cons, List.reverse_reverse]
      exact .inside front beyond longest ⟨front, c, back, rfl, small, by rw [size_append, single]; exact exceeds⟩
    · have none : limit - size front = 0 := by omega
      rw [none, List.take_zero, readFrom, List.reverse_reverse]
      refine .border front beyond longest fun splits => small ?_
      exact (splits_iff fits (by rw [size_append, single]; exact exceeds)).mp splits

-- The limit is inside the second character.
example : readLossy ((write ['a', 'é']).take 2) = ['a', replacement] := by cbv

section Determined
variable {limit : Nat} {text kept other : List Char}

theorem IsLongest.unique {front back : List Char} (one : IsLongest limit text front) (two : IsLongest limit text back) :
    front = back := by
  have within := two.longest front one.starts one.fits
  exact within.eq_of_length_le (one.longest back two.starts two.fits).length_le

/-- What is kept is determined by the text. -/
theorem Kept.unique (one : Kept limit text kept) (two : Kept limit text other) : kept = other := by
  cases one with
  | whole fits =>
      cases two with
      | whole => rfl
      | border _ exceeds => omega
      | inside _ exceeds => omega
  | border _ exceeds longest between =>
      cases two with
      | whole fits => omega
      | border _ _ same => exact longest.unique same
      | inside _ _ _ splits => exact absurd splits between
  | inside front exceeds longest splits =>
      cases two with
      | whole fits => omega
      | border _ _ _ between => exact absurd splits between
      | inside _ _ same => rw [longest.unique same]

end Determined
end SnippetRunner.Utf8

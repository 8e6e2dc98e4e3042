import Mathlib.Data.List.Basic
import SnippetRunner.Text.Utf8

/-!
Characters as octets and back. Octets are read as a text exactly when they were written for it, and the octet of
a line feed is written for a line feed only.
-/

namespace SnippetRunner.Utf8

section Leads

/-- What may follow a lead octet, by the number it stands for. -/
theorem shape_eq (lead : UInt8) : shape lead =
    if 0xc2 ≤ lead.toNat ∧ lead.toNat ≤ 0xdf then some (0x80, 0xbf, 1)
    else if lead.toNat = 0xe0 then some (0xa0, 0xbf, 2)
    else if lead.toNat = 0xed then some (0x80, 0x9f, 2)
    else if 0xe1 ≤ lead.toNat ∧ lead.toNat ≤ 0xef then some (0x80, 0xbf, 2)
    else if lead.toNat = 0xf0 then some (0x90, 0xbf, 3)
    else if 0xf1 ≤ lead.toNat ∧ lead.toNat ≤ 0xf3 then some (0x80, 0xbf, 3)
    else if lead.toNat = 0xf4 then some (0x80, 0x8f, 3)
    else none := by
  have same (other : UInt8) : (lead == other) = decide (lead.toNat = other.toNat) := by
    rw [beq_eq_decide, decide_eq_decide, UInt8.toNat_inj]
  simp [shape, same, UInt8.le_iff_toNat_le]

theorem toNat_octet (n : Nat) (small : n < 256) : (UInt8.ofNat n).toNat = n := by
  rw [UInt8.toNat_ofNat', Nat.mod_eq_of_lt small]

theorem tails_done (value seen : Nat) (rest : Bytes) : tails value seen 0 rest = .char (Char.ofNat value) seen := by
  cases rest <;> rfl

theorem isTail_octet (n : Nat) (small : n < 64) : isTail (UInt8.ofNat (n + 128)) = true := by
  simp only [isTail, UInt8.le_iff_toNat_le, toNat_octet (n + 128) (by omega), Bool.and_eq_true, decide_eq_true_eq]
  exact ⟨by show 128 ≤ n + 128; omega, by show n + 128 ≤ 191; omega⟩

theorem payload_octet (n : Nat) (small : n < 64) : payload (UInt8.ofNat (n + 128)) = n := by
  rw [payload, toNat_octet (n + 128) (by omega)]
  omega

theorem tails_octet (value seen more n : Nat) (small : n < 64) (rest : Bytes) :
    tails value seen (more + 1) (UInt8.ofNat (n + 128) :: rest) = tails (value * 64 + n) (seen + 1) more rest := by
  rw [tails, if_pos (isTail_octet n small), payload_octet n small]

theorem piece_shaped (lead : UInt8) (low high : UInt8) (more n : Nat) (rest : Bytes) (small : n < 64)
    (shaped : shape lead = some (low, high, more)) (beyond : 0x80 ≤ lead.toNat) (least : low.toNat ≤ n + 128)
    (greatest : n + 128 ≤ high.toNat) : piece lead (UInt8.ofNat (n + 128) :: rest) =
      tails ((lead.toNat % Nat.pow 2 (6 - more)) * 64 + n) 1 (more - 1) rest := by
  have wide : ¬ lead < 0x80 := by
    rw [UInt8.lt_iff_toNat_lt]
    exact Nat.not_lt.mpr beyond
  have within : (low ≤ UInt8.ofNat (n + 128) && UInt8.ofNat (n + 128) ≤ high) = true := by
    simp only [UInt8.le_iff_toNat_le, toNat_octet (n + 128) (by omega), Bool.and_eq_true, decide_eq_true_eq]
    exact ⟨least, greatest⟩
  unfold piece
  rw [if_neg wide, shaped]
  simp only [within, if_true, payload_octet n small]

end Leads

section Characters
variable {c : Char} (rest : Bytes)

theorem piece_one (small : c.toNat ≤ 0x7f) : piece (UInt8.ofNat c.toNat) rest = .char c 0 := by
  have number := toNat_octet c.toNat (by omega)
  have low : UInt8.ofNat c.toNat < 0x80 := by
    rw [UInt8.lt_iff_toNat_lt, number]
    exact Nat.lt_succ_of_le small
  unfold piece
  rw [if_pos low, number, Char.ofNat_toNat]

theorem piece_two (least : 0x7f < c.toNat) (greatest : c.toNat ≤ 0x7ff) :
    piece (UInt8.ofNat (c.toNat / 64 % 32 + 192)) (UInt8.ofNat (c.toNat % 64 + 128) :: rest) = .char c 1 := by
  have number := toNat_octet (c.toNat / 64 % 32 + 192) (by omega)
  have shaped : shape (UInt8.ofNat (c.toNat / 64 % 32 + 192)) = some (0x80, 0xbf, 1) := by
    rw [shape_eq, number, if_pos (by omega)]
  have whole : (c.toNat / 64 % 32 + 192) % Nat.pow 2 (6 - 1) * 64 + c.toNat % 64 = c.toNat := by
    show (c.toNat / 64 % 32 + 192) % 32 * 64 + c.toNat % 64 = c.toNat
    omega
  rw [piece_shaped _ _ _ _ _ _ (by omega) shaped (by omega) (by show 128 ≤ _; omega) (by show _ ≤ 191; omega),
    number, whole, tails_done, Char.ofNat_toNat]

/-- A character of 32 bits is no half of a pair. -/
theorem apart_from_pairs (c : Char) : c.toNat < 0xd800 ∨ 0xdfff < c.toNat := by
  rcases c.valid with low | ⟨high, _⟩
  · exact .inl low
  · exact .inr high

theorem piece_three (least : 0x7ff < c.toNat) (greatest : c.toNat ≤ 0xffff) :
    piece (UInt8.ofNat (c.toNat / 4096 % 16 + 224))
      (UInt8.ofNat (c.toNat / 64 % 64 + 128) :: UInt8.ofNat (c.toNat % 64 + 128) :: rest) = .char c 2 := by
  have number := toNat_octet (c.toNat / 4096 % 16 + 224) (by omega)
  have whole : ((c.toNat / 4096 % 16 + 224) % Nat.pow 2 (6 - 2) * 64 + c.toNat / 64 % 64) * 64 + c.toNat % 64 =
      c.toNat := by
    show ((c.toNat / 4096 % 16 + 224) % 16 * 64 + c.toNat / 64 % 64) * 64 + c.toNat % 64 = c.toNat
    omega
  have read (low high : UInt8)
      (shaped : shape (UInt8.ofNat (c.toNat / 4096 % 16 + 224)) = some (low, high, 2))
      (first : low.toNat ≤ c.toNat / 64 % 64 + 128) (last : c.toNat / 64 % 64 + 128 ≤ high.toNat) :
      piece (UInt8.ofNat (c.toNat / 4096 % 16 + 224))
        (UInt8.ofNat (c.toNat / 64 % 64 + 128) :: UInt8.ofNat (c.toNat % 64 + 128) :: rest) = .char c 2 := by
    rw [piece_shaped _ _ _ _ _ _ (by omega) shaped (by omega) first last, number,
      tails_octet _ _ _ _ (by omega), whole, tails_done, Char.ofNat_toNat]
  have apart := apart_from_pairs c
  -- the first and the last lead of a pair's half allow fewer second octets
  by_cases first : c.toNat < 0x1000
  · refine read 0xa0 0xbf ?_ (by show 160 ≤ _; omega) (by show _ ≤ 191; omega)
    rw [shape_eq, number, if_neg (by omega), if_pos (by omega)]
  · by_cases below : 0xd000 ≤ c.toNat ∧ c.toNat < 0xd800
    · refine read 0x80 0x9f ?_ (by show 128 ≤ _; omega) (by show _ ≤ 159; omega)
      rw [shape_eq, number, if_neg (by omega), if_neg (by omega), if_pos (by omega)]
    · refine read 0x80 0xbf ?_ (by show 128 ≤ _; omega) (by show _ ≤ 191; omega)
      rw [shape_eq, number, if_neg (by omega), if_neg (by omega), if_neg (by omega), if_pos (by omega)]

theorem piece_four (least : 0xffff < c.toNat) :
    piece (UInt8.ofNat (c.toNat / 262144 % 8 + 240))
      (UInt8.ofNat (c.toNat / 4096 % 64 + 128) :: UInt8.ofNat (c.toNat / 64 % 64 + 128) ::
        UInt8.ofNat (c.toNat % 64 + 128) :: rest) = .char c 3 := by
  have greatest : c.toNat < 0x110000 := by
    rcases c.valid with low | ⟨_, high⟩
    · exact Nat.lt_trans low (by decide)
    · exact high
  have number := toNat_octet (c.toNat / 262144 % 8 + 240) (by omega)
  have whole : (((c.toNat / 262144 % 8 + 240) % Nat.pow 2 (6 - 3) * 64 + c.toNat / 4096 % 64) * 64 +
      c.toNat / 64 % 64) * 64 + c.toNat % 64 = c.toNat := by
    show (((c.toNat / 262144 % 8 + 240) % 8 * 64 + c.toNat / 4096 % 64) * 64 +
      c.toNat / 64 % 64) * 64 + c.toNat % 64 = c.toNat
    omega
  have read (low high : UInt8)
      (shaped : shape (UInt8.ofNat (c.toNat / 262144 % 8 + 240)) = some (low, high, 3))
      (first : low.toNat ≤ c.toNat / 4096 % 64 + 128) (last : c.toNat / 4096 % 64 + 128 ≤ high.toNat) :
      piece (UInt8.ofNat (c.toNat / 262144 % 8 + 240))
        (UInt8.ofNat (c.toNat / 4096 % 64 + 128) :: UInt8.ofNat (c.toNat / 64 % 64 + 128) ::
          UInt8.ofNat (c.toNat % 64 + 128) :: rest) = .char c 3 := by
    rw [piece_shaped _ _ _ _ _ _ (by omega) shaped (by omega) first last, number,
      tails_octet _ _ _ _ (by omega), tails_octet _ _ _ _ (by omega), whole, tails_done, Char.ofNat_toNat]
  by_cases first : c.toNat < 0x40000
  · refine read 0x90 0xbf ?_ (by show 144 ≤ _; omega) (by show _ ≤ 191; omega)
    rw [shape_eq, number, if_neg (by omega), if_neg (by omega), if_neg (by omega), if_neg (by omega),
      if_pos (by omega)]
  · by_cases last : c.toNat < 0x100000
    · refine read 0x80 0xbf ?_ (by show 128 ≤ _; omega) (by show _ ≤ 191; omega)
      rw [shape_eq, number, if_neg (by omega), if_neg (by omega), if_neg (by omega), if_neg (by omega),
        if_neg (by omega), if_pos (by omega)]
    · refine read 0x80 0x8f ?_ (by show 128 ≤ _; omega) (by show _ ≤ 143; omega)
      rw [shape_eq, number, if_neg (by omega), if_neg (by omega), if_neg (by omega), if_neg (by omega),
        if_neg (by omega), if_neg (by omega), if_pos (by omega)]

/-- The octets of a character are read as that character, whatever follows. -/
theorem piece_encode (c : Char) : ∃ lead more, String.utf8EncodeChar c = lead :: more ∧
    ∀ rest, piece lead (more ++ rest) = .char c more.length := by
  by_cases one : c.toNat ≤ 0x7f
  · exact ⟨_, [], String.utf8EncodeChar.eq_def c |>.trans (if_pos one), fun rest => piece_one rest one⟩
  · by_cases two : c.toNat ≤ 0x7ff
    · exact ⟨_, [_], String.utf8EncodeChar.eq_def c |>.trans ((if_neg one).trans (if_pos two)), fun rest =>
        piece_two rest (by omega) two⟩
    · by_cases three : c.toNat ≤ 0xffff
      · exact ⟨_, [_, _], String.utf8EncodeChar.eq_def c |>.trans ((if_neg one).trans ((if_neg two).trans
          (if_pos three))), fun rest => piece_three rest (by omega) three⟩
      · exact ⟨_, [_, _, _], String.utf8EncodeChar.eq_def c |>.trans ((if_neg one).trans ((if_neg two).trans
          (if_neg three))), fun rest => piece_four rest (by omega)⟩

/-- Beyond the first 128 characters every octet of a character has its high bit. -/
theorem high_octets (c : Char) (beyond : 0x7f < c.toNat) (b : UInt8) (member : b ∈ String.utf8EncodeChar c) :
    0x80 ≤ b.toNat := by
  have high (n : Nat) (least : 128 ≤ n) (greatest : n < 256) : 0x80 ≤ (UInt8.ofNat n).toNat := by
    rwa [toNat_octet n greatest]
  have one : ¬ c.toNat ≤ 0x7f := Nat.not_le.mpr beyond
  rw [String.utf8EncodeChar.eq_def] at member
  simp only [show c.val.toNat = c.toNat from rfl, if_neg one] at member
  split at member
  · simp only [List.mem_cons, List.not_mem_nil, or_false] at member
    rcases member with rfl | rfl <;> exact high _ (by omega) (by omega)
  · split at member
    · simp only [List.mem_cons, List.not_mem_nil, or_false] at member
      rcases member with rfl | rfl | rfl <;> exact high _ (by omega) (by omega)
    · simp only [List.mem_cons, List.not_mem_nil, or_false] at member
      rcases member with rfl | rfl | rfl | rfl <;> exact high _ (by omega) (by omega)

/-- The octet of a line feed belongs to no other character. -/
theorem feed_of_encode (c : Char) (member : 0x0a ∈ String.utf8EncodeChar c) : c = '\n' := by
  by_cases beyond : 0x7f < c.toNat
  · exact absurd (high_octets c beyond 0x0a member) (by decide)
  · have small : c.toNat ≤ 0x7f := by omega
    have single : String.utf8EncodeChar c = [UInt8.ofNat c.toNat] :=
      (String.utf8EncodeChar.eq_def c).trans (if_pos small)
    rw [single, List.mem_singleton] at member
    have number := congrArg UInt8.toNat member
    rw [toNat_octet c.toNat (by omega)] at number
    exact Char.toNat_inj.mp number.symm

end Characters

section Texts

theorem feed_not_mem_write (text : List Char) (plain : '\n' ∉ text) : 0x0a ∉ write text := by
  intro member
  obtain ⟨c, here, octet⟩ := List.mem_flatMap.mp member
  exact plain (feed_of_encode c octet ▸ here)

theorem write_append (front back : List Char) : write (front ++ back) = write front ++ write back :=
  List.flatMap_append

theorem write_feed (text : List Char) : write ('\n' :: text) = 0x0a :: write text := rfl

theorem readStrictFrom_char (done : List Char) (index : Nat) (c : Char) (rest : Bytes) :
    readStrictFrom done index (String.utf8EncodeChar c ++ rest) =
      readStrictFrom (c :: done) (index + (String.utf8EncodeChar c).length) rest := by
  obtain ⟨lead, more, spelled, read⟩ := piece_encode c
  rw [spelled, List.cons_append, readStrictFrom, read]
  simp only [List.drop_left, List.length_cons, Nat.add_assoc]

theorem readStrictFrom_write (text done : List Char) (index : Nat) :
    readStrictFrom done index (write text) = .ok (done.reverse ++ text) := by
  induction text generalizing done index with
  | nil => simp [write, readStrictFrom]
  | cons c rest ih =>
      have first : write (c :: rest) = String.utf8EncodeChar c ++ write rest := rfl
      rw [first, readStrictFrom_char, ih]
      simp

/-- What was written for a text is read as that text. -/
theorem readStrict_write (text : List Char) : readStrict (write text) = .ok text :=
  readStrictFrom_write text [] 0

end Texts

/-! Nothing else is read as a text: no octets but a character's own are read as that character. -/
section Converse

theorem encode_ofNat (n : Nat) (valid : n.isValidChar) : String.utf8EncodeChar (Char.ofNat n) =
    if n ≤ 0x7f then [UInt8.ofNat n]
    else if n ≤ 0x7ff then [UInt8.ofNat (n / 64 % 32 + 192), UInt8.ofNat (n % 64 + 128)]
    else if n ≤ 0xffff then
      [UInt8.ofNat (n / 4096 % 16 + 224), UInt8.ofNat (n / 64 % 64 + 128), UInt8.ofNat (n % 64 + 128)]
    else
      [UInt8.ofNat (n / 262144 % 8 + 240), UInt8.ofNat (n / 4096 % 64 + 128), UInt8.ofNat (n / 64 % 64 + 128),
        UInt8.ofNat (n % 64 + 128)] := by
  have number : (Char.ofNat n).val.toNat = n := by
    rw [Char.ofNat, dif_pos valid]
    rfl
  rw [String.utf8EncodeChar.eq_def, number]

theorem octet_toNat (b : UInt8) (n : Nat) (same : n = b.toNat) : UInt8.ofNat n = b := by
  rw [same, UInt8.ofNat_toNat]

/-- The lead octets there are, and what each of them allows. -/
theorem shape_cases {lead low high : UInt8} {more : Nat} (shaped : shape lead = some (low, high, more)) :
    (more = 1 ∧ 0xc2 ≤ lead.toNat ∧ lead.toNat ≤ 0xdf ∧ 0x80 ≤ low.toNat ∧ high.toNat ≤ 0xbf) ∨
    (more = 2 ∧ 0xe0 ≤ lead.toNat ∧ lead.toNat ≤ 0xef ∧ 0x80 ≤ low.toNat ∧ high.toNat ≤ 0xbf ∧
      (lead.toNat ≠ 0xe0 ∨ 0xa0 ≤ low.toNat) ∧ (lead.toNat ≠ 0xed ∨ high.toNat ≤ 0x9f)) ∨
    (more = 3 ∧ 0xf0 ≤ lead.toNat ∧ lead.toNat ≤ 0xf4 ∧ 0x80 ≤ low.toNat ∧ high.toNat ≤ 0xbf ∧
      (lead.toNat ≠ 0xf0 ∨ 0x90 ≤ low.toNat) ∧ (lead.toNat ≠ 0xf4 ∨ high.toNat ≤ 0x8f)) := by
  have lowest : UInt8.toNat 0x80 = 0x80 := rfl
  have highest : UInt8.toNat 0xbf = 0xbf := rfl
  rw [shape_eq] at shaped
  split at shaped
  · cases shaped
    omega
  split at shaped
  · have second : UInt8.toNat 0xa0 = 0xa0 := rfl
    cases shaped
    omega
  split at shaped
  · have second : UInt8.toNat 0x9f = 0x9f := rfl
    cases shaped
    omega
  split at shaped
  · cases shaped
    omega
  split at shaped
  · have second : UInt8.toNat 0x90 = 0x90 := rfl
    cases shaped
    omega
  split at shaped
  · cases shaped
    omega
  split at shaped
  · have second : UInt8.toNat 0x8f = 0x8f := rfl
    cases shaped
    omega
  · cases shaped

theorem tails_char {value seen more count : Nat} {rest : Bytes} {c : Char}
    (read : tails value seen (more + 1) rest = .char c count) :
    ∃ b later, rest = b :: later ∧ 0x80 ≤ b.toNat ∧ b.toNat ≤ 0xbf ∧
      tails (value * 64 + b.toNat % 64) (seen + 1) more later = .char c count := by
  cases rest with
  | nil => cases read
  | cons b later =>
      rw [tails] at read
      split at read
      case isTrue tail =>
        simp only [isTail, UInt8.le_iff_toNat_le, Bool.and_eq_true, decide_eq_true_eq] at tail
        exact ⟨b, later, rfl, tail.1, tail.2, read⟩
      case isFalse => cases read

theorem encode_two (a b : UInt8) (least : 0xc2 ≤ a.toNat) (greatest : a.toNat ≤ 0xdf) (low : 0x80 ≤ b.toNat)
    (high : b.toNat ≤ 0xbf) : String.utf8EncodeChar (Char.ofNat (a.toNat % 32 * 64 + b.toNat % 64)) = [a, b] := by
  rw [encode_ofNat _ (.inl (by omega)), if_neg (by omega), if_pos (by omega), octet_toNat a _ (by omega),
    octet_toNat b _ (by omega)]

theorem encode_three (a b c : UInt8) (least : 0xe0 ≤ a.toNat) (greatest : a.toNat ≤ 0xef) (low : 0x80 ≤ b.toNat)
    (high : b.toNat ≤ 0xbf) (first : a.toNat = 0xe0 → 0xa0 ≤ b.toNat) (pairs : a.toNat = 0xed → b.toNat ≤ 0x9f)
    (lowest : 0x80 ≤ c.toNat) (highest : c.toNat ≤ 0xbf) :
    String.utf8EncodeChar (Char.ofNat ((a.toNat % 16 * 64 + b.toNat % 64) * 64 + c.toNat % 64)) = [a, b, c] := by
  have apart : (a.toNat % 16 * 64 + b.toNat % 64) * 64 + c.toNat % 64 < 0xd800 ∨
      0xdfff < (a.toNat % 16 * 64 + b.toNat % 64) * 64 + c.toNat % 64 := by omega
  rw [encode_ofNat _ (apart.imp id fun above => ⟨above, by omega⟩), if_neg (by omega), if_neg (by omega),
    if_pos (by omega), octet_toNat a _ (by omega), octet_toNat b _ (by omega), octet_toNat c _ (by omega)]

theorem encode_four (a b c d : UInt8) (least : 0xf0 ≤ a.toNat) (greatest : a.toNat ≤ 0xf4) (low : 0x80 ≤ b.toNat)
    (high : b.toNat ≤ 0xbf) (first : a.toNat = 0xf0 → 0x90 ≤ b.toNat) (last : a.toNat = 0xf4 → b.toNat ≤ 0x8f)
    (lowC : 0x80 ≤ c.toNat) (highC : c.toNat ≤ 0xbf) (lowD : 0x80 ≤ d.toNat) (highD : d.toNat ≤ 0xbf) :
    String.utf8EncodeChar
        (Char.ofNat (((a.toNat % 8 * 64 + b.toNat % 64) * 64 + c.toNat % 64) * 64 + d.toNat % 64)) = [a, b, c, d] := by
  rw [encode_ofNat _ (.inr ⟨by omega, by omega⟩), if_neg (by omega), if_neg (by omega), if_neg (by omega),
    octet_toNat a _ (by omega), octet_toNat b _ (by omega), octet_toNat c _ (by omega), octet_toNat d _ (by omega)]

/-- A character is read from its own octets only. -/
theorem encode_of_piece {lead : UInt8} {rest : Bytes} {c : Char} {more : Nat} (read : piece lead rest = .char c more) :
    String.utf8EncodeChar c ++ rest.drop more = lead :: rest := by
  unfold piece at read
  split at read
  case isTrue low =>
    cases read
    have small : lead.toNat < 0x80 := UInt8.lt_iff_toNat_lt.mp low
    rw [encode_ofNat _ (.inl (by omega)), if_pos (by omega), UInt8.ofNat_toNat]
    rfl
  case isFalse =>
    split at read
    case h_1 => cases read
    case h_2 => cases read
    case h_3 low high count second after shaped =>
      split at read
      case isFalse => cases read
      case isTrue within =>
        simp only [UInt8.le_iff_toNat_le, Bool.and_eq_true, decide_eq_true_eq] at within
        obtain ⟨least, greatest⟩ := within
        rcases shape_cases shaped with ⟨rfl, one⟩ | ⟨rfl, two⟩ | ⟨rfl, three⟩
        · rw [tails_done] at read
          cases read
          exact congrArg (· ++ after) (encode_two lead second (by omega) (by omega) (by omega) (by omega))
        · obtain ⟨third, later, rfl, lowest, highest, final⟩ := tails_char read
          rw [tails_done] at final
          cases final
          exact congrArg (· ++ later) (encode_three lead second third (by omega) (by omega) (by omega) (by omega)
            (by omega) (by omega) lowest highest)
        · obtain ⟨third, later, rfl, lowC, highC, final⟩ := tails_char read
          obtain ⟨fourth, later, rfl, lowD, highD, final⟩ := tails_char final
          rw [tails_done] at final
          cases final
          exact congrArg (· ++ later) (encode_four lead second third fourth (by omega) (by omega) (by omega) (by omega)
            (by omega) (by omega) lowC highC lowD highD)

theorem write_of_readStrictFrom (octets : Bytes) (done text : List Char) (index : Nat)
    (read : readStrictFrom done index octets = .ok text) : write text = write done.reverse ++ octets := by
  induction done, index, octets using readStrictFrom.induct with
  | case1 done index =>
      rw [readStrictFrom] at read
      cases read
      exact (List.append_nil _).symm
  | case2 done index lead rest c more piece ih =>
      rw [readStrictFrom, piece] at read
      rw [ih read, List.reverse_cons, write_append, List.append_assoc]
      refine congrArg (write done.reverse ++ ·) (Eq.trans ?_ (encode_of_piece piece))
      simp [write]
  | case3 done index lead rest more piece =>
      rw [readStrictFrom, piece] at read
      cases read
  | case4 done index lead rest more piece =>
      rw [readStrictFrom, piece] at read
      cases read

/-- Octets are read as a text exactly when they are what is written for it. -/
theorem readStrict_iff (octets : Bytes) (text : List Char) : readStrict octets = .ok text ↔ octets = write text := by
  constructor
  · intro read
    exact (write_of_readStrictFrom octets [] text 0 read).symm
  · rintro rfl
    exact readStrict_write text

/-- The octets are those of a text. -/
def IsText (octets : Bytes) : Prop :=
  ∃ text, octets = write text

theorem isText_iff (octets : Bytes) : IsText octets ↔ ∃ text, readStrict octets = .ok text :=
  exists_congr fun text => (readStrict_iff octets text).symm

theorem isText_flatten (pieces : List Bytes) (each : ∀ octets ∈ pieces, IsText octets) : IsText pieces.flatten := by
  induction pieces with
  | nil => exact ⟨[], rfl⟩
  | cons octets rest ih =>
      obtain ⟨first, rfl⟩ := each octets List.mem_cons_self
      obtain ⟨others, later⟩ := ih fun other member => each other (List.mem_cons_of_mem _ member)
      exact ⟨first ++ others, by rw [List.flatten_cons, later, write_append]⟩

/-- A line feed at the end does not matter to whether octets are a text. -/
theorem isText_ended (octets : Bytes) : IsText (octets ++ [0x0a]) ↔ IsText octets := by
  constructor
  · rintro ⟨text, same⟩
    rcases List.eq_nil_or_concat text with rfl | ⟨front, c, rfl⟩
    · cases List.append_eq_nil_iff.mp same |>.2
    · have single : write [c] = String.utf8EncodeChar c := List.append_nil _
      rw [List.concat_eq_append, write_append, single] at same
      obtain ⟨lead, more, spelled, _⟩ := piece_encode c
      -- the last octet is one of the last character's
      have last := congrArg List.getLast? same
      rw [List.getLast?_append_of_ne_nil _ (List.cons_ne_nil 0x0a []), spelled,
        List.getLast?_append_of_ne_nil _ (List.cons_ne_nil lead more), ← spelled] at last
      cases feed_of_encode c (List.mem_of_getLast? last.symm)
      exact ⟨front, (List.append_inj' same rfl).1⟩
  · rintro ⟨text, rfl⟩
    exact ⟨text ++ ['\n'], by rw [write_append, write_feed]; rfl⟩

end Converse

section Strings

theorem toList_loop (octets : ByteArray) (index : Nat) (done : Bytes) :
    ByteArray.toList.loop octets index done = done.reverse ++ octets.data.toList.drop index := by
  fun_induction ByteArray.toList.loop octets index done with
  | case1 index done more ih =>
      have here : octets.data.toList.drop index = octets.get! index :: octets.data.toList.drop (index + 1) := by
        rw [List.drop_eq_getElem_cons (by simpa using more)]
        simp [ByteArray.get!, more]
      rw [ih, here, List.reverse_cons, List.append_assoc]
      rfl
  | case2 index done last =>
      have passed : octets.data.toList.drop index = [] := List.drop_eq_nil_of_le (by simpa using last)
      rw [passed, List.append_nil]

theorem ofString_eq (text : String) : ofString text = write text.toList := by
  have whole : text.toUTF8 = (write text.toList).toByteArray := by
    conv_lhs => rw [← @String.ofList_toList text]
    exact String.toByteArray_ofList
  rw [ofString, whole, ByteArray.toList, toList_loop, List.drop_zero, List.toList_data_toByteArray]
  rfl

theorem readStrict_ofString (text : String) : readStrict (ofString text) = .ok text.toList := by
  rw [ofString_eq, readStrict_write]

end Strings
end SnippetRunner.Utf8

import Mathlib.Data.List.Induction
import SnippetRunner.Proofs.AccountReadings

/-!
Accounts as they are written. A trimmed key and a trimmed value on a line of their own are read back as they are, and
of a key that stands several times the last value counts; what is read after a line feed overrides what is read before.
-/

namespace SnippetRunner

namespace Text

section Trimming
variable {c : Char}

theorem trim_cons (blank : isBlank c = true) (text : List Char) : trim (c :: text) = trim text := by
  rw [trim, trimStart, List.dropWhile_cons_of_pos blank]
  rfl

theorem trimEnd_concat (blank : isBlank c = true) (text : List Char) : trimEnd (text ++ [c]) = trimEnd text := by
  rw [trimEnd, List.reverse_append, List.reverse_singleton, List.singleton_append, List.dropWhile_cons_of_pos blank]
  rfl

theorem trim_concat (blank : isBlank c = true) (text : List Char) : trim (text ++ [c]) = trim text := by
  rw [trim, trimStart, List.dropWhile_append]
  split
  · next empty =>
      rw [trim, trimStart, List.isEmpty_iff.mp empty, List.dropWhile_cons_of_pos blank]
      rfl
  · exact trimEnd_concat blank _

theorem length_trim_le (text : List Char) : (trim text).length ≤ text.length := by
  have back := (List.dropWhile_sublist isBlank (l := (trimStart text).reverse)).length_le
  have front := (List.dropWhile_sublist isBlank (l := text)).length_le
  rw [List.length_reverse] at back
  rw [trim, trimEnd, List.length_reverse]
  exact Nat.le_trans back front

/-- A text is trimmed when there is no white space at either end. -/
theorem trim_eq_self_iff (text : List Char) : trim text = text ↔
    (∀ c rest, text = c :: rest → isBlank c = false) ∧ ∀ front c, text = front ++ [c] → isBlank c = false := by
  constructor
  · intro trimmed
    constructor
    · rintro c rest rfl
      cases blank : isBlank c with
      | false => rfl
      | true =>
          have shorter := length_trim_le rest
          rw [← trim_cons blank rest, trimmed, List.length_cons] at shorter
          exact absurd shorter (Nat.not_succ_le_self _)
    · rintro front c rfl
      cases blank : isBlank c with
      | false => rfl
      | true =>
          have shorter := length_trim_le front
          rw [← trim_concat blank front, trimmed, List.length_append, List.length_singleton] at shorter
          exact absurd shorter (Nat.not_succ_le_self _)
  · rintro ⟨first, last⟩
    have front : trimStart text = text := by
      cases text with
      | nil => rfl
      | cons c rest => exact List.dropWhile_cons_of_neg (by simp [first c rest rfl])
    have back : trimEnd text = text := by
      cases ends : text.getLast? with
      | none =>
          rw [List.getLast?_eq_none_iff.mp ends]
          rfl
      | some c =>
          obtain ⟨before, rfl⟩ := List.getLast?_eq_some_iff.mp ends
          have solid : ¬isBlank c = true := by simp [last before c rfl]
          rw [trimEnd, List.reverse_append, List.reverse_singleton, List.singleton_append,
            List.dropWhile_cons_of_neg solid, List.reverse_cons, List.reverse_reverse]
    rw [trim, front, back]

theorem trim_dropReturn (line : List Char) : trim (dropReturn line) = trim line := by
  unfold dropReturn
  split
  · next ends =>
      obtain ⟨front, rfl⟩ := List.getLast?_eq_some_iff.mp (beq_iff_eq.mp ends)
      rw [List.dropLast_concat, trim_concat rfl]
  · rfl

end Trimming
end Text

namespace Box.Account

section Maps
variable {entries : List (List Char × List Char)} {account : Account} {key value other : List Char}

/-- The entries stand in the order of their keys, each key once. -/
def Ordered (account : Account) : Prop :=
  account.entries.Pairwise fun one next => one.1 < next.1

theorem find_putIn (key value other : List Char) (entries : List (List Char × List Char)) :
    (putIn key value entries).find? (fun entry => entry.1 == other) =
      if key = other then some (key, value) else entries.find? fun entry => entry.1 == other := by
  induction entries with
  | nil => by_cases same : key = other <;> simp [putIn, same]
  | cons entry rest ih =>
      obtain ⟨first, held⟩ := entry
      unfold putIn
      by_cases here : key = first
      · by_cases same : key = other
        · simp [here, ← same]
        · simp [here, here ▸ same]
      · by_cases before : key < first
        · rw [if_neg here, if_pos before, List.find?_cons]
          by_cases same : key = other
          · simp [same]
          · have passed : (key == other) = false := by simpa using same
            rw [passed, if_neg same]
        · rw [if_neg here, if_neg before, List.find?_cons, List.find?_cons, ih]
          by_cases same : key = other
          · have passed : (first == other) = false := by simp [← same, Ne.symm here]
            simp [same, passed]
          · simp [same]

theorem find_put (account : Account) (key value other : List Char) :
    (account.put key value).find? other = if key = other then some value else account.find? other := by
  rw [find?, put, find_putIn]
  by_cases same : key = other <;> simp [same, find?]

theorem mem_putIn {entry : List Char × List Char} (member : entry ∈ putIn key value entries) :
    entry = (key, value) ∨ entry ∈ entries := by
  induction entries with
  | nil => exact .inl (List.mem_singleton.mp member)
  | cons first rest ih =>
      obtain ⟨name, held⟩ := first
      unfold putIn at member
      split at member
      · rcases List.mem_cons.mp member with here | later
        · exact .inl here
        · exact .inr (List.mem_cons_of_mem _ later)
      · split at member
        · exact List.mem_cons.mp member
        · rcases List.mem_cons.mp member with here | later
          · exact .inr (here ▸ List.mem_cons_self)
          · rcases ih later with here | there
            · exact .inl here
            · exact .inr (List.mem_cons_of_mem _ there)

theorem lt_of_not_lt (notBefore : ¬key < other) (different : key ≠ other) : other < key := by
  by_cases after : other < key
  · exact after
  · exact absurd (List.le_antisymm (List.not_lt.mp after) (List.not_lt.mp notBefore)) different

theorem ordered_put (ordered : Ordered account) (key value : List Char) : Ordered (account.put key value) := by
  obtain ⟨entries⟩ := account
  unfold Ordered put at *
  dsimp only at ordered ⊢
  induction entries with
  | nil => exact List.pairwise_singleton _ _
  | cons first rest ih =>
      obtain ⟨name, held⟩ := first
      obtain ⟨above, ordered⟩ := List.pairwise_cons.mp ordered
      unfold putIn
      split
      · next same =>
          rw [same]
          exact List.pairwise_cons.mpr ⟨above, ordered⟩
      · split
        · next before =>
            refine List.pairwise_cons.mpr ⟨fun entry member => ?_, List.pairwise_cons.mpr ⟨above, ordered⟩⟩
            rcases List.mem_cons.mp member with rfl | later
            · exact before
            · exact List.lt_trans before (above entry later)
        · next different notBefore =>
            refine List.pairwise_cons.mpr ⟨fun entry member => ?_, ih ordered⟩
            rcases mem_putIn member with rfl | later
            · exact lt_of_not_lt notBefore different
            · exact above entry later

/-- What is found under a key is what stands with it. -/
theorem find_some_iff (ordered : Ordered account) (key value : List Char) :
    account.find? key = some value ↔ (key, value) ∈ account.entries := by
  obtain ⟨entries⟩ := account
  unfold Ordered find? at *
  dsimp only at ordered ⊢
  induction entries with
  | nil => simp
  | cons first rest ih =>
      obtain ⟨name, held⟩ := first
      obtain ⟨above, ordered⟩ := List.pairwise_cons.mp ordered
      by_cases here : name = key
      · have absent : (key, value) ∉ rest := fun later => List.lt_irrefl key (here ▸ above _ later)
        simp [here, absent, eq_comm]
      · have passed : (name == key) = false := by simpa using here
        rw [List.find?_cons, passed, List.mem_cons]
        simp [ih ordered, Ne.symm here]

end Maps

section Lines
variable {line : List Char}

theorem addLine_dropReturn (account : Account) (line : List Char) :
    account.addLine (Text.dropReturn line) = account.addLine line := by
  rw [addLine, addLine, Text.trim_dropReturn]

theorem isMalformed_dropReturn_iff (line : List Char) : IsMalformed (Text.dropReturn line) ↔ IsMalformed line := by
  rw [IsMalformed, IsMalformed, Text.trim_dropReturn]

theorem not_isMalformed_nil : ¬IsMalformed [] := fun wrong => wrong.1 Text.trim_nil

theorem ordered_addLine {account : Account} (ordered : Ordered account) (line : List Char) :
    Ordered (account.addLine line) := by
  rw [addLine_eq]
  cases Line.read line with
  | entry key value => exact ordered_put ordered key value
  | blank => exact ordered
  | malformed => exact ordered

theorem ordered_foldl (lines : List (List Char)) {account : Account} (ordered : Ordered account) :
    Ordered (lines.foldl addLine account) := by
  induction lines generalizing account with
  | nil => exact ordered
  | cons line rest ih => exact ih (ordered_addLine ordered line)

theorem ordered_readLenient (content : List Char) : Ordered (readLenient content) :=
  ordered_foldl (Text.lines content) List.Pairwise.nil

theorem find_addLine (account : Account) (line key : List Char) :
    (account.addLine line).find? key = ((empty.addLine line).find? key).or (account.find? key) := by
  rw [addLine_eq, addLine_eq]
  cases Line.read line with
  | entry name value =>
      have none : empty.find? key = none := rfl
      rw [add, add, find_put, find_put, none]
      by_cases here : name = key <;> simp [here]
  | blank => rfl
  | malformed => rfl

/-- What later lines say overrides what the account said before. -/
theorem find_foldl (lines : List (List Char)) (account : Account) (key : List Char) :
    (lines.foldl addLine account).find? key = ((lines.foldl addLine empty).find? key).or (account.find? key) := by
  induction lines generalizing account with
  | nil => rfl
  | cons line rest ih =>
      rw [List.foldl_cons, List.foldl_cons, ih (account.addLine line), ih (empty.addLine line),
        find_addLine account line key, Option.or_assoc]

end Lines

section Feeds

/-- The lines before a line feed are taken up as they are without it. -/
theorem foldl_feed (front rest : List Char) : (Text.lines (front ++ '\n' :: rest)).foldl addLine empty =
    (Text.lines rest).foldl addLine (readLenient front) := by
  obtain ⟨closed, whole, known⟩ := Text.lines_feed front rest
  have same : closed.foldl addLine empty = readLenient front := by
    rcases known with rfl | ⟨before, last, ends, rfl⟩
    · rw [List.foldl_append]
      rfl
    · rw [readLenient, ends, List.foldl_append, List.foldl_append]
      exact addLine_dropReturn _ last
  rw [whole, List.foldl_append, same]

theorem sound_feed_iff (front rest : List Char) :
    (∀ line ∈ Text.lines (front ++ '\n' :: rest), ¬IsMalformed line) ↔
      (∀ line ∈ Text.lines front, ¬IsMalformed line) ∧ ∀ line ∈ Text.lines rest, ¬IsMalformed line := by
  obtain ⟨closed, whole, known⟩ := Text.lines_feed front rest
  have same : (∀ line ∈ closed, ¬IsMalformed line) ↔ ∀ line ∈ Text.lines front, ¬IsMalformed line := by
    rcases known with rfl | ⟨before, last, ends, rfl⟩
    · rw [List.forall_mem_append, List.forall_mem_singleton]
      exact and_iff_left not_isMalformed_nil
    · rw [ends, List.forall_mem_append, List.forall_mem_append, List.forall_mem_singleton, List.forall_mem_singleton,
        isMalformed_dropReturn_iff]
  rw [whole, List.forall_mem_append, same]

theorem readStrict_ok_iff (content : List Char) :
    (∃ account, readStrict content = .ok account) ↔ ∀ line ∈ Text.lines content, ¬IsMalformed line := by
  constructor
  · rintro ⟨account, read⟩
    rcases sound_or_first (Text.lines content) with sound | ⟨misreading, first⟩
    · exact sound
    · cases (readStrict_first first).symm.trans read
  · intro sound
    exact ⟨readLenient content, readStrict_sound sound⟩

end Feeds

section Writing

/-- A key and a value that stand on one line as they are. -/
structure Tellable (pair : List Char × List Char) : Prop where
  named : pair.1 ≠ []
  keyTrimmed : Text.trim pair.1 = pair.1
  keyUncut : ':' ∉ pair.1
  keyPlain : '\n' ∉ pair.1
  valueTrimmed : Text.trim pair.2 = pair.2
  valuePlain : '\n' ∉ pair.2

instance : DecidablePred Tellable := fun pair =>
  decidable_of_iff (pair.1 ≠ [] ∧ Text.trim pair.1 = pair.1 ∧ ':' ∉ pair.1 ∧ '\n' ∉ pair.1 ∧
      Text.trim pair.2 = pair.2 ∧ '\n' ∉ pair.2)
    ⟨fun ⟨named, trimmed, uncut, plain, value, one⟩ => ⟨named, trimmed, uncut, plain, value, one⟩,
      fun ⟨named, trimmed, uncut, plain, value, one⟩ => ⟨named, trimmed, uncut, plain, value, one⟩⟩

def lineOf (pair : List Char × List Char) : List Char :=
  pair.1 ++ ':' :: pair.2

/-- The pairs, each on a line of its own. -/
def written (pairs : List (List Char × List Char)) : List Char :=
  pairs.flatMap fun pair => lineOf pair ++ ['\n']

/-- The last of the pairs with this key has this value. -/
def IsLast (pairs : List (List Char × List Char)) (key value : List Char) : Prop :=
  ∃ before after, pairs = before ++ (key, value) :: after ∧ ∀ pair ∈ after, pair.1 ≠ key

variable {pair : List Char × List Char} {pairs : List (List Char × List Char)}

theorem trim_lineOf (tellable : Tellable pair) : Text.trim (lineOf pair) = lineOf pair := by
  obtain ⟨key, value⟩ := pair
  rw [Text.trim_eq_self_iff]
  constructor
  · intro c rest starts
    cases front : key with
    | nil => exact absurd front tellable.named
    | cons first more =>
        rw [lineOf, front, List.cons_append] at starts
        obtain ⟨same, -⟩ := List.cons.inj starts
        exact same ▸ ((Text.trim_eq_self_iff key).mp tellable.keyTrimmed).1 first more front
  · intro front c ends
    cases last : value.getLast? with
    | none =>
        rw [lineOf, List.getLast?_eq_none_iff.mp last] at ends
        obtain ⟨-, same⟩ := List.append_inj' ends rfl
        cases same
        rfl
    | some final =>
        obtain ⟨before, whole⟩ := List.getLast?_eq_some_iff.mp last
        rw [lineOf, whole, ← List.cons_append, ← List.append_assoc] at ends
        obtain ⟨-, same⟩ := List.append_inj' ends rfl
        cases same
        exact ((Text.trim_eq_self_iff value).mp tellable.valueTrimmed).2 before c whole

theorem read_lineOf (tellable : Tellable pair) : Line.read (lineOf pair) = .entry pair.1 pair.2 := by
  have nonempty : (lineOf pair).isEmpty = false := by simp [lineOf]
  have named : pair.1.isEmpty = false := by simpa using tellable.named
  have cut := Text.cutOnce_marked ':' pair.1 pair.2 tellable.keyUncut
  rw [Line.read, trim_lineOf tellable]
  simp only [nonempty, Bool.false_eq_true, if_false]
  rw [lineOf, cut]
  simp only [tellable.keyTrimmed, tellable.valueTrimmed, named, Bool.false_eq_true, if_false]

theorem dropReturn_lineOf (tellable : Tellable pair) : Text.dropReturn (lineOf pair) = lineOf pair := by
  unfold Text.dropReturn
  split
  · next ends =>
      obtain ⟨front, whole⟩ := List.getLast?_eq_some_iff.mp (beq_iff_eq.mp ends)
      cases ((Text.trim_eq_self_iff _).mp (trim_lineOf tellable)).2 front '\r' whole
  · rfl

theorem lines_written (tellable : ∀ pair ∈ pairs, Tellable pair) :
    Text.lines (written pairs) = pairs.map lineOf := by
  induction pairs with
  | nil => rfl
  | cons pair rest ih =>
      have told := tellable pair List.mem_cons_self
      have plain : '\n' ∉ lineOf pair := by simp [lineOf, told.keyPlain, told.valuePlain]
      have later := ih fun other member => tellable other (List.mem_cons_of_mem pair member)
      rw [written, List.flatMap_cons, List.append_assoc, List.singleton_append, Text.lines_ended _ _ plain,
        dropReturn_lineOf told, List.map_cons, ← later]
      rfl

theorem isLast_concat_iff (pairs : List (List Char × List Char)) (pair : List Char × List Char)
    (key value : List Char) :
    IsLast (pairs ++ [pair]) key value ↔ if pair.1 = key then pair.2 = value else IsLast pairs key value := by
  constructor
  · rintro ⟨before, after, whole, none⟩
    cases last : after.getLast? with
    | none =>
        rw [List.getLast?_eq_none_iff.mp last] at whole
        obtain ⟨-, same⟩ := List.append_inj' whole rfl
        cases same
        simp
    | some final =>
        obtain ⟨middle, rfl⟩ := List.getLast?_eq_some_iff.mp last
        rw [← List.cons_append, ← List.append_assoc] at whole
        obtain ⟨front, same⟩ := List.append_inj' whole rfl
        cases same
        rw [if_neg (none pair (by simp))]
        exact ⟨before, middle, front, fun other member => none other (List.mem_append_left _ member)⟩
  · intro known
    split at known
    · next here => exact ⟨pairs, [], by rw [← here, ← known], by simp⟩
    · next elsewhere =>
        obtain ⟨before, after, rfl, none⟩ := known
        refine ⟨before, after ++ [pair], by simp, fun other member => ?_⟩
        rcases List.mem_append.mp member with early | last
        · exact none other early
        · rwa [List.mem_singleton.mp last]

/-- Of a key that was written several times the last value is found. -/
theorem find_readLenient_written (tellable : ∀ pair ∈ pairs, Tellable pair) (key value : List Char) :
    (readLenient (written pairs)).find? key = some value ↔ IsLast pairs key value := by
  rw [readLenient, lines_written tellable]
  induction pairs using List.reverseRecOn generalizing value with
  | nil => simp [IsLast, empty, find?]
  | append_singleton pairs pair ih =>
      have told := tellable pair (by simp)
      have early := ih fun other member => tellable other (List.mem_append_left _ member)
      rw [List.map_append, List.map_singleton, List.foldl_append, List.foldl_cons, List.foldl_nil, addLine_eq,
        read_lineOf told, add, find_put, isLast_concat_iff]
      by_cases here : pair.1 = key
      · simp [here]
      · rw [if_neg here, if_neg here, early value]

theorem readStrict_written (tellable : ∀ pair ∈ pairs, Tellable pair) :
    readStrict (written pairs) = .ok (readLenient (written pairs)) := by
  apply readStrict_sound
  intro line member wrong
  rw [lines_written tellable] at member
  obtain ⟨pair, told, rfl⟩ := List.mem_map.mp member
  cases (read_of_malformed wrong).symm.trans (read_lineOf (tellable pair told))

end Writing

/-- Pairs that were written are read back by both readings: each key with the value of its last pair, and no other
key. What comes after a line feed overrides what comes before it, and the strict reading accepts both together when it
accepts each. -/
theorem written_account_read_back :
    (∀ content key value,
      (key, value) ∈ (readLenient content).entries ↔ (readLenient content).find? key = some value) ∧
    (∀ pairs, (∀ pair ∈ pairs, Tellable pair) → ∃ account, readStrict (written pairs) = .ok account ∧
      readLenient (written pairs) = account ∧
      ∀ key value, account.find? key = some value ↔ IsLast pairs key value) ∧
    (∀ first second key, (readLenient (first ++ '\n' :: second)).find? key =
      ((readLenient second).find? key).or ((readLenient first).find? key)) ∧
    ∀ first second, (∃ account, readStrict (first ++ '\n' :: second) = .ok account) ↔
      (∃ account, readStrict first = .ok account) ∧ ∃ account, readStrict second = .ok account := by
  refine ⟨?_, ?_, ?_, ?_⟩
  · intro content key value
    exact (find_some_iff (ordered_readLenient content) key value).symm
  · intro pairs tellable
    exact ⟨_, readStrict_written tellable, rfl, find_readLenient_written tellable⟩
  · intro first second key
    rw [readLenient, foldl_feed, find_foldl]
    rfl
  · intro first second
    rw [readStrict_ok_iff, readStrict_ok_iff, readStrict_ok_iff, sound_feed_iff]

theorem written_account_of_three_pairs :
    ∃ account, readStrict "exitcode:1\nmessage:at a: b\nexitcode:0\n".toList = .ok account ∧
      account.find? "exitcode".toList = some "0".toList ∧
      account.find? "message".toList = some "at a: b".toList := by
  let pairs : List (List Char × List Char) := [("exitcode".toList, "1".toList),
    ("message".toList, "at a: b".toList), ("exitcode".toList, "0".toList)]
  obtain ⟨account, read, -, found⟩ := written_account_read_back.2.1 pairs (by decide)
  refine ⟨account, read, ?_, ?_⟩
  · exact (found _ _).mpr ⟨pairs.take 2, [], rfl, by simp⟩
  · exact (found _ _).mpr ⟨pairs.take 1, pairs.drop 2, rfl, by decide⟩

end Box.Account
end SnippetRunner

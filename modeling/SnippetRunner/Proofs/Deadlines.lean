import Mathlib.Algebra.Order.Field.Basic
import Mathlib.Algebra.Order.Field.Rat
import Mathlib.Tactic.Linarith
import Mathlib.Tactic.Ring
import SnippetRunner.Settings.File

/-!
The deadlines of settings that passed the check. A number of seconds becomes the whole number of nanoseconds
nearest to its exact value. The check looks at the number and not at what becomes of it, so a number that is
positive and no more than half a nanosecond passes, and its deadline is no time at all.
-/

namespace SnippetRunner

section Rounding

/-- The whole number nearest to an exact value; of two that are equally near it is the even one. -/
structure IsNearest (exact : ℚ) (whole : ℕ) : Prop where
  nearest (other : ℕ) : |exact - whole| ≤ |exact - other|
  even (other : ℕ) : other ≠ whole → |exact - other| = |exact - whole| → whole % 2 = 0

theorem one_le_apart {whole other : ℕ} (apart : other ≠ whole) : (1 : ℚ) ≤ |(whole : ℚ) - other| := by
  rcases Nat.lt_or_gt_of_ne apart with below | above
  · have step : (other : ℚ) + 1 ≤ whole := by exact_mod_cast below
    exact le_trans (by linarith) (le_abs_self _)
  · have step : (whole : ℚ) + 1 ≤ other := by exact_mod_cast above
    exact le_trans (by linarith) (neg_le_abs _)

-- All other whole numbers are at least half away from a value that is at most half away from one.
theorem isNearest_of_half {exact : ℚ} {whole : ℕ} (near : |exact - whole| ≤ 1 / 2)
    (even : |exact - whole| = 1 / 2 → whole % 2 = 0) : IsNearest exact whole := by
  have far (other : ℕ) (apart : other ≠ whole) : 1 ≤ |exact - whole| + |exact - other| := by
    have around := abs_sub_le (whole : ℚ) exact other
    rw [abs_sub_comm (whole : ℚ) exact] at around
    exact le_trans (one_le_apart apart) around
  constructor
  · intro other
    by_cases same : other = whole
    · rw [same]
    · have apart := far other same
      linarith
  · intro other same equal
    have apart := far other same
    exact even (by linarith)

theorem isNearest_down (whole : ℕ) {rest : ℚ} (least : 0 ≤ rest) (less : rest < 1 / 2) :
    IsNearest (whole + rest) whole := by
  apply isNearest_of_half <;> rw [add_sub_cancel_left, abs_of_nonneg least]
  · exact le_of_lt less
  · intro half
    exact absurd half (ne_of_lt less)

theorem isNearest_up (whole : ℕ) {rest : ℚ} (more : 1 / 2 < rest) (below : rest < 1) :
    IsNearest (whole + rest) (whole + 1) := by
  have gap : |(whole : ℚ) + rest - (whole + 1 : ℕ)| = 1 - rest := by
    rw [abs_sub_comm, abs_of_nonneg] <;> push_cast <;> linarith
  apply isNearest_of_half <;> rw [gap]
  · linarith
  · intro half
    linarith

theorem isNearest_even (whole : ℕ) : IsNearest (whole + 1 / 2) (whole + whole % 2) := by
  apply isNearest_of_half
  · rcases Nat.mod_two_eq_zero_or_one whole with even | odd
    · rw [even, Nat.add_zero, add_sub_cancel_left, abs_of_pos one_half_pos]
    · rw [odd, Nat.cast_add, Nat.cast_one, add_sub_add_left_eq_sub, abs_le]
      norm_num
  · intro _
    omega

theorem isNearest_whole (whole : ℕ) : IsNearest (whole : ℚ) whole := by
  have down := isNearest_down whole (le_refl (0 : ℚ)) one_half_pos
  rwa [add_zero] at down

/-- A value is rounded to zero when it is no more than a half. -/
theorem IsNearest.eq_zero_iff {exact : ℚ} {whole : ℕ} (rounded : IsNearest exact whole) (least : 0 ≤ exact) :
    whole = 0 ↔ exact ≤ 1 / 2 := by
  constructor
  · intro zero
    have nearest := rounded.nearest 1
    rw [zero, Nat.cast_zero, sub_zero, Nat.cast_one, abs_of_nonneg least] at nearest
    by_contra above
    have closer : |exact - 1| < exact := abs_lt.mpr ⟨by linarith, by linarith⟩
    linarith
  · intro small
    by_contra nonzero
    have positive : (1 : ℚ) ≤ whole := by exact_mod_cast Nat.one_le_iff_ne_zero.mpr nonzero
    have nearest := rounded.nearest 0
    rw [Nat.cast_zero, sub_zero, abs_of_nonneg least, abs_sub_comm, abs_of_nonneg (by linarith)] at nearest
    have one : whole = 1 := by
      have few : (whole : ℚ) ≤ 1 := by linarith
      exact le_antisymm (by exact_mod_cast few) (by exact_mod_cast positive)
    subst one
    have half : exact = 1 / 2 := le_antisymm small (by push_cast at nearest; linarith)
    have even := rounded.even 0 (by decide)
    rw [half] at even
    exact absurd (even (by norm_num)) (by decide)

/-- Rounding a quotient gives the whole number nearest to it. -/
theorem isNearest_roundHalfEven (num den : ℕ) (positive : 0 < den) :
    IsNearest ((num : ℚ) / den) (Binary64.roundHalfEven num den) := by
  have scale : (0 : ℚ) < den := by exact_mod_cast positive
  have parts : (num : ℚ) / den = (num / den : ℕ) + (num % den : ℕ) / den := by
    rw [eq_comm, add_div' _ _ _ (ne_of_gt scale), div_left_inj' (ne_of_gt scale)]
    exact_mod_cast Nat.div_add_mod' num den
  rw [parts]
  unfold Binary64.roundHalfEven
  dsimp only
  split
  · next small =>
      apply isNearest_down
      · positivity
      · rw [div_lt_div_iff₀ scale two_pos]
        exact_mod_cast (by omega : num % den * 2 < 1 * den)
  · split
    · next large =>
        apply isNearest_up
        · rw [div_lt_div_iff₀ two_pos scale]
          exact_mod_cast (by omega : 1 * den < num % den * 2)
        · rw [div_lt_one scale]
          exact_mod_cast Nat.mod_lt num positive
    · next small large =>
        have half : ((num % den : ℕ) : ℚ) / den = 1 / 2 := by
          rw [div_eq_div_iff (ne_of_gt scale) two_ne_zero]
          exact_mod_cast (by omega : num % den * 2 = 1 * den)
        rw [half]
        exact isNearest_even _

end Rounding

/-- The exact value of a number, if it is finite. -/
def Binary64.value? : Binary64 → Option ℚ
  | .nan => none
  | .infinite _ => none
  | .finite negative significand exponent =>
      some ((if negative then -1 else 1) * significand * 2 ^ exponent)

namespace Span

/-- What a number of seconds is rounded to when it is in the range of spans. -/
structure IsRounded (secs : Binary64) (span : Span) : Prop where
  -- the span is not the end of the range
  unclamped : ofSeconds? secs = some span
  proper : span.secs < secsLimit ∧ span.nanos < nanosPerSec
  nearest : ∃ seconds, secs.value? = some seconds ∧ 0 < seconds ∧
    IsNearest (seconds * nanosPerSec) span.toNanos

/-- The number of seconds is more than half a nanosecond. -/
def ExceedsHalf (secs : Binary64) : Prop :=
  ∃ seconds, secs.value? = some seconds ∧ 1 / 2 < seconds * nanosPerSec

theorem toNanos_ofNanos (nanos : ℕ) : (ofNanos nanos).toNanos = nanos :=
  Nat.div_add_mod' nanos nanosPerSec

theorem ofNanos_proper {nanos : ℕ} (fits : nanos < secsLimit * nanosPerSec) :
    (ofNanos nanos).secs < secsLimit ∧ (ofNanos nanos).nanos < nanosPerSec :=
  ⟨Nat.div_lt_of_lt_mul (by rwa [Nat.mul_comm]), Nat.mod_lt nanos (by decide)⟩

/-- The nanoseconds that a significand and an exponent of seconds are rounded to. -/
def roundedNanos (significand : ℕ) (exponent : ℤ) : ℕ :=
  if exponent ≥ 0 then significand * nanosPerSec * Nat.pow 2 exponent.toNat
  else Binary64.roundHalfEven (significand * nanosPerSec) (Nat.pow 2 (-exponent).toNat)

theorem ofSeconds_finite (significand : ℕ) (exponent : ℤ) :
    ofSeconds? (.finite false significand exponent) =
      if roundedNanos significand exponent < secsLimit * nanosPerSec then
        some (ofNanos (roundedNanos significand exponent))
      else none := rfl

theorem isNearest_roundedNanos (significand : ℕ) (exponent : ℤ) :
    IsNearest (significand * 2 ^ exponent * nanosPerSec) (roundedNanos significand exponent) := by
  unfold roundedNanos
  split
  · next whole =>
      obtain ⟨n, rfl⟩ := Int.eq_ofNat_of_zero_le whole
      have exact : (significand : ℚ) * 2 ^ (n : ℤ) * nanosPerSec = (significand * nanosPerSec * 2 ^ n : ℕ) := by
        push_cast
        rw [zpow_natCast]
        ring
      rw [exact]
      exact isNearest_whole _
  · next broken =>
      obtain ⟨n, rfl⟩ : ∃ n : ℕ, exponent = -n := ⟨(-exponent).toNat, by omega⟩
      have exact : (significand : ℚ) * 2 ^ (-n : ℤ) * nanosPerSec = (significand * nanosPerSec : ℕ) / (2 ^ n : ℕ) := by
        push_cast
        rw [zpow_neg, zpow_natCast]
        ring
      rw [exact]
      simpa using isNearest_roundHalfEven (significand * nanosPerSec) (2 ^ n) (Nat.two_pow_pos n)

/-- A number of seconds that the check lets pass is rounded, and not clamped. -/
theorem isRounded_of_isTimeout (secs : Binary64) (passes : Settings.isTimeout secs = true) :
    IsRounded secs (ofSecondsClamped secs) := by
  obtain ⟨positive, there⟩ := Bool.and_eq_true_iff.mp passes
  obtain ⟨span, found⟩ := Option.isSome_iff_exists.mp there
  have same : ofSecondsClamped secs = span := by rw [ofSecondsClamped, found, Option.getD_some]
  rw [same]
  cases secs with
  | nan => cases positive
  | infinite negative => cases found
  | finite negative significand exponent =>
      obtain ⟨upward, nonzero⟩ : negative = false ∧ significand ≠ 0 := by
        simpa [Binary64.isPositive] using positive
      subst upward
      obtain ⟨fits, rfl⟩ : roundedNanos significand exponent < secsLimit * nanosPerSec ∧
          span = ofNanos (roundedNanos significand exponent) := by
        rw [ofSeconds_finite] at found
        split at found
        · next fits => exact ⟨fits, (Option.some.inj found).symm⟩
        · cases found
      have counted : (0 : ℚ) < significand := by exact_mod_cast Nat.pos_of_ne_zero nonzero
      refine ⟨found, ofNanos_proper fits, significand * 2 ^ exponent, ?_,
        mul_pos counted (zpow_pos two_pos exponent), ?_⟩
      · simp [Binary64.value?]
      · rw [toNanos_ofNanos]
        exact isNearest_roundedNanos significand exponent

/-- A span is at least a nanosecond exactly when its number of seconds is more than half of one. -/
theorem IsRounded.positive_iff {secs : Binary64} {span : Span} (rounded : IsRounded secs span) :
    1 ≤ span.toNanos ↔ ExceedsHalf secs := by
  obtain ⟨seconds, value, positive, nearest⟩ := rounded.nearest
  have least : 0 ≤ seconds * nanosPerSec := by positivity
  rw [Nat.one_le_iff_ne_zero, ne_eq, nearest.eq_zero_iff least, not_le]
  constructor
  · intro more
    exact ⟨seconds, value, more⟩
  · rintro ⟨other, same, more⟩
    cases value.symm.trans same
    exact more

end Span

namespace Settings

/-- Settings that passed the check, by themselves or when a document or a file was read. -/
inductive Accepted (settings : Settings) : Prop where
  | checked (valid : settings.check = .ok ())
  | document (format : Format) (text : List Char) (found : Settings.read format text = .ok settings)
  | file (files : Files.Tree) (name : String) (found : ofFile files name = .ok settings)

theorem check_of_read {format : Format} {text : List Char} {settings : Settings}
    (found : Settings.read format text = .ok settings) : settings.check = .ok () := by
  unfold Settings.read at found
  split at found
  · cases found
  · split at found
    · cases found
    · split at found
      · cases found
      · next passed =>
          cases found
          exact passed

theorem read_of_ofFile {files : Files.Tree} {name : String} {settings : Settings}
    (found : ofFile files name = .ok settings) : ∃ format text, Settings.read format text = .ok settings := by
  unfold ofFile at found
  cases place : find files name with
  | error fault =>
      rw [place] at found
      cases found
  | ok pair =>
      obtain ⟨path, format⟩ := pair
      cases content : files.read path with
      | error fault =>
          rw [place] at found
          simp only [content, bind, Except.bind, Except.mapError] at found
          cases found
      | ok octets =>
          rw [place] at found
          simp only [content, bind, Except.bind, Except.mapError] at found
          split at found
          · cases found
          · next read =>
              cases found
              exact ⟨format, _, read⟩

theorem Accepted.check {settings : Settings} (accepted : Accepted settings) : settings.check = .ok () := by
  cases accepted with
  | checked valid => exact valid
  | document format text found => exact check_of_read found
  | file files name found =>
      obtain ⟨format, text, read⟩ := read_of_ofFile found
      exact check_of_read read

theorem timeouts_of_check {settings : Settings} (valid : settings.check = .ok ()) :
    isTimeout settings.timeoutSecs = true ∧ isTimeout settings.compiler.timeoutSecs = true := by
  unfold Settings.check at valid
  split at valid
  · cases valid
  · next running =>
      split at valid
      · cases valid
      · next compiling => exact ⟨by simpa using running, by simpa using compiling⟩

/-- The deadlines of accepted settings are their numbers of seconds, rounded to the nearest nanosecond and never
clamped. One of them is at least a nanosecond if and only if its number of seconds is more than half of one. -/
theorem deadlines_positive_iff (settings : Settings) (accepted : Accepted settings) :
    Span.IsRounded settings.timeoutSecs settings.timeout ∧
    Span.IsRounded settings.compiler.timeoutSecs settings.compiler.timeout ∧
    (1 ≤ settings.timeout.toNanos ↔ Span.ExceedsHalf settings.timeoutSecs) ∧
    (1 ≤ settings.compiler.timeout.toNanos ↔ Span.ExceedsHalf settings.compiler.timeoutSecs) := by
  obtain ⟨running, compiling⟩ := timeouts_of_check accepted.check
  have run := Span.isRounded_of_isTimeout settings.timeoutSecs running
  have compile := Span.isRounded_of_isTimeout settings.compiler.timeoutSecs compiling
  exact ⟨run, compile, run.positive_iff, compile.positive_iff⟩

def lasting (timeout : Binary64) : Settings :=
  { Settings.defaults with timeoutSecs := timeout }

-- The least number above half a nanosecond that is written with one digit.
theorem deadline_of_one_nanosecond :
    Settings.read .toml "timeout_secs = 5e-10".toList = .ok (lasting (.ofDecimal false 5 (-10))) ∧
      (lasting (.ofDecimal false 5 (-10))).timeout = ⟨0, 1⟩ ∧
      Span.ExceedsHalf (lasting (.ofDecimal false 5 (-10))).timeoutSecs := by
  have found : Settings.read .toml "timeout_secs = 5e-10".toList = .ok (lasting (.ofDecimal false 5 (-10))) := by
    decide +kernel
  have timeout : (lasting (.ofDecimal false 5 (-10))).timeout = ⟨0, 1⟩ := by decide +kernel
  have deadlines := deadlines_positive_iff _ (.document .toml _ found)
  refine ⟨found, timeout, deadlines.2.2.1.mp ?_⟩
  rw [timeout]
  decide

theorem brief_deadline_is_zero :
    ∃ settings, Settings.read .toml "timeout_secs = 4.9e-10".toList = .ok settings ∧ Accepted settings ∧
      ¬ 1 ≤ settings.timeout.toNanos := by
  have found : Settings.read .toml "timeout_secs = 4.9e-10".toList = .ok (lasting (.ofDecimal false 49 (-11))) := by
    decide +kernel
  exact ⟨_, found, .document .toml _ found, by decide +kernel⟩

end Settings
end SnippetRunner

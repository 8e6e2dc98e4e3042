import SnippetRunner.Number.Shortest

/-!
Spans of time in whole seconds and nanoseconds. A number of seconds becomes the nearest span, ties to the
even nanosecond, judged on the exact value of the number.
-/

namespace SnippetRunner

structure Span where
  secs : Nat
  -- below one billion
  nanos : Nat
  deriving DecidableEq

namespace Span

def nanosPerSec : Nat := 1000000000

def zero : Span := ⟨0, 0⟩

-- Seconds have 64 bits.
def secsLimit : Nat := 0x10000000000000000

def max : Span := ⟨secsLimit - 1, nanosPerSec - 1⟩

def ofNanos (nanos : Nat) : Span :=
  ⟨nanos / nanosPerSec, nanos % nanosPerSec⟩

def ofMillis (millis : Nat) : Span :=
  ofNanos (millis * 1000000)

def toNanos (span : Span) : Nat :=
  span.secs * nanosPerSec + span.nanos

/-- The span nearest to a number of seconds, if it is not negative and not too long. -/
def ofSeconds? : Binary64 → Option Span
  | .nan => none
  | .infinite _ => none
  | .finite negative significand exponent =>
      if negative && significand != 0 then none
      else
        let nanos :=
          if exponent ≥ 0 then significand * nanosPerSec * Nat.pow 2 exponent.toNat
          else Binary64.roundHalfEven (significand * nanosPerSec) (Nat.pow 2 (-exponent).toNat)
        if nanos < secsLimit * nanosPerSec then some (ofNanos nanos) else none

/-- The span, or the end of the range that a number of seconds lies beyond. -/
def ofSecondsClamped (seconds : Binary64) : Span :=
  (ofSeconds? seconds).getD (if seconds.isPositive then max else zero)

/-- Seconds and the fraction are each rounded, and so is their sum. -/
def toSeconds (span : Span) : Binary64 :=
  .add (.ofNat span.secs) (.div (.ofNat span.nanos) (.ofNat nanosPerSec))

section Text

-- A fraction of `places` digits, without the zeros it ends in.
def fraction (n places : Nat) : String :=
  let digits := Number.decimalDigits n
  let padded := List.replicate (places - digits.length) '0' ++ digits
  let kept := (padded.reverse.dropWhile (· == '0')).reverse
  if kept.isEmpty then "" else "." ++ String.ofList kept

/-- The span in the largest of s, ms, µs and ns in which it is at least one. -/
def text (span : Span) : String :=
  if span.secs > 0 then s!"{span.secs}" ++ fraction span.nanos 9 ++ "s"
  else if span.nanos ≥ 1000000 then
    s!"{span.nanos / 1000000}" ++ fraction (span.nanos % 1000000) 6 ++ "ms"
  else if span.nanos ≥ 1000 then
    s!"{span.nanos / 1000}" ++ fraction (span.nanos % 1000) 3 ++ "µs"
  else s!"{span.nanos}ns"

end Text

end Span
end SnippetRunner

/-!
Lengths of time and clock readings, counted exactly in nanoseconds.

A duration is bounded: it fits 64 bits of whole seconds and nine decimal places.  Sums that would
pass the bound stop at it.  A clock reading is bounded as well, by a signed count of seconds; a
deadline past the last reading cannot be represented, and the functions that build deadlines say
so.
-/
namespace EventLink

/-- Nanoseconds in the longest duration, 2^64 - 1 seconds and 999999999 nanoseconds. -/
def longestNanos : Nat := 0xffffffffffffffff * 1000000000 + 999999999

/-- A length of time, at most the longest one. -/
structure Duration where
  nanos : Nat
  nanos_le : nanos ≤ longestNanos
  deriving DecidableEq, Repr

namespace Duration

/-- The given number of nanoseconds, or the longest duration if there are more. -/
def ofNanos (n : Nat) : Duration :=
  ⟨min n longestNanos, Nat.min_le_right _ _⟩

/-- Whole seconds and the nanoseconds on top of them. -/
def ofParts (secs nanos : Nat) : Duration :=
  ofNanos (secs * 1000000000 + nanos)

def ofMillis (ms : Nat) : Duration :=
  ofNanos (ms * 1000000)

def ofSecs (secs : Nat) : Duration :=
  ofNanos (secs * 1000000000)

def secs (d : Duration) : Nat :=
  d.nanos / 1000000000

/-- Nanoseconds past the last whole second. -/
def subsecNanos (d : Duration) : Nat :=
  d.nanos % 1000000000

/-- Whole milliseconds of a duration. -/
def millis (d : Duration) : Nat :=
  d.nanos / 1000000

def longer (a b : Duration) : Duration :=
  if a.nanos ≤ b.nanos then b else a

def shorter (a b : Duration) : Duration :=
  if a.nanos ≤ b.nanos then a else b

/-- Twice as long, but no longer than the longest duration. -/
def double (d : Duration) : Duration :=
  ofNanos (2 * d.nanos)

theorem nanos_longer (a b : Duration) : (longer a b).nanos = max a.nanos b.nanos := by
  unfold longer
  split <;> omega

theorem nanos_shorter (a b : Duration) : (shorter a b).nanos = min a.nanos b.nanos := by
  unfold shorter
  split <;> omega

theorem nanos_double (d : Duration) : d.double.nanos = min (2 * d.nanos) longestNanos := rfl

/-- Decimal places of a fraction, without the zeros at its end. -/
def fractionDigits (width value : Nat) : List Char :=
  let digits := Nat.toDigits 10 value
  let padded := List.replicate (width - digits.length) '0' ++ digits
  (padded.reverse.dropWhile (· == '0')).reverse

/-- A count of some unit, with its fraction if there is one. -/
def countText (whole width fraction : Nat) (unitName : String) : String :=
  match fractionDigits width fraction with
  | [] => toString whole ++ unitName
  | places => toString whole ++ "." ++ String.ofList places ++ unitName

/-- A duration in the largest of the units s, ms, µs and ns that is not larger than it. -/
def text (d : Duration) : String :=
  if d.nanos ≥ 1000000000 then countText d.secs 9 d.subsecNanos "s"
  else if d.nanos ≥ 1000000 then countText d.millis 6 (d.nanos % 1000000) "ms"
  else if d.nanos ≥ 1000 then countText (d.nanos / 1000) 3 (d.nanos % 1000) "µs"
  else toString d.nanos ++ "ns"

end Duration

/-! Clock readings are natural numbers: nanoseconds since the clock's origin. -/

namespace Clock

/-- The last reading: 2^63 - 1 seconds and 999999999 nanoseconds. -/
def latest : Nat := 0x7fffffffffffffff * 1000000000 + 999999999

/-- The deadline a duration away, if the clock can ever show it. -/
def after? (now : Nat) (d : Duration) : Option Nat :=
  if now + d.nanos ≤ latest then some (now + d.nanos) else none

/-- Thirty years ahead: the stand-in for a deadline that cannot be represented. -/
def farFuture (now : Nat) : Nat :=
  now + 86400 * 365 * 30 * 1000000000

/-- The deadline a duration away, or the far future. -/
def afterOrFar (now : Nat) (d : Duration) : Nat :=
  (after? now d).getD (farFuture now)

/-- Sleepers are woken on whole milliseconds, never before their deadline. -/
def wakeUp (deadline : Nat) : Nat :=
  (deadline + 999999) / 1000000 * 1000000

theorem le_wakeUp (deadline : Nat) : deadline ≤ wakeUp deadline := by
  unfold wakeUp
  omega

end Clock

end EventLink

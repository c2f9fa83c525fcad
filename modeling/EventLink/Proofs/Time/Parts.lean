import EventLink.Time.Backoff
/-!
Durations in two parts.

A clock keeps a length of time as whole seconds, which fit a word, and the nanoseconds on top of them.
Twice such a length carries from the nanoseconds into the seconds, and stops at the longest one where the
seconds no longer fit; one length is before another by its seconds first.  All of it agrees with the
lengths as they are counted in nanoseconds alone.
-/
namespace EventLink

/-- Whole seconds that fit a word, and less than a second of nanoseconds. -/
structure Parts where
  secs : Nat
  nanos : Nat
  secs_le : secs ≤ 0xffffffffffffffff
  nanos_lt : nanos < 1000000000
  deriving DecidableEq

namespace Parts

/-- The longest length of time. -/
def longest : Parts := ⟨0xffffffffffffffff, 999999999, Nat.le_refl _, by decide⟩

/-- The nanoseconds of both parts. -/
def count (p : Parts) : Nat :=
  p.secs * 1000000000 + p.nanos

theorem count_le (p : Parts) : p.count ≤ longestNanos := by
  have := p.secs_le
  have := p.nanos_lt
  unfold count longestNanos
  omega

/-- The seconds are looked at first. -/
def Before (p q : Parts) : Prop :=
  p.secs < q.secs ∨ p.secs = q.secs ∧ p.nanos < q.nanos

instance (p q : Parts) : Decidable (p.Before q) :=
  inferInstanceAs (Decidable (_ ∨ _ ∧ _))

def longer (p q : Parts) : Parts :=
  if q.Before p then p else q

def shorter (p q : Parts) : Parts :=
  if q.Before p then q else p

/-- Twice as long, if the seconds still fit.  Both the doubling of the seconds and what is carried into
them are looked at. -/
def double? (p : Parts) : Option Parts :=
  let total := p.nanos * 2
  if 0xffffffffffffffff < p.secs * 2 then none
  else if fits : p.secs * 2 + total / 1000000000 ≤ 0xffffffffffffffff then
    some ⟨p.secs * 2 + total / 1000000000, total % 1000000000, fits, Nat.mod_lt _ (by decide)⟩
  else none

/-- Twice as long, or the longest length. -/
def double (p : Parts) : Parts :=
  p.double?.getD longest

theorem before_iff (p q : Parts) : p.Before q ↔ p.count < q.count := by
  have := p.nanos_lt
  have := q.nanos_lt
  unfold Before count
  omega

/-- Two lengths of as many nanoseconds have the same parts. -/
theorem eq_of_count_eq {p q : Parts} (h : p.count = q.count) : p = q := by
  obtain ⟨s, n, _, hn⟩ := p
  obtain ⟨t, m, _, hm⟩ := q
  simp only [count] at h
  have secs : s = t := by omega
  have nanos : n = m := by omega
  subst secs nanos
  rfl

theorem count_longer (p q : Parts) : (longer p q).count = max p.count q.count := by
  unfold longer
  split
  · next h => exact (Nat.max_eq_left (Nat.le_of_lt ((before_iff q p).1 h))).symm
  · next h => exact (Nat.max_eq_right (Nat.le_of_not_lt (mt (before_iff q p).2 h))).symm

theorem count_shorter (p q : Parts) : (shorter p q).count = min p.count q.count := by
  unfold shorter
  split
  · next h => exact (Nat.min_eq_right (Nat.le_of_lt ((before_iff q p).1 h))).symm
  · next h => exact (Nat.min_eq_left (Nat.le_of_not_lt (mt (before_iff q p).2 h))).symm

/-- What is carried into the seconds is what the nanoseconds lose, and where the seconds stop fitting,
the count stops. -/
theorem count_double (p : Parts) : p.double.count = min (2 * p.count) longestNanos := by
  have := p.nanos_lt
  unfold double double?
  dsimp only
  split
  · simp only [Option.getD_none, longest, count, longestNanos]
    omega
  · split
    · simp only [Option.getD_some, count, longestNanos]
      omega
    · simp only [Option.getD_none, longest, count, longestNanos]
      omega

end Parts

namespace Duration

def parts (d : Duration) : Parts where
  secs := d.secs
  nanos := d.subsecNanos
  secs_le := by
    have := d.nanos_le
    unfold longestNanos at this
    unfold secs
    omega
  nanos_lt := Nat.mod_lt _ (by decide)

theorem count_parts (d : Duration) : d.parts.count = d.nanos := by
  simp only [parts, Parts.count, secs, subsecNanos]
  omega

/-- Every pair of parts is that of some duration. -/
theorem exists_parts_eq (p : Parts) : ∃ d : Duration, d.parts = p :=
  ⟨⟨p.count, p.count_le⟩, Parts.eq_of_count_eq (count_parts _)⟩

theorem parts_longer (d e : Duration) : (longer d e).parts = d.parts.longer e.parts := by
  apply Parts.eq_of_count_eq
  rw [Parts.count_longer, count_parts, count_parts, count_parts, nanos_longer]

theorem parts_shorter (d e : Duration) : (shorter d e).parts = d.parts.shorter e.parts := by
  apply Parts.eq_of_count_eq
  rw [Parts.count_shorter, count_parts, count_parts, count_parts, nanos_shorter]

theorem parts_double (d : Duration) : d.double.parts = d.parts.double := by
  apply Parts.eq_of_count_eq
  rw [Parts.count_double, count_parts, count_parts, nanos_double]

theorem before_parts_iff (d e : Duration) : d.parts.Before e.parts ↔ d.nanos < e.nanos := by
  rw [Parts.before_iff, count_parts, count_parts]

end Duration

end EventLink

import EventLink.Time.Backoff
import Mathlib.Algebra.Group.Nat.Defs
/-!
The delays of a backoff, one after another.

A backoff doubles its delay in the arithmetic of durations, which stops at the longest duration.  The
largest delay is a duration as well, so the stop is never felt: every delay is the smallest one,
doubled as often as delays were taken, or the largest.
-/
namespace EventLink.Backoff

/-- The nanoseconds of a delay before which so many others were taken. -/
def nthDelay (least most : Duration) (taken : Nat) : Nat :=
  let floor := max least.nanos shortestDelay.nanos
  min (floor * 2 ^ taken) (max most.nanos floor)

/-- A backoff with the given bounds of which so many delays were taken since it was made or set
back. -/
structure IsAfter (b : Backoff) (least most : Duration) (taken : Nat) : Prop where
  least_eq : b.least = (ofBounds least most).least
  most_eq : b.most = (ofBounds least most).most
  next_eq : b.next.nanos = nthDelay least most taken

variable {b : Backoff} {least most : Duration} {taken : Nat}

theorem nanos_least_ofBounds (least most : Duration) :
    (ofBounds least most).least.nanos = max least.nanos shortestDelay.nanos :=
  Duration.nanos_longer least shortestDelay

theorem nanos_most_ofBounds (least most : Duration) :
    (ofBounds least most).most.nanos =
      max most.nanos (max least.nanos shortestDelay.nanos) := by
  rw [← nanos_least_ofBounds least most]
  exact Duration.nanos_longer most (ofBounds least most).least

theorem nthDelay_zero (least most : Duration) :
    nthDelay least most 0 = max least.nanos shortestDelay.nanos := by
  rw [nthDelay, Nat.pow_zero, Nat.mul_one]
  exact Nat.min_eq_left (Nat.le_max_right _ _)

/-- Doubling a delay and capping it is the same as capping it once more after the doubling. -/
theorem nthDelay_succ (least most : Duration) (taken : Nat) :
    nthDelay least most (taken + 1) =
      min (2 * nthDelay least most taken) (max most.nanos (max least.nanos shortestDelay.nanos)) := by
  simp only [nthDelay, Nat.pow_succ]
  rw [← Nat.mul_assoc]
  omega

theorem isAfter_ofBounds (least most : Duration) : (ofBounds least most).IsAfter least most 0 := by
  refine ⟨rfl, rfl, ?_⟩
  rw [nthDelay_zero]
  exact nanos_least_ofBounds least most

theorem IsAfter.reset (h : b.IsAfter least most taken) : b.reset.IsAfter least most 0 := by
  refine ⟨h.least_eq, h.most_eq, ?_⟩
  rw [next_reset, h.least_eq]
  exact (isAfter_ofBounds least most).next_eq

/-- A delay that is taken moves the backoff on by one. -/
theorem IsAfter.take (h : b.IsAfter least most taken) : b.take.2.IsAfter least most (taken + 1) := by
  refine ⟨h.least_eq, h.most_eq, ?_⟩
  have hmost : b.most.nanos = max most.nanos (max least.nanos shortestDelay.nanos) := by
    rw [h.most_eq]
    exact nanos_most_ofBounds least most
  have hcapped : b.most.nanos ≤ longestNanos := b.most.nanos_le
  have hnext := h.next_eq
  have hbelow : nthDelay least most taken ≤ b.most.nanos := by
    rw [hmost]
    exact Nat.min_le_right _ _
  rw [nthDelay_succ, ← hmost, Backoff.take]
  by_cases hroom : b.next.nanos < b.most.nanos
  · simp only [if_pos hroom, Duration.nanos_shorter, Duration.nanos_double]
    omega
  · simp only [if_neg hroom]
    omega

end EventLink.Backoff

import EventLink.Proofs.Time.Backoff
import EventLink.Proofs.Time.Parts
import Mathlib.Data.List.Induction
/-!
Every delay that a backoff ever gives.

A backoff is used by taking delays and by going back to the smallest one, in any order.  Which delay
comes next depends only on how many were taken since it last went back, and it is an exact power of two
times the smallest delay, or the largest delay.  That the delays are kept in two parts, and that doubling
them stops at the longest duration, changes none of them.
-/
namespace EventLink

namespace Backoff

/-- What is done to a backoff. -/
inductive Use where
  | take
  | reset
  deriving DecidableEq

/-- A backoff after one use. -/
def used (b : Backoff) : Use → Backoff
  | .take => b.take.2
  | .reset => b.reset

/-- A backoff after one use after another. -/
def usedAll (b : Backoff) (uses : List Use) : Backoff :=
  uses.foldl used b

/-- The delays taken since the backoff was last set back, or since it was made. -/
def takenLast (uses : List Use) : Nat :=
  uses.foldl (fun n (use : Use) => if use = .take then n + 1 else 0) 0

variable {b : Backoff} {least most : Duration} {taken : Nat}

theorem usedAll_append (b : Backoff) (uses more : List Use) :
    b.usedAll (uses ++ more) = (b.usedAll uses).usedAll more :=
  List.foldl_append

theorem takenLast_append_take (uses : List Use) :
    takenLast (uses ++ [.take]) = takenLast uses + 1 :=
  List.foldl_append

theorem takenLast_append_reset (uses : List Use) : takenLast (uses ++ [.reset]) = 0 :=
  List.foldl_append

/-- A backoff that was used is as far as the delays that were taken last. -/
theorem isAfter_usedAll (least most : Duration) (uses : List Use) :
    ((ofBounds least most).usedAll uses).IsAfter least most (takenLast uses) := by
  induction uses using List.reverseRecOn with
  | nil => exact isAfter_ofBounds least most
  | append_singleton uses use ih =>
    rw [usedAll_append]
    cases use with
    | take =>
      rw [takenLast_append_take]
      exact ih.take
    | reset =>
      rw [takenLast_append_reset]
      exact ih.reset

theorem IsAfter.usedAll_take (h : b.IsAfter least most taken) (more : Nat) :
    (b.usedAll (List.replicate more .take)).IsAfter least most (taken + more) := by
  induction more generalizing b taken with
  | zero => exact h
  | succ more ih =>
    rw [List.replicate_succ, Nat.add_comm more, ← Nat.add_assoc]
    exact ih h.take

theorem nthDelay_le (least most : Duration) (taken : Nat) :
    nthDelay least most taken ≤ max most.nanos (max least.nanos shortestDelay.nanos) :=
  Nat.min_le_right _ _

/-- With more delays taken, the next one is no shorter. -/
theorem nthDelay_le_add (least most : Duration) (taken more : Nat) :
    nthDelay least most taken ≤ nthDelay least most (taken + more) := by
  have grows : 2 ^ taken ≤ 2 ^ (taken + more) := Nat.pow_le_pow_right (by decide) (by omega)
  have scaled := Nat.mul_le_mul_left (max least.nanos shortestDelay.nanos) grows
  simp only [nthDelay]
  omega

end Backoff

/-- A backoff that keeps its three delays in two parts each. -/
structure PartsBackoff where
  least : Parts
  most : Parts
  next : Parts

namespace PartsBackoff

def ofBounds (least most : Parts) : PartsBackoff :=
  let floor := least.longer shortestDelay.parts
  ⟨floor, most.longer floor, floor⟩

def used (b : PartsBackoff) : Backoff.Use → PartsBackoff
  | .take => { b with next := if b.next.Before b.most then b.next.double.shorter b.most else b.next }
  | .reset => { b with next := b.least }

def usedAll (b : PartsBackoff) (uses : List Backoff.Use) : PartsBackoff :=
  uses.foldl used b

end PartsBackoff

namespace Backoff

/-- The delays of a backoff, each in its two parts. -/
def parts (b : Backoff) : PartsBackoff :=
  ⟨b.least.parts, b.most.parts, b.next.parts⟩

theorem parts_ofBounds (least most : Duration) :
    (ofBounds least most).parts = PartsBackoff.ofBounds least.parts most.parts := by
  simp only [parts, ofBounds, PartsBackoff.ofBounds, Duration.parts_longer]

theorem parts_used (b : Backoff) (use : Use) : (b.used use).parts = b.parts.used use := by
  cases use with
  | take =>
    simp only [parts, used, Backoff.take, PartsBackoff.used, Duration.before_parts_iff]
    split
    · rw [Duration.parts_shorter, Duration.parts_double]
    · rfl
  | reset => rfl

theorem parts_usedAll (b : Backoff) (uses : List Use) :
    (b.usedAll uses).parts = b.parts.usedAll uses := by
  induction uses generalizing b with
  | nil => rfl
  | cons use uses ih =>
    rw [usedAll, List.foldl_cons, ← usedAll, ih, parts_used]
    rfl

/-- However a backoff is used, the delay it gives is its smallest delay doubled as often as delays were
taken last, or its largest.  No delay is outside its bounds, taking delays never makes the next one
shorter and leaves the largest one where it is, the bounds stay, and delays that are kept and doubled in
two parts are these delays. -/
theorem delay_exact (least most : Duration) (uses : List Use) :
    let floor := max least.nanos 1000000
    let cap := max most.nanos floor
    let b := (ofBounds least most).usedAll uses
    b.take.1.nanos = min (floor * 2 ^ takenLast uses) cap ∧
    (floor ≤ b.next.nanos ∧ b.next.nanos ≤ cap) ∧
    (∀ more, b.next.nanos ≤ (b.usedAll (List.replicate more .take)).next.nanos) ∧
    (b.next.nanos = cap → ∀ more, (b.usedAll (List.replicate more .take)).next.nanos = cap) ∧
    (b.least.nanos = floor ∧ b.most.nanos = cap) ∧
    b.parts = (PartsBackoff.ofBounds least.parts most.parts).usedAll uses := by
  intro floor cap b
  have after : b.IsAfter least most (takenLast uses) := isAfter_usedAll least most uses
  have later (more : Nat) := after.usedAll_take more
  have grows : ∀ more, b.next.nanos ≤ (b.usedAll (List.replicate more .take)).next.nanos := by
    intro more
    rw [after.next_eq, (later more).next_eq]
    exact nthDelay_le_add least most _ more
  have capped (more : Nat) : (b.usedAll (List.replicate more .take)).next.nanos ≤ cap := by
    rw [(later more).next_eq]
    exact nthDelay_le least most _
  refine ⟨after.next_eq, ⟨?_, capped 0⟩, grows, ?_, ⟨?_, ?_⟩, ?_⟩
  · have first := nthDelay_le_add least most 0 (takenLast uses)
    rw [Nat.zero_add, nthDelay_zero, ← after.next_eq] at first
    exact first
  · intro atCap more
    exact Nat.le_antisymm (capped more) (atCap ▸ grows more)
  · rw [after.least_eq]
    exact nanos_least_ofBounds least most
  · rw [after.most_eq]
    exact nanos_most_ofBounds least most
  · rw [← parts_ofBounds]
    exact parts_usedAll (ofBounds least most) uses

/-- Bounds a nanosecond apart, the upper one the longest duration: doubling the lower one would carry
past the longest duration, and the delays end at it. -/
theorem delay_exact_at_longest :
    let least : Duration := ⟨longestNanos - 1, by decide⟩
    let most : Duration := ⟨longestNanos, Nat.le_refl _⟩
    let b := (ofBounds least most).usedAll [.take, .take, .reset, .take]
    b.next.nanos = longestNanos ∧
    ∀ more, (b.usedAll (List.replicate more .take)).next.nanos = longestNanos :=
  ⟨by decide, (delay_exact ⟨longestNanos - 1, by decide⟩ ⟨longestNanos, Nat.le_refl _⟩
    [.take, .take, .reset, .take]).2.2.2.1 (by decide)⟩

end Backoff

end EventLink

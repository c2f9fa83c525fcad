import Mathlib.Data.List.Nodup
import Mathlib.Data.Nat.Find
import EventLink.Reply.Table
/-!
Who waits under which identifier.

An identifier is handed out only while nobody waits under it, so no two recipients ever wait under the
same one, and whoever takes a reply is the one who waits under its identifier.
-/
namespace EventLink

/-- A reply was waited for if there is a recipient, also if its handler panics. -/
@[simp]
theorem Resolution.isMatched_ofRecipient (recipient : Option Recipient) :
    (ofRecipient recipient).isMatched = recipient.isSome := by
  cases recipient with
  | none => rfl
  | some recipient =>
    cases recipient with
    | callback handler => cases hpanics : handler.panics <;> simp [ofRecipient, hpanics, isMatched]
    | channel number => rfl

namespace ReplyTable

variable {t : ReplyTable} {id : String} {now : Nat} {recipient : Recipient}

/-- No two recipients wait under the same identifier. -/
def Distinct (t : ReplyTable) : Prop :=
  t.ids.Nodup

theorem isWaiting_iff_mem_ids : t.isWaiting id = true ↔ id ∈ t.ids := by
  rw [isWaiting, List.any_eq_true, ids, List.mem_map]
  constructor
  · rintro ⟨w, hw, hid⟩
    exact ⟨w, hw, beq_iff_eq.mp hid⟩
  · rintro ⟨w, hw, hid⟩
    exact ⟨w, hw, beq_iff_eq.mpr hid⟩

/-- A search finds the first identifier that is not in use, if it comes within the draws. -/
theorem freeIndex_eq_some_iff {draws index found : Nat} :
    t.freeIndex draws index = some found ↔
      index ≤ found ∧ found < index + draws ∧ t.source.stream found ∉ t.ids ∧
        ∀ n, index ≤ n → n < found → t.source.stream n ∈ t.ids := by
  induction draws generalizing index with
  | zero =>
    refine iff_of_false (by simp [freeIndex]) ?_
    rintro ⟨hle, hlt, _⟩
    exact absurd hlt (Nat.not_lt.mpr hle)
  | succ draws ih =>
    rw [freeIndex]
    split
    · next hwaiting =>
      have hused := isWaiting_iff_mem_ids.mp hwaiting
      rw [ih]
      constructor
      · rintro ⟨hle, hlt, hunused, hskipped⟩
        refine ⟨by omega, by omega, hunused, ?_⟩
        intro n hn hbefore
        rcases Nat.eq_or_lt_of_le hn with rfl | hlater
        · exact hused
        · exact hskipped n hlater hbefore
      · rintro ⟨hle, hlt, hunused, hskipped⟩
        have hother : index ≠ found := by
          rintro rfl
          exact hunused hused
        exact ⟨by omega, by omega, hunused, fun n hn => hskipped n (Nat.le_of_succ_le hn)⟩
    · next hfree =>
      have hunused := isWaiting_iff_mem_ids.not.mp hfree
      rw [Option.some.injEq]
      constructor
      · rintro rfl
        exact ⟨Nat.le_refl _, by omega, hunused, fun n hn hbefore => absurd hbefore (by omega)⟩
      · rintro ⟨hle, _, _, hskipped⟩
        rcases Nat.eq_or_lt_of_le hle with hsame | hlater
        · exact hsame
        · exact absurd (hskipped index (Nat.le_refl _) hlater) hunused

/-- The next free identifier is the first one of the stream that is not in use. -/
theorem nextFree_eq_some_iff {found : Nat} :
    t.nextFree = some found ↔
      t.source.drawn ≤ found ∧ t.source.stream found ∉ t.ids ∧
        ∀ n, t.source.drawn ≤ n → n < found → t.source.stream n ∈ t.ids := by
  rw [nextFree, freeIndex_eq_some_iff]
  constructor
  · rintro ⟨hle, _, hrest⟩
    exact ⟨hle, hrest⟩
  · rintro ⟨hle, hunused, hskipped⟩
    refine ⟨hle, ?_, hunused, hskipped⟩
    obtain ⟨n, hn, hbound, hfree⟩ := t.source.patient t.ids t.source.drawn found hle hunused
    by_contra hbeyond
    exact hfree (hskipped n hn (by omega))

/-- There is a next free identifier as soon as any identifier to come is not in use. -/
theorem isSome_nextFree_iff :
    t.nextFree.isSome = true ↔ ∃ n, t.source.drawn ≤ n ∧ t.source.stream n ∉ t.ids := by
  rw [Option.isSome_iff_exists]
  constructor
  · rintro ⟨found, hfound⟩
    obtain ⟨hle, hunused, _⟩ := nextFree_eq_some_iff.mp hfound
    exact ⟨found, hle, hunused⟩
  · intro hsome
    classical
    obtain ⟨hle, hunused⟩ := Nat.find_spec hsome
    refine ⟨Nat.find hsome, nextFree_eq_some_iff.mpr ⟨hle, hunused, ?_⟩⟩
    intro n hn hbefore
    by_contra hfree
    exact Nat.find_min hsome hbefore ⟨hn, hfree⟩

/-- Whoever is let wait does so at the end, under the next free identifier. -/
theorem expect_eq_some_iff {next : ReplyTable} :
    t.expect now recipient = some (id, next) ↔
      ∃ found, t.nextFree = some found ∧ id = t.source.stream found ∧
        next =
          { t with
            waiters := t.waiters ++ [⟨id, recipient, now⟩]
            source := { t.source with drawn := found + 1 } } := by
  rw [expect, Option.map_eq_some_iff]
  constructor
  · rintro ⟨found, hfound, hnext⟩
    obtain ⟨rfl, rfl⟩ := Prod.mk.inj hnext
    exact ⟨found, hfound, rfl, rfl⟩
  · rintro ⟨found, hfound, rfl, rfl⟩
    exact ⟨found, hfound, rfl⟩

/-- Whoever is let wait does so at the end, under an identifier that was free. -/
theorem of_expect_eq_some {next : ReplyTable} (h : t.expect now recipient = some (id, next)) :
    id ∉ t.ids ∧ next.waiters = t.waiters ++ [⟨id, recipient, now⟩] := by
  obtain ⟨found, hfound, rfl, rfl⟩ := expect_eq_some_iff.mp h
  exact ⟨(nextFree_eq_some_iff.mp hfound).2.1, rfl⟩

theorem lifetime_expect {next : ReplyTable} (h : t.expect now recipient = some (id, next)) :
    next.lifetime = t.lifetime := by
  obtain ⟨found, _, _, rfl⟩ := expect_eq_some_iff.mp h
  rfl

theorem Distinct.expect {next : ReplyTable} (h : t.Distinct)
    (expected : t.expect now recipient = some (id, next)) : next.Distinct := by
  obtain ⟨hfree, hwaiters⟩ := of_expect_eq_some expected
  rw [Distinct, ids, hwaiters, List.map_append, List.map_singleton]
  exact h.append (List.nodup_singleton id) (List.disjoint_singleton.mpr hfree)

theorem waiters_take :
    (t.take id).2.waiters = t.waiters.filter fun (w : Waiter) => w.id != id := by
  unfold take
  split
  · rfl
  · next hnone =>
    symm
    rw [List.filter_eq_self]
    intro w hw
    have hother := List.find?_eq_none.mp hnone w hw
    simpa using hother

theorem lifetime_take : (t.take id).2.lifetime = t.lifetime := by
  unfold take
  split <;> rfl

theorem Distinct.take (h : t.Distinct) : (t.take id).2.Distinct := by
  rw [Distinct, ids, waiters_take]
  exact h.sublist (List.filter_sublist.map Waiter.id)

/-- Whoever waits under an identifier is who takes the reply. -/
theorem Distinct.take_of_mem (h : t.Distinct) {w : Waiter} (hw : w ∈ t.waiters) :
    (t.take w.id).1 = some w.recipient := by
  unfold ReplyTable.take
  split
  · next found hfound =>
    have hsame : found.id = w.id := by simpa using List.find?_some hfound
    have hmem : found ∈ t.waiters := List.mem_of_find?_eq_some hfound
    rw [List.inj_on_of_nodup_map h hmem hw hsame]
  · next hnone =>
    have hother := List.find?_eq_none.mp hnone w hw
    exact absurd hother (by simp)

/-- A reply under an identifier that nobody waits under changes nothing. -/
theorem take_of_not_mem (h : id ∉ t.ids) : t.take id = (none, t) := by
  unfold ReplyTable.take
  split
  · next found hfound =>
    have hid : found.id = id := by simpa using List.find?_some hfound
    exact absurd (List.mem_map.mpr ⟨found, List.mem_of_find?_eq_some hfound, hid⟩) h
  · rfl

/-- Those who wait besides somebody do so under other identifiers. -/
theorem Distinct.id_ne (h : t.Distinct) {first last : List Waiter} {w : Waiter}
    (split : t.waiters = first ++ w :: last) : ∀ other ∈ first ++ last, other.id ≠ w.id := by
  rw [Distinct, ids, split, List.map_append, List.map_cons, List.nodup_middle, List.nodup_cons,
    ← List.map_append] at h
  intro other hother hsame
  exact h.1 (hsame ▸ List.mem_map.mpr ⟨other, hother, rfl⟩)

/-- Under an identifier waits the one who waits under it, and nobody else. -/
theorem Distinct.filter_eq_singleton (h : t.Distinct) {w : Waiter} (hw : w ∈ t.waiters) :
    (t.waiters.filter fun (other : Waiter) => other.id = w.id) = [w] := by
  obtain ⟨first, last, hsplit⟩ := List.append_of_mem hw
  have hothers : ((first ++ last).filter fun (other : Waiter) => other.id = w.id) = [] := by
    rw [List.filter_eq_nil_iff]
    intro other hother
    simpa using h.id_ne hsplit other hother
  rw [List.filter_append, List.append_eq_nil_iff] at hothers
  rw [hsplit, List.filter_append, List.filter_cons_of_pos (by simp), hothers.1, hothers.2,
    List.nil_append]

theorem filter_eq_nil (h : id ∉ t.ids) :
    (t.waiters.filter fun (w : Waiter) => w.id = id) = [] := by
  rw [List.filter_eq_nil_iff]
  intro w hw
  have hother : w.id ≠ id := fun hsame => h (List.mem_map.mpr ⟨w, hw, hsame⟩)
  simpa using hother

/-- Whoever takes a reply leaves the table, and all the others stay in their order. -/
theorem Distinct.take_eq (h : t.Distinct) {first last : List Waiter} {w : Waiter}
    (split : t.waiters = first ++ w :: last) :
    t.take w.id = (some w.recipient, { t with waiters := first ++ last }) := by
  have hmem : w ∈ t.waiters := split ▸ List.mem_append_right _ List.mem_cons_self
  have hwaiters : (t.take w.id).2.waiters = first ++ last := by
    have hothers : ((first ++ last).filter fun (other : Waiter) => other.id != w.id) =
        first ++ last := by
      rw [List.filter_eq_self]
      intro other hother
      exact bne_iff_ne.mpr (h.id_ne split other hother)
    rw [waiters_take, split, List.filter_append, List.filter_cons_of_neg (by simp),
      ← List.filter_append, hothers]
  have hrest : (t.take w.id).2 = { t with waiters := (t.take w.id).2.waiters } := by
    unfold ReplyTable.take
    split <;> rfl
  rw [hwaiters] at hrest
  exact Prod.ext (h.take_of_mem hmem) hrest

theorem Distinct.sweep (h : t.Distinct) {gone : Nat → Bool} : (t.sweep now gone).2.Distinct :=
  List.Nodup.sublist (List.filter_sublist.map Waiter.id) h

/-- A sweep that takes out nobody changes nothing. -/
theorem waiters_sweep {gone : Nat → Bool} (h : (t.sweep now gone).1 = []) :
    (t.sweep now gone).2.waiters = t.waiters := by
  rw [sweep, List.filter_eq_nil_iff] at h
  change (t.waiters.filter fun (w : Waiter) => t.keeps now gone w) = t.waiters
  rw [List.filter_eq_self]
  intro w hw
  simpa using h w hw

end ReplyTable

end EventLink

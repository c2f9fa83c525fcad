import EventLink.Proofs.Loop.Requests
/-!
Requests without a reply.

Requests are numbered by their place among everything that the loop had to send.  As long as only
their own replies are taken in, each of those without one has an identifier of its own, under which
its recipient waits.  A number is used once, an identifier may be used again and again.
-/
namespace EventLink

/-- What was to be sent in a series of reactions, with those who take the replies. -/
def offersOf (history : List Reaction) : List Offer :=
  history.flatMap Reaction.offers

@[simp]
theorem offersOf_snoc (history : List Reaction) (r : Reaction) :
    offersOf (history ++ [r]) = offersOf history ++ r.offers := by
  simp [offersOf]

theorem framesOffered_eq (history : List Reaction) :
    framesOffered history = (offersOf history).map Offer.frame :=
  List.map_flatMap.symm

/-- The request of a number has an identifier, and its reply has not been taken in. -/
def Outstanding (offers : List Offer) (received : List Nat) (n : Nat) (id : String) : Prop :=
  n ∉ received ∧ ∃ offer, offers[n]? = some offer ∧ offer.frame.id? = some id

/-- For each outstanding request its recipient waits, under an identifier that it shares with no other
outstanding request. -/
structure Awaits (waiters : List Waiter) (offers : List Offer) (received : List Nat) : Prop where
  waits : ∀ n id, Outstanding offers received n id →
    ∃ w ∈ waiters, w.id = id ∧ ∃ offer, offers[n]? = some offer ∧ offer.recipient = some w.recipient
  unique : ∀ m n id, Outstanding offers received m id → Outstanding offers received n id → m = n

variable {waiters : List Waiter} {offers more : List Offer} {received : List Nat}

theorem Outstanding.of_append {n : Nat} {id : String}
    (h : Outstanding (offers ++ more) received n id) :
    Outstanding offers received n id ∨
      ∃ offer ∈ more, more[n - offers.length]? = some offer ∧ offers.length ≤ n ∧
        offer.frame.id? = some id := by
  obtain ⟨hnew, offer, hoffer, hid⟩ := h
  by_cases hold : n < offers.length
  · rw [List.getElem?_append_left hold] at hoffer
    exact Or.inl ⟨hnew, offer, hoffer, hid⟩
  · have hlater : offers.length ≤ n := Nat.le_of_not_lt hold
    rw [List.getElem?_append_right hlater] at hoffer
    exact Or.inr ⟨offer, List.mem_of_getElem? hoffer, hoffer, hlater, hid⟩

theorem getElem?_append_of_some {α : Type} {first : List α} {n : Nat} {a : α} (later : List α)
    (h : first[n]? = some a) : (first ++ later)[n]? = some a := by
  obtain ⟨hn, _⟩ := List.getElem?_eq_some_iff.mp h
  rw [List.getElem?_append_left hn, h]

namespace Awaits

/-- What wants no reply changes nothing. -/
theorem append_plain (h : Awaits waiters offers received)
    (plain : ∀ offer ∈ more, offer.frame.id? = none) :
    Awaits waiters (offers ++ more) received := by
  have hold {n : Nat} {id : String} (hn : Outstanding (offers ++ more) received n id) :
      Outstanding offers received n id := by
    rcases hn.of_append with hold | ⟨offer, hmem, _, _, hid⟩
    · exact hold
    · exact absurd ((plain offer hmem).symm.trans hid) (by simp)
  constructor
  · intro n id hn
    obtain ⟨w, hw, hid, offer, hoffer, hrecipient⟩ := h.waits n id (hold hn)
    exact ⟨w, hw, hid, offer, getElem?_append_of_some more hoffer, hrecipient⟩
  · intro m n id hm hn
    exact h.unique m n id (hold hm) (hold hn)

/-- A new request under a free identifier is outstanding like the others. -/
theorem append_request (h : Awaits waiters offers received) {w : Waiter} {offer : Offer}
    (asks : offer.frame.id? = some w.id) (expects : offer.recipient = some w.recipient)
    (free : w.id ∉ waiters.map Waiter.id) :
    Awaits (waiters ++ [w]) (offers ++ [offer]) received := by
  have hcases {n : Nat} {id : String} (hn : Outstanding (offers ++ [offer]) received n id) :
      Outstanding offers received n id ∨ n = offers.length ∧ id = w.id := by
    rcases hn.of_append with hold | ⟨found, hmem, hfound, hlater, hid⟩
    · exact Or.inl hold
    · obtain rfl := List.mem_singleton.mp hmem
      obtain ⟨hbound, _⟩ := List.getElem?_eq_some_iff.mp hfound
      rw [List.length_singleton] at hbound
      exact Or.inr ⟨by omega, Option.some.inj (hid.symm.trans asks)⟩
  have hfree {n : Nat} (hn : Outstanding offers received n w.id) : False := by
    obtain ⟨other, hother, hid, _⟩ := h.waits n w.id hn
    exact free (List.mem_map.mpr ⟨other, hother, hid⟩)
  constructor
  · intro n id hn
    rcases hcases hn with hold | ⟨rfl, rfl⟩
    · obtain ⟨other, hother, hid, found, hfound, hrecipient⟩ := h.waits n id hold
      exact ⟨other, List.mem_append_left _ hother, hid, found,
        getElem?_append_of_some [offer] hfound, hrecipient⟩
    · exact ⟨w, List.mem_append_right _ (List.mem_singleton_self w), rfl, offer, by simp, expects⟩
  · intro m n id hm hn
    rcases hcases hm with hm | ⟨rfl, rfl⟩
    · rcases hcases hn with hn | ⟨rfl, rfl⟩
      · exact h.unique m n id hm hn
      · exact (hfree hm).elim
    · rcases hcases hn with hn | ⟨rfl, _⟩
      · exact (hfree hn).elim
      · rfl

/-- Once the reply to an outstanding request was taken in, nobody waits under its identifier, and the
others are outstanding as before. -/
theorem take {n : Nat} {id : String} (h : Awaits waiters offers received)
    (outstanding : Outstanding offers received n id) :
    Awaits (waiters.filter fun (w : Waiter) => w.id != id) offers (received ++ [n]) := by
  have hold {m : Nat} {other : String} (hm : Outstanding offers (received ++ [n]) m other) :
      Outstanding offers received m other ∧ m ≠ n := by
    obtain ⟨hnew, hasked⟩ := hm
    rw [List.mem_append, not_or, List.mem_singleton] at hnew
    exact ⟨⟨hnew.1, hasked⟩, hnew.2⟩
  constructor
  · intro m other hm
    obtain ⟨hm, hne⟩ := hold hm
    obtain ⟨w, hw, rfl, hrecipient⟩ := h.waits m other hm
    refine ⟨w, List.mem_filter.mpr ⟨hw, ?_⟩, rfl, hrecipient⟩
    rw [bne_iff_ne]
    intro hsame
    exact hne (h.unique m n id (hsame ▸ hm) outstanding)
  · intro m k other hm hk
    exact h.unique m k other (hold hm).1 (hold hk).1

end Awaits

/-- A reaction to anything but a reply keeps everybody waiting whose request is outstanding, if no
sweep takes anybody out. -/
theorem Reaction.awaits {r : Reaction} {next : Loop} (h : r.outcome.task = .running next)
    (unreplied : r.event.reply? = none)
    (unswept : r.event = .sweepDue → (r.loop.replies.sweep r.now r.gone).1 = [])
    (awaits : Awaits r.loop.replies.waiters offers received) :
    Awaits next.replies.waiters (offers ++ r.offers) received := by
  rw [(Reaction.remembers h).2]
  rcases r.loop.request_or_plain r.now r.gone unreplied unswept with
    ⟨hwaiters, hplain⟩ | ⟨topic, data, id, recipient, hoffers, hfree, hwaiters⟩
  · rw [hwaiters]
    exact awaits.append_plain hplain
  · rw [hwaiters, Reaction.offers, hoffers]
    exact awaits.append_request rfl rfl hfree

end EventLink

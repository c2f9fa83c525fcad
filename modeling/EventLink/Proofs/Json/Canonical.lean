import EventLink.Proofs.Json.Grammar
/-!
Canonical form.

Bringing a value into canonical form a second time changes nothing, and the form holds no value that
was not written: it is nested no deeper and has no other numbers.
-/
namespace EventLink.Json

/-- Members in ascending order of their keys, each key once. -/
def Ascending (members : List Member) : Prop :=
  members.Pairwise fun m n => m.1 < n.1

theorem mem_of_mem_insertMember {key : String} {v : Value} {members : List Member} {m : Member}
    (h : m ∈ insertMember key v members) : m = (key, v) ∨ m ∈ members := by
  induction members with
  | nil => exact Or.inl (List.mem_singleton.1 h)
  | cons n rest ih =>
    rw [insertMember] at h
    split at h
    · exact Or.inr h
    · split at h
      · exact List.mem_cons.1 h
      · rcases List.mem_cons.1 h with rfl | h
        · exact Or.inr List.mem_cons_self
        · exact (ih h).imp_right (List.mem_cons_of_mem n)

/-- Sorting adds no members. -/
theorem mem_of_mem_sortMembers {members : List Member} {m : Member}
    (h : m ∈ sortMembers members) : m ∈ members := by
  induction members with
  | nil => exact h
  | cons n rest ih =>
    rcases mem_of_mem_insertMember h with rfl | h
    · exact List.mem_cons_self
    · exact List.mem_cons_of_mem n (ih h)

theorem ascending_insertMember (key : String) (v : Value) {members : List Member}
    (h : Ascending members) : Ascending (insertMember key v members) := by
  induction members with
  | nil => exact List.pairwise_singleton _ _
  | cons n rest ih =>
    obtain ⟨least, others⟩ := List.pairwise_cons.1 h
    rw [insertMember]
    split
    · exact h
    · next different =>
      split
      · next below =>
        refine List.pairwise_cons.2 ⟨?_, h⟩
        intro m hm
        rcases List.mem_cons.1 hm with rfl | hm
        · exact below
        · exact String.lt_trans below (least m hm)
      · next notBelow =>
        refine List.pairwise_cons.2 ⟨?_, ih others⟩
        intro m hm
        rcases mem_of_mem_insertMember hm with rfl | hm
        · exact Decidable.by_contra fun notAbove =>
            different (String.le_antisymm (String.not_lt.1 notAbove) (String.not_lt.1 notBelow))
        · exact least m hm

theorem ascending_sortMembers (members : List Member) : Ascending (sortMembers members) := by
  induction members with
  | nil => exact List.Pairwise.nil
  | cons n rest ih => exact ascending_insertMember n.1 n.2 ih

/-- Members in order are in no need of sorting. -/
theorem sortMembers_of_ascending {members : List Member} (h : Ascending members) :
    sortMembers members = members := by
  induction members with
  | nil => rfl
  | cons n rest ih =>
    obtain ⟨least, others⟩ := List.pairwise_cons.1 h
    have front : insertMember n.1 n.2 rest = n :: rest := by
      cases rest with
      | nil => rfl
      | cons m rest =>
        have below := least m List.mem_cons_self
        have different : n.1 ≠ m.1 := fun same => String.lt_irrefl _ (same ▸ below)
        rw [insertMember, if_neg different, if_pos below]
    calc sortMembers (n :: rest) = insertMember n.1 n.2 (sortMembers rest) := rfl
      _ = n :: rest := by rw [ih others, front]

def mapValues (f : Value → Value) (members : List Member) : List Member :=
  members.map fun m => (m.1, f m.2)

theorem mapValues_cons (f : Value → Value) (key : String) (v : Value) (members : List Member) :
    mapValues f ((key, v) :: members) = (key, f v) :: mapValues f members :=
  rfl

theorem mapValues_insertMember (f : Value → Value) (key : String) (v : Value)
    (members : List Member) :
    mapValues f (insertMember key v members) = insertMember key (f v) (mapValues f members) := by
  induction members with
  | nil => rfl
  | cons n rest ih =>
    obtain ⟨k, w⟩ := n
    rw [mapValues_cons, insertMember, insertMember]
    split
    · rw [mapValues_cons]
    · split
      · rw [mapValues_cons, mapValues_cons]
      · rw [mapValues_cons, ih]

/-- Sorting looks at nothing but the keys. -/
theorem mapValues_sortMembers (f : Value → Value) (members : List Member) :
    mapValues f (sortMembers members) = sortMembers (mapValues f members) := by
  induction members with
  | nil => rfl
  | cons n rest ih =>
    calc mapValues f (insertMember n.1 n.2 (sortMembers rest))
        = insertMember n.1 (f n.2) (mapValues f (sortMembers rest)) :=
          mapValues_insertMember f n.1 n.2 _
      _ = sortMembers (mapValues f (n :: rest)) := by rw [ih]; rfl

namespace Value

theorem canonicalItems_eq_map (items : List Value) :
    canonicalItems items = items.map canonical := by
  induction items with
  | nil => rfl
  | cons v rest ih => rw [canonicalItems, ih, List.map_cons]

theorem canonicalMembers_eq_mapValues (members : List Member) :
    canonicalMembers members = mapValues canonical members := by
  induction members with
  | nil => rfl
  | cons m rest ih => rw [canonicalMembers, ih, mapValues_cons]

theorem canonical_array (items : List Value) :
    (array items).canonical = array (items.map canonical) := by
  rw [canonical, canonicalItems_eq_map]

theorem canonical_object (members : List Member) :
    (object members).canonical = object (sortMembers (mapValues canonical members)) := by
  rw [canonical, canonicalMembers_eq_mapValues]

/-- The canonical form of a canonical form is that form. -/
theorem canonical_canonical (v : Value) : v.canonical.canonical = v.canonical := by
  induction v using Value.induction with
  | null => rfl
  | bool b => rfl
  | number n => rfl
  | string s => rfl
  | array items ih =>
    rw [canonical_array, canonical_array, List.map_map]
    exact congrArg array (List.map_congr_left ih)
  | object members ih =>
    -- Sorting leaves values alone, so they can be made canonical before the members are sorted.
    have again : mapValues canonical (mapValues canonical members) =
        mapValues canonical members := by
      rw [mapValues, mapValues, List.map_map]
      exact List.map_congr_left fun m hm => congrArg (Prod.mk m.1) (ih m hm)
    rw [canonical_object, canonical_object, mapValues_sortMembers, again,
      sortMembers_of_ascending (ascending_sortMembers _)]

/-- The value of a sorted member is that of a written one. -/
theorem exists_of_mem_canonical {members : List Member} {m : Member}
    (h : m ∈ sortMembers (mapValues canonical members)) :
    ∃ n ∈ members, m.2 = n.2.canonical := by
  obtain ⟨n, hn, rfl⟩ := List.mem_map.1 (mem_of_mem_sortMembers h)
  exact ⟨n, hn, rfl⟩

theorem FitsIn.canonical {levels : Nat} {v : Value} (h : v.FitsIn levels) :
    v.canonical.FitsIn levels := by
  induction v using Value.induction generalizing levels with
  | null => exact h
  | bool b => exact h
  | number n => exact h
  | string s => exact h
  | array items ih =>
    obtain ⟨room, fits⟩ := fitsIn_array.1 h
    rw [canonical_array]
    refine fitsIn_array.2 ⟨room, fun w hw => ?_⟩
    obtain ⟨v, hv, rfl⟩ := List.mem_map.1 hw
    exact ih v hv (fits v hv)
  | object members ih =>
    obtain ⟨room, fits⟩ := fitsIn_object.1 h
    rw [canonical_object]
    refine fitsIn_object.2 ⟨room, fun m hm => ?_⟩
    obtain ⟨n, hn, heq⟩ := exists_of_mem_canonical hm
    rw [heq]
    exact ih n hn (fits n hn)

theorem mem_numbers_of_canonical {v : Value} {n : Number} (h : n ∈ v.canonical.numbers) :
    n ∈ v.numbers := by
  induction v using Value.induction with
  | null => exact h
  | bool b => exact h
  | number m => exact h
  | string s => exact h
  | array items ih =>
    rw [canonical_array, mem_numbers_array] at h
    obtain ⟨w, hw, h⟩ := h
    obtain ⟨v, hv, rfl⟩ := List.mem_map.1 hw
    exact mem_numbers_array.2 ⟨v, hv, ih v hv h⟩
  | object members ih =>
    rw [canonical_object, mem_numbers_object] at h
    obtain ⟨m, hm, h⟩ := h
    obtain ⟨k, hk, heq⟩ := exists_of_mem_canonical hm
    rw [heq] at h
    exact mem_numbers_object.2 ⟨k, hk, ih k hk h⟩

end Value

end EventLink.Json

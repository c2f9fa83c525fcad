import EventLink.Json.Value
import Mathlib.Data.List.Nodup
/-!
Members of an object, and the values found in them.

Looking a key up finds the last value that is written for it.  Who knows only some keys sees no
difference when members are put into another order or others are added, as long as the members with
one key keep theirs.
-/
namespace EventLink.Json

/-- The last value that is written for a key, if there is one. -/
inductive LastValue (key : String) : List Member → Option Value → Prop
  | absent {members : List Member} (others : ∀ m ∈ members, m.1 ≠ key) : LastValue key members none
  | last (front : List Member) {back : List Member} {v : Value} (others : ∀ m ∈ back, m.1 ≠ key) :
      LastValue key (front ++ (key, v) :: back) (some v)

theorem exists_lastValue (key : String) (members : List Member) :
    ∃ value, LastValue key members value := by
  induction members with
  | nil => exact ⟨none, .absent fun _ h => absurd h List.not_mem_nil⟩
  | cons m rest ih =>
    obtain ⟨value, hrest⟩ := ih
    cases hrest with
    | last front others => exact ⟨_, .last (m :: front) others⟩
    | absent others =>
      by_cases same : m.1 = key
      · subst same
        exact ⟨_, .last [] others⟩
      · exact ⟨none, .absent (List.forall_mem_cons.2 ⟨same, others⟩)⟩

/-- What is found for a key depends on the members with that key and on their order. -/
theorem lookup_eq_getLast? (key : String) (members : List Member) :
    lookup key members = (members.filter (·.1 == key)).getLast?.map Prod.snd := by
  rw [lookup, ← List.head?_filter, List.filter_reverse, List.head?_reverse]

theorem filter_key_eq_nil {key : String} {members : List Member}
    (others : ∀ m ∈ members, m.1 ≠ key) : members.filter (·.1 == key) = [] :=
  List.filter_eq_nil_iff.2 fun m hm => by
    rw [beq_iff_eq]
    exact others m hm

theorem lookup_of_lastValue {key : String} {members : List Member} {value : Option Value}
    (h : LastValue key members value) : lookup key members = value := by
  rw [lookup_eq_getLast?]
  cases h with
  | absent others =>
    rw [filter_key_eq_nil others]
    rfl
  | last front others =>
    rw [List.filter_append, List.filter_cons, if_pos (beq_self_eq_true key),
      filter_key_eq_nil others, List.getLast?_concat]
    rfl

theorem lookup_eq_iff {key : String} {members : List Member} {value : Option Value} :
    lookup key members = value ↔ LastValue key members value := by
  constructor
  · intro h
    obtain ⟨last, hlast⟩ := exists_lastValue key members
    rw [lookup_of_lastValue hlast] at h
    exact h ▸ hlast
  · exact lookup_of_lastValue

/-- Members that stand in another order, or have others among them whose keys are not known. -/
inductive Rearranged (known : List String) : List Member → List Member → Prop
  | refl (members : List Member) : Rearranged known members members
  | reordered {members others : List Member} (perm : members.Perm others)
      (distinct : (members.map Prod.fst).Nodup) : Rearranged known members others
  | swapped {front back : List Member} {m n : Member} (different : m.1 ≠ n.1) :
      Rearranged known (front ++ m :: n :: back) (front ++ n :: m :: back)
  | extended {front back : List Member} {m : Member} (unknown : m.1 ∉ known) :
      Rearranged known (front ++ back) (front ++ m :: back)
  | trans {members others more : List Member} (first : Rearranged known members others)
      (second : Rearranged known others more) : Rearranged known members more

/-- Of members with distinct keys, no two have the same key. -/
theorem filter_key_ne_cons_cons {members : List Member} (distinct : (members.map Prod.fst).Nodup)
    (key : String) (m n : Member) (rest : List Member) :
    members.filter (·.1 == key) ≠ m :: n :: rest := by
  intro hfilter
  have keyOf (k : Member) (hk : k ∈ m :: n :: rest) : k.1 = key := by
    rw [← hfilter] at hk
    exact beq_iff_eq.1 (List.mem_filter.1 hk).2
  have kept : ((members.filter (·.1 == key)).map Prod.fst).Nodup :=
    distinct.sublist (List.filter_sublist.map Prod.fst)
  rw [hfilter, List.map_cons, List.map_cons, keyOf m (by simp), keyOf n (by simp)] at kept
  exact (List.nodup_cons.1 kept).1 List.mem_cons_self

theorem filter_key_of_perm {members others : List Member} (perm : members.Perm others)
    (distinct : (members.map Prod.fst).Nodup) (key : String) :
    others.filter (·.1 == key) = members.filter (·.1 == key) := by
  -- At most one member is left on either side, and there is one order for that.
  have same := (perm.filter (·.1 == key)).symm
  rcases hfilter : members.filter (·.1 == key) with _ | ⟨m, _ | ⟨n, rest⟩⟩
  · rw [hfilter] at same
    exact same.eq_nil.trans hfilter.symm
  · rw [hfilter] at same
    exact (List.perm_singleton.1 same).trans hfilter.symm
  · exact absurd hfilter (filter_key_ne_cons_cons distinct key m n rest)

/-- Members with a known key stay, in their order. -/
theorem Rearranged.filter_key {known : List String} {members others : List Member}
    (h : Rearranged known members others) {key : String} (hkey : key ∈ known) :
    others.filter (·.1 == key) = members.filter (·.1 == key) := by
  induction h with
  | refl members => rfl
  | reordered perm distinct => exact filter_key_of_perm perm distinct key
  | @swapped front back m n different =>
    by_cases hm : m.1 = key
    · have hn : n.1 ≠ key := fun hn => different (hm.trans hn.symm)
      simp [hm, hn]
    · simp [List.filter_cons, hm]
  | @extended front back m unknown =>
    have other : m.1 ≠ key := fun same => unknown (same ▸ hkey)
    simp [other]
  | trans _ _ first second => rw [second, first]

theorem Rearranged.lookup_eq {known : List String} {members others : List Member}
    (h : Rearranged known members others) {key : String} (hkey : key ∈ known) :
    lookup key others = lookup key members := by
  rw [lookup_eq_getLast?, lookup_eq_getLast?, h.filter_key hkey]

end EventLink.Json

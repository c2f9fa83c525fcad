/-!
Where identifiers come from.
-/
namespace EventLink

/-- From an index on no identifier of a stream comes twice. -/
def DistinctFrom (start : Nat) (stream : Nat → String) : Prop :=
  ∀ m n, start ≤ m → m < n → stream m ≠ stream n

/-- Of one identifier more than are in use, one is not. -/
theorem DistinctFrom.exists_not_mem {start : Nat} {stream : Nat → String}
    (h : DistinctFrom start stream) (used : List String) :
    ∃ n, start ≤ n ∧ n < start + (used.length + 1) ∧ stream n ∉ used := by
  let drawn := (List.range' start (used.length + 1)).map stream
  have hnodup : drawn.Nodup := by
    rw [List.Nodup, List.pairwise_map]
    refine List.Pairwise.imp_of_mem ?_ (List.pairwise_lt_range' 1)
    intro m n hm _ hlt
    exact h m n (List.mem_range'_1.mp hm).1 hlt
  apply Classical.byContradiction
  intro hnone
  have hused : drawn ⊆ used := by
    intro id hid
    obtain ⟨n, hn, rfl⟩ := List.mem_map.mp hid
    obtain ⟨hfrom, hbelow⟩ := List.mem_range'_1.mp hn
    exact Classical.byContradiction fun hunused => hnone ⟨n, hfrom, hbelow, hunused⟩
  have hlength := hnodup.length_le_of_subset hused
  rw [List.length_map, List.length_range'] at hlength
  exact Nat.not_succ_le_self _ hlength

/-- A stream of identifiers, of which so many were drawn already.  Its patience says after how many
draws from an index on it is clear whether any more identifiers come besides those in use. -/
structure IdSource where
  stream : Nat → String
  drawn : Nat
  patience : List String → Nat → Nat
  patient : ∀ (used : List String) (index free : Nat), index ≤ free → stream free ∉ used →
    ∃ n, index ≤ n ∧ n < index + patience used index ∧ stream n ∉ used

namespace IdSource

/-- The identifier at an index of a list, and `g1`, `g2` and so on after its end. -/
def listed (ids : List String) (index : Nat) : String :=
  match ids[index]? with
  | some id => id
  | none => "g" ++ toString (index - ids.length + 1)

theorem listed_of_le {ids : List String} {index : Nat} (h : ids.length ≤ index) :
    listed ids index = "g" ++ toString (index - ids.length + 1) := by
  rw [listed, List.getElem?_eq_none h]

/-- A number can be read off its digits. -/
theorem toString_inj {m n : Nat} (h : toString m = toString n) : m = n := by
  rw [Nat.toString_eq_ofList_toDigits, Nat.toString_eq_ofList_toDigits] at h
  have hdigits : Nat.toDigits 10 m = Nat.toDigits 10 n := String.ofList_injective h
  rw [← Nat.ofDigitChars_ten_toDigits (n := m), hdigits, Nat.ofDigitChars_ten_toDigits]

theorem listed_distinctFrom (ids : List String) : DistinctFrom ids.length (listed ids) := by
  intro m n hm hlt hsame
  rw [listed_of_le hm, listed_of_le (Nat.le_trans hm (Nat.le_of_lt hlt))] at hsame
  have hindex := toString_inj ((String.append_right_inj "g").mp hsame)
  omega

/-- The given identifiers, and then `g1`, `g2` and so on.  From the end of the list on no identifier
repeats. -/
def ofList (ids : List String) : IdSource where
  stream := listed ids
  drawn := 0
  patience (used : List String) (index : Nat) := ids.length - index + (used.length + 1)
  patient := by
    intro used index free _ _
    have hdistinct : DistinctFrom (index + (ids.length - index)) (listed ids) := by
      intro m n hm
      exact listed_distinctFrom ids m n (by omega)
    obtain ⟨n, hfrom, hbelow, hunused⟩ := hdistinct.exists_not_mem used
    exact ⟨n, by omega, by omega, hunused⟩

/-- How many identifiers there are for a source that needs no list. -/
def spaceSize : Nat := 2000000000

/-- The decimal numbers below the size of the space, one after another and over again. -/
def decimals : IdSource where
  stream (index : Nat) := toString (index % spaceSize)
  drawn := 0
  patience (_ : List String) (_ : Nat) := spaceSize
  patient := by
    intro used index free hle hunused
    -- One turn through the space passes every identifier there is.
    have hspace : 0 < spaceSize := by decide
    refine ⟨index + (free - index) % spaceSize, Nat.le_add_right _ _, ?_, ?_⟩
    · exact Nat.add_lt_add_left (Nat.mod_lt _ hspace) index
    · rwa [Nat.add_mod_mod, Nat.add_sub_cancel' hle]

def isDecimal (id : String) : Bool :=
  !id.isEmpty && id.toList.all Char.isDigit && Nat.ofDigitChars 10 id.toList 0 < spaceSize

end IdSource

end EventLink

import EventLink.Json.Printer
import EventLink.Proofs.Json.Canonical
import EventLink.Proofs.Json.Reading
/-!
Printing and the grammar.

The compact text of a value is JSON for that value, as long as its numbers are integers of at most
64 bits, whose digits are read back exactly.
-/
namespace EventLink.Json

/-- An integer that fits 64 bits, with a sign or without one. -/
def Number.IsWord : Number → Prop
  | .integer n => -0x8000000000000000 ≤ n ∧ n ≤ 0xffffffffffffffff
  | .double _ => False

instance (n : Number) : Decidable n.IsWord :=
  match n with
  | .integer n => inferInstanceAs (Decidable (-0x8000000000000000 ≤ n ∧ n ≤ 0xffffffffffffffff))
  | .double _ => inferInstanceAs (Decidable False)

theorem hexQuad_control :
    ∀ n < 0x20, hexQuad '0' '0' (hexChar (n / 16)) (hexChar n) = some n := by
  decide

/-- An escaped character is a spelling of that character. -/
theorem spelling_escapedChar (c : Char) : CharSpelling c (escapedChar c) := by
  unfold escapedChar
  split
  · exact .letter rfl
  · exact .letter rfl
  · exact .letter rfl
  · exact .letter rfl
  · exact .letter rfl
  · exact .letter rfl
  · exact .letter rfl
  · next notQuote notBackslash _ _ _ _ _ =>
    split
    · next control =>
      have spelled := CharSpelling.unit (hexQuad_control c.toNat control)
        (fun high => absurd (Nat.lt_of_le_of_lt high.1 control) (by decide))
        (fun low => absurd (Nat.lt_of_le_of_lt low.1 control) (by decide))
      rwa [Char.ofNat_toNat] at spelled
    · next visible => exact .plain (Nat.not_lt.1 visible) notQuote notBackslash

theorem spelling_escapedChars (cs : List Char) : BodySpelling cs (cs.flatMap escapedChar) := by
  induction cs with
  | nil => exact .nil
  | cons c cs ih =>
    rw [List.flatMap_cons]
    exact .cons (spelling_escapedChar c) ih

theorem spelling_stringChars (s : String) : TokenSpelling (.string s) (stringChars s) :=
  .string (spelling_escapedChars s.toList)

theorem le_ofDigitChars (ds : List Char) (value : Nat) : value ≤ Nat.ofDigitChars 10 ds value := by
  rw [Nat.ofDigitChars_eq_ofDigitChars_zero]
  have grows : 1 * value ≤ 10 ^ ds.length * value :=
    Nat.mul_le_mul_right value (Nat.one_le_pow _ _ (by decide))
  omega

/-- Digits whose value is within the limit are all gathered. -/
theorem gather_of_le {limit : Nat} {ds : List Char} {value : Nat}
    (le : Nat.ofDigitChars 10 ds value ≤ limit) :
    gather limit value ds = (Nat.ofDigitChars 10 ds value, []) := by
  induction ds generalizing value with
  | nil => rfl
  | cons d ds ih =>
    rw [Nat.ofDigitChars_cons] at le ⊢
    have within : ¬limit < 10 * value + digitValue d :=
      Nat.not_lt.2 (Nat.le_trans (le_ofDigitChars ds _) le)
    rw [gather, if_neg within]
    exact ih le

theorem head_toDigits {n : Nat} (positive : 0 < n) : (Nat.toDigits 10 n).head? ≠ some '0' := by
  induction n using Nat.strongRecOn with
  | ind n ih =>
    by_cases small : n < 10
    · rw [Nat.toDigits_of_lt_base small, List.head?_cons, Ne, Option.some.injEq,
        Nat.digitChar_eq_zero]
      omega
    · rw [Nat.toDigits_of_base_le (by decide) (Nat.not_lt.1 small),
        List.head?_append_of_ne_nil _ Nat.toDigits_ne_nil]
      exact ih (n / 10) (by omega) (by omega)

theorem isWhole_toDigits (n : Nat) : IsWhole (Nat.toDigits 10 n) where
  nonempty := Nat.toDigits_ne_nil
  digits := fun _ hc => Nat.isDigit_of_mem_toDigits (by decide) (by decide) hc
  noZero := by
    intro head
    rcases Nat.eq_zero_or_pos n with rfl | positive
    · exact Nat.toDigits_zero 10
    · exact absurd head (head_toDigits positive)

/-- The digits of a number of 64 bits are a numeral with its value. -/
theorem value_toDigits {negative : Bool} {n : Nat} (le : n ≤ largestSignificand) {m : Number}
    (meant : Numeral.integer negative n = some m) :
    Numeral.value ⟨negative, Nat.toDigits 10 n, [], none⟩ = .ok m := by
  have gathered : gather largestSignificand 0 (Nat.toDigits 10 n) = (n, []) := by
    rw [gather_of_le (by rwa [Nat.ofDigitChars_ten_toDigits]), Nat.ofDigitChars_ten_toDigits]
  simp [Numeral.value, gathered, meant]

theorem spelling_toDigits {negative : Bool} {n : Nat} (le : n ≤ largestSignificand) {m : Number}
    (meant : Numeral.integer negative n = some m) :
    TokenSpelling (.number m) (minusSign negative ++ Nat.toDigits 10 n) := by
  have spelled : NumeralSpelling ⟨negative, Nat.toDigits 10 n, [], none⟩
      (Nat.toDigits 10 n ++ ([] ++ [])) :=
    .mk (isWhole_toDigits n) .none .none
  rw [List.append_nil, List.append_nil] at spelled
  exact .number spelled (value_toDigits le meant)

/-- The digits of an integer of 64 bits are a spelling of it. -/
theorem spelling_chars {n : Number} (word : n.IsWord) : TokenSpelling (.number n) n.chars := by
  cases n with
  | double x => exact absurd word id
  | integer i =>
    obtain ⟨least, most⟩ := word
    cases i with
    | ofNat n =>
      have le : n ≤ largestSignificand := by
        rw [largestSignificand]
        exact Int.ofNat_le.1 most
      have meant : Numeral.integer false n = some (.integer (Int.ofNat n)) := rfl
      exact spelling_toDigits le meant
    | negSucc n =>
      have le : n + 1 ≤ largestSignificand := by
        rw [largestSignificand]
        omega
      have fits : ¬(n + 1 = 0 ∨ 0x8000000000000000 < n + 1) := by omega
      have meant : Numeral.integer true (n + 1) = some (.integer (Int.negSucc n)) := by
        rw [Numeral.integer, if_neg (by decide), if_neg fits]
        rfl
      exact spelling_toDigits le meant

namespace Value

/-- All numbers in a value are integers of at most 64 bits. -/
def IsExact (v : Value) : Prop :=
  ∀ n ∈ v.numbers, n.IsWord

instance (v : Value) : Decidable v.IsExact :=
  inferInstanceAs (Decidable (∀ n ∈ v.numbers, n.IsWord))

/-- The text of a value spells its tokens. -/
def IsSpelled (v : Value) : Prop :=
  Spelled v.tokens v.chars

theorem spelled_itemChars {items : List Value} (spelled : ∀ v ∈ items, v.IsSpelled) :
    Spelled (itemTokens items) (itemChars items) := by
  induction items with
  | nil => exact TokenSpelling.listEnd.spelled
  | cons v items ih =>
    obtain ⟨hv, hitems⟩ := List.forall_mem_cons.1 spelled
    exact .token .comma (hv.append (ih hitems))

theorem spelled_memberChars {members : List Member} (spelled : ∀ m ∈ members, m.2.IsSpelled) :
    Spelled (memberTokens members) (memberChars members) := by
  induction members with
  | nil => exact TokenSpelling.objectEnd.spelled
  | cons m members ih =>
    obtain ⟨hm, hmembers⟩ := List.forall_mem_cons.1 spelled
    exact .token .comma (.token (spelling_stringChars m.1)
      (.token .colon (hm.append (ih hmembers))))

/-- The compact text of a value spells its tokens. -/
theorem spelled_chars {v : Value} (exact : v.IsExact) : v.IsSpelled := by
  induction v using Value.induction with
  | null => exact TokenSpelling.null.spelled
  | bool b => cases b <;> exact TokenSpelling.spelled (by constructor)
  | number n =>
    exact (spelling_chars (exact n List.mem_cons_self)).spelled
  | string s => exact (spelling_stringChars s).spelled
  | array items ih =>
    have spelled : ∀ v ∈ items, v.IsSpelled := fun v hv =>
      ih v hv fun n hn => exact n (mem_numbers_array.2 ⟨v, hv, hn⟩)
    cases items with
    | nil => exact .token .listStart TokenSpelling.listEnd.spelled
    | cons v items =>
      obtain ⟨hv, hitems⟩ := List.forall_mem_cons.1 spelled
      exact .token .listStart (hv.append (spelled_itemChars hitems))
  | object members ih =>
    have spelled : ∀ m ∈ members, m.2.IsSpelled := fun m hm =>
      ih m hm fun n hn => exact n (mem_numbers_object.2 ⟨m, hm, hn⟩)
    cases members with
    | nil => exact .token .objectStart TokenSpelling.objectEnd.spelled
    | cons m members =>
      obtain ⟨hm, hmembers⟩ := List.forall_mem_cons.1 spelled
      exact .token .objectStart (.token (spelling_stringChars m.1)
        (.token .colon (hm.append (spelled_memberChars hmembers))))

/-- The text of a value is JSON for it. -/
theorem represents_text {v : Value} (exact : v.IsExact) (nested : v.FitsIn 0) :
    Represents v.text v where
  spelled := by
    rw [text, String.toList_ofList]
    exact spelled_chars exact
  nested := nested

/-- A value that may be a member of a frame: nested at most 126 levels, with no other numbers than
integers of 64 bits. -/
structure IsPortable (v : Value) : Prop where
  nested : v.depth ≤ 126
  exact : v.IsExact

instance (v : Value) : Decidable v.IsPortable :=
  decidable_of_iff (v.depth ≤ 126 ∧ v.IsExact) ⟨fun h => ⟨h.1, h.2⟩, fun h => ⟨h.nested, h.exact⟩⟩

theorem IsPortable.canonical {v : Value} (h : v.IsPortable) : v.canonical.IsPortable where
  nested := by
    have fits : v.canonical.FitsIn 1 := FitsIn.canonical (by
      have := h.nested
      rw [FitsIn, tooManyLevels]
      omega)
    rw [FitsIn, tooManyLevels] at fits
    omega
  exact := fun n hn => h.exact n (mem_numbers_of_canonical hn)

theorem isPortable_string (s : String) : (string s).IsPortable where
  nested := Nat.zero_le 126
  exact := fun _ h => absurd h List.not_mem_nil

/-- The text of an object with portable members is JSON for it. -/
theorem represents_object {members : List Member} (portable : ∀ m ∈ members, m.2.IsPortable) :
    Represents (object members).text (.object members) := by
  refine represents_text ?_ (fitsIn_object.2 ⟨by decide, ?_⟩)
  · intro n hn
    obtain ⟨m, hm, hn⟩ := mem_numbers_object.1 hn
    exact (portable m hm).exact n hn
  · intro m hm
    have := (portable m hm).nested
    rw [FitsIn, tooManyLevels]
    omega

end Value

end EventLink.Json

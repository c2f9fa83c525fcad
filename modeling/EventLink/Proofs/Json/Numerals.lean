import EventLink.Proofs.Json.Grammar
import EventLink.Json.NumberLiteral
/-!
Numerals and the grammar.

Reading a numeral accepts exactly its spellings.  It takes every character that could belong to the
numeral, so a spelling is only read as a whole if what follows it cannot go on with a number.
-/
namespace EventLink.Json

/-- Characters that may go on with the whole part of a number and its places. -/
def continuesPlaces (c : Char) : Bool :=
  c.isDigit || c == '.'

/-- Characters that may go on with a number. -/
def continuesNumber (c : Char) : Bool :=
  continuesPlaces c || c == 'e' || c == 'E'

/-- A text that does not begin with a character of a kind. -/
def StopsAt (p : Char → Bool) (cs : List Char) : Prop :=
  ∀ c ∈ cs.head?, p c = false

theorem StopsAt.mono {p q : Char → Bool} {cs : List Char} (h : StopsAt p cs)
    (le : ∀ c, q c = true → p c = true) : StopsAt q cs := by
  intro c hc
  cases hq : q c with
  | false => rfl
  | true => exact absurd ((le c hq).symm.trans (h c hc)) (by decide)

theorem StopsAt.places {cs : List Char} (h : StopsAt continuesNumber cs) :
    StopsAt continuesPlaces cs :=
  h.mono fun c hc => by rw [continuesNumber, hc]; rfl

theorem StopsAt.digits {cs : List Char} (h : StopsAt continuesPlaces cs) :
    StopsAt Char.isDigit cs :=
  h.mono fun c hc => by rw [continuesPlaces, hc]; rfl

theorem splitDigits_append {ds rest : List Char} (digits : ∀ c ∈ ds, c.isDigit = true)
    (stops : StopsAt Char.isDigit rest) : splitDigits (ds ++ rest) = (ds, rest) := by
  rw [splitDigits, List.takeWhile_append_of_pos digits, List.dropWhile_append_of_pos digits]
  cases rest with
  | nil => simp
  | cons c tail => simp [stops c rfl]

theorem append_splitDigits (cs : List Char) :
    (splitDigits cs).1 ++ (splitDigits cs).2 = cs :=
  List.takeWhile_append_dropWhile

theorem digits_splitDigits (cs : List Char) :
    ∀ c ∈ (splitDigits cs).1, c.isDigit = true :=
  List.all_eq_true.1 List.all_takeWhile

/-- At least one digit is split off, unless the end of the text or another character is found in its
place. -/
theorem isDigits_of_splitDigits {cs ds rest : List Char} (found : splitDigits cs = (ds, rest))
    (notAtEnd : ds = [] → rest = [] → False)
    (notAtOther : ∀ c tail, ds = [] → rest = c :: tail → False) :
    IsDigits ds ∧ cs = ds ++ rest := by
  have whole := append_splitDigits cs
  have digits := digits_splitDigits cs
  rw [found] at whole digits
  refine ⟨⟨?_, digits⟩, whole.symm⟩
  rintro rfl
  cases rest with
  | nil => exact notAtEnd rfl rfl
  | cons c tail => exact notAtOther c tail rfl rfl

theorem wholeDigits_append {whole rest : List Char} (h : IsWhole whole)
    (stops : StopsAt Char.isDigit rest) : wholeDigits (whole ++ rest) = .ok (whole, rest) := by
  cases whole with
  | nil => exact absurd rfl h.nonempty
  | cons d ds =>
    have hd := h.digits d List.mem_cons_self
    have hds : ∀ c ∈ ds, c.isDigit = true := fun c hc => h.digits c (List.mem_cons_of_mem d hc)
    by_cases zero : d = '0'
    · obtain ⟨rfl, rfl⟩ := List.cons.inj (h.noZero (congrArg some zero))
      cases rest with
      | nil => rfl
      | cons c tail =>
        have hc : c.isDigit = false := stops c rfl
        simp [wholeDigits, hc]
    · simp only [List.cons_append, wholeDigits, hd, if_true, splitDigits_append hds stops]

theorem whole_of_wholeDigits {cs whole rest : List Char}
    (h : wholeDigits cs = .ok (whole, rest)) : IsWhole whole ∧ cs = whole ++ rest := by
  have zero : IsWhole ['0'] :=
    ⟨⟨List.cons_ne_nil _ _, List.forall_mem_singleton.2 rfl⟩, fun _ => rfl⟩
  unfold wholeDigits at h
  split at h
  · cases h
  · split at h
    · split at h
      · cases h
      · cases h
        exact ⟨zero, rfl⟩
    · cases h
      exact ⟨zero, rfl⟩
  · next d tail notZero =>
    split at h
    · next isDigit =>
      simp only [Except.ok.injEq, Prod.mk.injEq] at h
      obtain ⟨rfl, rfl⟩ := h
      refine ⟨⟨⟨List.cons_ne_nil _ _, ?_⟩, ?_⟩, ?_⟩
      · exact List.forall_mem_cons.2 ⟨isDigit, digits_splitDigits tail⟩
      · intro head
        exact absurd (Option.some.inj head) fun h => notZero h
      · rw [List.cons_append, append_splitDigits]
    · cases h

theorem placeDigits_append {places ps rest : List Char} (h : PlacesSpelling places ps)
    (stops : StopsAt continuesPlaces rest) :
    placeDigits (ps ++ rest) = .ok (places, rest) := by
  cases h with
  | none =>
    rw [List.nil_append]
    unfold placeDigits
    split
    · have := stops '.' rfl
      cases this
    · rfl
  | some digits =>
    simp only [List.cons_append, placeDigits, splitDigits_append digits.digits stops.digits]
    cases places with
    | nil => exact absurd rfl digits.nonempty
    | cons => rfl

theorem places_of_placeDigits {cs places rest : List Char}
    (h : placeDigits cs = .ok (places, rest)) :
    ∃ ps, PlacesSpelling places ps ∧ cs = ps ++ rest := by
  unfold placeDigits at h
  split at h
  · next tail =>
    split at h
    · cases h
    · cases h
    · next ds after notAtEnd notAtOther found =>
      cases h
      obtain ⟨digits, rfl⟩ := isDigits_of_splitDigits found notAtEnd notAtOther
      exact ⟨'.' :: places, .some digits, rfl⟩
  · cases h
    exact ⟨[], .none, rfl⟩

theorem powerSign_append {negative : Bool} {sign ds : List Char} (h : SignSpelling negative sign)
    (digits : IsDigits ds) (rest : List Char) :
    powerSign (sign ++ (ds ++ rest)) = (negative, ds ++ rest) := by
  cases h with
  | none =>
    cases ds with
    | nil => exact absurd rfl digits.nonempty
    | cons d ds =>
      have hd := digits.digits d List.mem_cons_self
      rw [List.nil_append, List.cons_append]
      unfold powerSign
      split
      · next head =>
        obtain ⟨rfl, _⟩ := List.cons.inj head
        cases hd
      · next head =>
        obtain ⟨rfl, _⟩ := List.cons.inj head
        cases hd
      · rfl
  | plus => rfl
  | minus => rfl

theorem sign_of_powerSign (cs : List Char) :
    ∃ sign, SignSpelling (powerSign cs).1 sign ∧ cs = sign ++ (powerSign cs).2 := by
  unfold powerSign
  split
  · exact ⟨['-'], .minus, rfl⟩
  · exact ⟨['+'], .plus, rfl⟩
  · exact ⟨[], .none, rfl⟩

theorem powerDigits_append {power : Option Power} {ps rest : List Char}
    (h : PowerSpelling power ps) (stops : StopsAt continuesNumber rest) :
    powerDigits (ps ++ rest) = .ok (power, rest) := by
  cases h with
  | none =>
    cases rest with
    | nil => rfl
    | cons c tail =>
      have notMark : ¬(c = 'e' ∨ c = 'E') := by
        have hc := stops c rfl
        rintro (rfl | rfl) <;> cases hc
      exact if_neg notMark
  | @some mark sign power isMark signed digits =>
    obtain ⟨negative, ds⟩ := power
    simp only [List.cons_append, List.append_assoc, powerDigits, if_pos isMark,
      powerSign_append signed digits, splitDigits_append digits.digits stops.places.digits]
    cases ds with
    | nil => exact absurd rfl digits.nonempty
    | cons => rfl

theorem power_of_powerDigits {cs rest : List Char} {power : Option Power}
    (h : powerDigits cs = .ok (power, rest)) :
    ∃ ps, PowerSpelling power ps ∧ cs = ps ++ rest := by
  unfold powerDigits at h
  split at h
  · cases h
    exact ⟨[], .none, rfl⟩
  · next mark tail =>
    split at h
    · next isMark =>
      obtain ⟨sign, signed, htail⟩ := sign_of_powerSign tail
      dsimp only at h
      split at h
      · cases h
      · cases h
      · next ds after notAtEnd notAtOther found =>
        cases h
        obtain ⟨digits, hds⟩ := isDigits_of_splitDigits found notAtEnd notAtOther
        refine ⟨mark :: (sign ++ ds), .some isMark signed digits, ?_⟩
        rw [htail, hds, List.cons_append, List.append_assoc]
    · cases h
      exact ⟨[], .none, rfl⟩

theorem PlacesSpelling.stops {places ps rest : List Char} (h : PlacesSpelling places ps)
    (stops : StopsAt continuesPlaces rest) : StopsAt Char.isDigit (ps ++ rest) := by
  cases h with
  | none => exact stops.digits
  | some =>
    rintro c ⟨⟩
    rfl

theorem PowerSpelling.stops {power : Option Power} {ps rest : List Char}
    (h : PowerSpelling power ps) (stops : StopsAt continuesNumber rest) :
    StopsAt continuesPlaces (ps ++ rest) := by
  cases h with
  | none => exact stops.places
  | some isMark =>
    rintro c ⟨⟩
    rcases isMark with rfl | rfl <;> rfl

/-- Every spelling of a numeral is read as that numeral, as far as it goes. -/
theorem numeral_append {n : Numeral} {cs rest : List Char} (h : NumeralSpelling n cs)
    (stops : StopsAt continuesNumber rest) :
    numeral n.negative (cs ++ rest) = .ok (n, rest) := by
  cases h with
  | mk whole pointed powered =>
    have afterPlaces := powered.stops stops
    have afterWhole := pointed.stops afterPlaces
    simp only [numeral, List.append_assoc, wholeDigits_append whole afterWhole,
      placeDigits_append pointed afterPlaces, powerDigits_append powered stops]

/-- What is read as a numeral is a spelling of it. -/
theorem spelling_of_numeral {negative : Bool} {cs rest : List Char} {n : Numeral}
    (h : numeral negative cs = .ok (n, rest)) :
    ∃ ds, NumeralSpelling n ds ∧ n.negative = negative ∧ cs = ds ++ rest := by
  unfold numeral at h
  split at h
  · cases h
  · next whole afterWhole readWhole =>
    split at h
    · cases h
    · next places afterPlaces readPlaces =>
      split at h
      · cases h
      · next power afterPower readPower =>
        cases h
        obtain ⟨isWhole, rfl⟩ := whole_of_wholeDigits readWhole
        obtain ⟨ps, pointed, rfl⟩ := places_of_placeDigits readPlaces
        obtain ⟨es, powered, rfl⟩ := power_of_powerDigits readPower
        refine ⟨whole ++ (ps ++ es), .mk isWhole pointed powered, rfl, ?_⟩
        rw [List.append_assoc, List.append_assoc]

end EventLink.Json

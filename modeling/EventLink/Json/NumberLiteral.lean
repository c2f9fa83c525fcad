import EventLink.Json.Fault
import EventLink.Json.Numeral
/-!
Numbers of a JSON text: a whole part without leading zeros, places after a point, and an exponent.

A numeral is read to its end before its value is computed.  The lemmas say that reading uses up text.
-/
namespace EventLink.Json

/-- The digits at the front of a text, and what follows them. -/
def splitDigits (cs : List Char) : List Char × List Char :=
  (cs.takeWhile Char.isDigit, cs.dropWhile Char.isDigit)

/-- The whole part of a numeral: a zero, or digits that do not begin with one. -/
def wholeDigits : List Char → Except Fault (List Char × List Char)
  | [] => .error (.before .endInValue [])
  | '0' :: rest =>
    match rest with
    | d :: _ => if d.isDigit then .error (.looking .invalidNumber rest) else .ok (['0'], rest)
    | [] => .ok (['0'], rest)
  | d :: rest =>
    if d.isDigit then
      let (digits, after) := splitDigits rest
      .ok (d :: digits, after)
    else .error (.looking .invalidNumber (d :: rest))

def placeDigits : List Char → Except Fault (List Char × List Char)
  | '.' :: rest =>
    match splitDigits rest with
    | ([], []) => .error (.before .endInValue [])
    | ([], _ :: _) => .error (.looking .invalidNumber rest)
    | (digits, after) => .ok (digits, after)
  | cs => .ok ([], cs)

/-- The sign of an exponent, plus if there is none. -/
def powerSign : List Char → Bool × List Char
  | '-' :: rest => (true, rest)
  | '+' :: rest => (false, rest)
  | cs => (false, cs)

def powerDigits (cs : List Char) : Except Fault (Option Power × List Char) :=
  match cs with
  | [] => .ok (none, cs)
  | mark :: rest =>
    if mark = 'e' ∨ mark = 'E' then
      let (negative, unsigned) := powerSign rest
      match splitDigits unsigned with
      | ([], []) => .error (.before .endInValue [])
      | ([], _ :: _) => .error (.looking .invalidNumber unsigned)
      | (digits, after) => .ok (some ⟨negative, digits⟩, after)
    else .ok (none, cs)

def numeral (negative : Bool) (cs : List Char) : Except Fault (Numeral × List Char) :=
  match wholeDigits cs with
  | .error fault => .error fault
  | .ok (whole, afterWhole) =>
    match placeDigits afterWhole with
    | .error fault => .error fault
    | .ok (places, afterPlaces) =>
      match powerDigits afterPlaces with
      | .error fault => .error fault
      | .ok (power, rest) => .ok (⟨negative, whole, places, power⟩, rest)

def number (negative : Bool) (cs : List Char) : Except Fault (Number × List Char) :=
  match numeral negative cs with
  | .error fault => .error fault
  | .ok (n, rest) =>
    match n.value with
    | .ok value => .ok (value, rest)
    | .error unread => .error (.before .numberOutOfRange (unread ++ rest))

theorem length_powerSign (cs : List Char) : (powerSign cs).2.length ≤ cs.length := by
  unfold powerSign
  split <;> simp

theorem length_splitDigits (cs : List Char) : (splitDigits cs).2.length ≤ cs.length :=
  (List.dropWhile_suffix Char.isDigit).length_le

theorem length_wholeDigits {cs rest whole : List Char} (h : wholeDigits cs = .ok (whole, rest)) :
    rest.length < cs.length := by
  unfold wholeDigits at h
  split at h
  · cases h
  · split at h
    · split at h
      · cases h
      · cases h
        simp
    · cases h
      simp
  · split at h
    · next d tail _ _ =>
      have shorter := length_splitDigits tail
      simp only [Except.ok.injEq, Prod.mk.injEq] at h
      rw [← h.2]
      simp
      omega
    · cases h

theorem length_placeDigits {cs rest places : List Char} (h : placeDigits cs = .ok (places, rest)) :
    rest.length ≤ cs.length := by
  unfold placeDigits at h
  split at h
  · next tail =>
    have shorter := length_splitDigits tail
    split at h
    · cases h
    · cases h
    · next found =>
      simp only [Except.ok.injEq, Prod.mk.injEq] at h
      rw [found] at shorter
      rw [← h.2]
      simp at shorter ⊢
      omega
  · cases h
    exact Nat.le_refl _

theorem length_powerDigits {cs rest : List Char} {power : Option Power}
    (h : powerDigits cs = .ok (power, rest)) : rest.length ≤ cs.length := by
  unfold powerDigits at h
  split at h
  · cases h
    exact Nat.le_refl _
  · next mark tail =>
    split at h
    · have shorter := length_splitDigits (powerSign tail).2
      have shorterStill := length_powerSign tail
      dsimp only at h
      split at h
      · cases h
      · cases h
      · next found =>
        simp only [Except.ok.injEq, Prod.mk.injEq] at h
        rw [found] at shorter
        rw [← h.2]
        simp at shorter ⊢
        omega
    · cases h
      exact Nat.le_refl _

theorem length_numeral {negative : Bool} {cs rest : List Char} {n : Numeral}
    (h : numeral negative cs = .ok (n, rest)) : rest.length < cs.length := by
  unfold numeral at h
  split at h
  · cases h
  · next whole =>
    split at h
    · cases h
    · next places =>
      split at h
      · cases h
      · next power =>
        have first := length_wholeDigits whole
        have second := length_placeDigits places
        have third := length_powerDigits power
        simp only [Except.ok.injEq, Prod.mk.injEq] at h
        rw [← h.2]
        omega

theorem length_number {negative : Bool} {cs rest : List Char} {n : Number}
    (h : number negative cs = .ok (n, rest)) : rest.length < cs.length := by
  unfold number at h
  split at h
  · cases h
  · next read =>
    have shorter := length_numeral read
    split at h
    · simp only [Except.ok.injEq, Prod.mk.injEq] at h
      rw [← h.2]
      exact shorter
    · cases h

end EventLink.Json

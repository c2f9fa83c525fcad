import EventLink.Json.Fault
/-!
Strings of a JSON text: characters that stand for themselves, and escapes.

An escape by code unit has four hexadecimal digits; two of them in a row make a pair of surrogates.
The lemmas say that reading uses up text, which is why it ends.
-/
namespace EventLink.Json

def hexValue (c : Char) : Option Nat :=
  if '0' ≤ c ∧ c ≤ '9' then some (c.toNat - '0'.toNat)
  else if 'a' ≤ c ∧ c ≤ 'f' then some (c.toNat - 'a'.toNat + 10)
  else if 'A' ≤ c ∧ c ≤ 'F' then some (c.toNat - 'A'.toNat + 10)
  else none

def hexQuad (a b c d : Char) : Option Nat :=
  match hexValue a, hexValue b, hexValue c, hexValue d with
  | some a, some b, some c, some d => some (((a * 16 + b) * 16 + c) * 16 + d)
  | _, _, _, _ => none

/-- Reads four hexadecimal digits.  The four bytes are taken together: if they are not there the
string ends, and if they are not digits all of them are used up. -/
def codeUnit (cs : List Char) : Except Fault (Nat × List Char) :=
  if byteCount (cs.take 4) < 4 then .error (.before .endInString [])
  else
    match cs with
    | a :: b :: c :: d :: rest =>
      match hexQuad a b c d with
      | some unit => .ok (unit, rest)
      | none => .error ⟨.invalidEscape, cs, 4⟩
    | _ => .error ⟨.invalidEscape, cs, 4⟩

/-- The second half of a surrogate pair, which has to follow the first half at once. -/
def lowSurrogate : List Char → Except Fault (Nat × List Char)
  | [] => .error (.before .endInString [])
  | ['\\'] => .error (.before .endInString [])
  | '\\' :: 'u' :: cs =>
    match codeUnit cs with
    | .error fault => .error fault
    | .ok (unit, rest) =>
      if 0xDC00 ≤ unit ∧ unit ≤ 0xDFFF then .ok (unit, rest)
      else .error (.before .loneSurrogate rest)
  | '\\' :: cs => .error (.looking .endOfSurrogatePair cs)
  | cs => .error (.looking .endOfSurrogatePair cs)

/-- The character of an escape by code unit: one unit, or a pair of surrogates. -/
def unicodeEscape (cs : List Char) : Except Fault (Char × List Char) :=
  match codeUnit cs with
  | .error fault => .error fault
  | .ok (unit, rest) =>
    if 0xDC00 ≤ unit ∧ unit ≤ 0xDFFF then .error (.before .loneSurrogate rest)
    else if 0xD800 ≤ unit ∧ unit ≤ 0xDBFF then
      match lowSurrogate rest with
      | .error fault => .error fault
      | .ok (low, after) =>
        .ok (Char.ofNat (0x10000 + (unit - 0xD800) * 0x400 + (low - 0xDC00)), after)
    else .ok (Char.ofNat unit, rest)

/-- The character that a letter stands for after a backslash. -/
def letterEscape (c : Char) : Option Char :=
  match c with
  | '"' => some '"'
  | '\\' => some '\\'
  | '/' => some '/'
  | 'b' => some '\x08'
  | 'f' => some '\x0c'
  | 'n' => some '\n'
  | 'r' => some '\r'
  | 't' => some '\t'
  | _ => none

def escape : List Char → Except Fault (Char × List Char)
  | [] => .error (.before .endInString [])
  | c :: rest =>
    if c = 'u' then unicodeEscape rest
    else
      match letterEscape c with
      | some meant => .ok (meant, rest)
      | none => .error (.looking .invalidEscape (c :: rest))

theorem length_codeUnit {cs rest : List Char} {unit : Nat} (h : codeUnit cs = .ok (unit, rest)) :
    rest.length < cs.length := by
  unfold codeUnit at h
  split at h
  · cases h
  · split at h
    · split at h
      · cases h
        simp
        omega
      · cases h
    · cases h

theorem length_lowSurrogate {cs rest : List Char} {unit : Nat}
    (h : lowSurrogate cs = .ok (unit, rest)) : rest.length < cs.length := by
  unfold lowSurrogate at h
  split at h
  · cases h
  · cases h
  · split at h
    · cases h
    · next read =>
      split at h
      · cases h
        have shorter := length_codeUnit read
        simp
        omega
      · cases h
  · cases h
  · cases h

theorem length_unicodeEscape {cs rest : List Char} {c : Char}
    (h : unicodeEscape cs = .ok (c, rest)) : rest.length < cs.length := by
  unfold unicodeEscape at h
  split at h
  · cases h
  · next read =>
    have shorter := length_codeUnit read
    split at h
    · cases h
    · split at h
      · split at h
        · cases h
        · next low =>
          have shorterStill := length_lowSurrogate low
          simp only [Except.ok.injEq, Prod.mk.injEq] at h
          rw [← h.2]
          omega
      · simp only [Except.ok.injEq, Prod.mk.injEq] at h
        rw [← h.2]
        exact shorter

theorem length_escape {cs rest : List Char} {c : Char} (h : escape cs = .ok (c, rest)) :
    rest.length < cs.length := by
  unfold escape at h
  split at h
  · cases h
  · split at h
    · have shorter := length_unicodeEscape h
      simp
      omega
    · split at h
      · cases h
        simp
      · cases h

/-- The characters of a string up to its closing quote, after those already read, last first. -/
def stringBody (read : List Char) (cs : List Char) : Except Fault (String × List Char) :=
  match cs with
  | [] => .error (.before .endInString [])
  | '"' :: rest => .ok (String.ofList read.reverse, rest)
  | '\\' :: rest =>
    match _found : escape rest with
    | .error fault => .error fault
    | .ok (c, after) => stringBody (c :: read) after
  | c :: rest =>
    if c.toNat < 0x20 then .error (.looking .controlCharacter (c :: rest))
    else stringBody (c :: read) rest
  termination_by cs.length
  decreasing_by
    · have shorter := length_escape _found
      simp
      omega
    · simp

theorem length_stringBody {cs rest : List Char} {s : String} (read : List Char)
    (h : stringBody read cs = .ok (s, rest)) : rest.length < cs.length := by
  fun_induction stringBody read cs with
  | case1 => cases h
  | case2 => cases h; simp
  | case3 => cases h
  | case4 read tail c after found ih =>
    have shorter := length_escape found
    have shorterStill := ih h
    simp
    omega
  | case5 => cases h
  | case6 read c tail _ _ _ ih =>
    have shorter := ih h
    simp
    omega

end EventLink.Json

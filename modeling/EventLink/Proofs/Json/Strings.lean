import EventLink.Proofs.Json.Grammar
/-!
Strings and the grammar.

Reading the characters of a string accepts exactly their spellings, and stops at the closing quote.
-/
namespace EventLink.Json

theorem byteCount_cons (c : Char) (cs : List Char) :
    byteCount (c :: cs) = c.utf8Size + byteCount cs := by
  have shift (n : Nat) (ds : List Char) :
      ds.foldl (fun (count : Nat) (d : Char) => count + d.utf8Size) n = n + byteCount ds := by
    induction ds generalizing n with
    | nil => rfl
    | cons d ds ih =>
      rw [byteCount, List.foldl_cons, List.foldl_cons, ih, ih, Nat.zero_add, Nat.add_assoc]
  rw [byteCount, List.foldl_cons, Nat.zero_add, shift]

theorem length_le_byteCount (cs : List Char) : cs.length ≤ byteCount cs := by
  induction cs with
  | nil => exact Nat.le_refl 0
  | cons c cs ih =>
    have := c.utf8Size_pos
    rw [List.length_cons, byteCount_cons]
    omega

/-- A code unit is four hexadecimal digits. -/
theorem codeUnit_quad {a b c d : Char} {unit : Nat} (digits : hexQuad a b c d = some unit)
    (rest : List Char) : codeUnit (a :: b :: c :: d :: rest) = .ok (unit, rest) := by
  have long : ¬byteCount [a, b, c, d] < 4 := Nat.not_lt.2 (length_le_byteCount [a, b, c, d])
  simp only [codeUnit, List.take, if_neg long, digits]

theorem quad_of_codeUnit {cs rest : List Char} {unit : Nat} (h : codeUnit cs = .ok (unit, rest)) :
    ∃ a b c d, hexQuad a b c d = some unit ∧ cs = a :: b :: c :: d :: rest := by
  unfold codeUnit at h
  split at h
  · cases h
  · split at h
    · next a b c d tail _ =>
      split at h
      · next digits =>
        cases h
        exact ⟨a, b, c, d, digits, rfl⟩
      · cases h
    · cases h

theorem lowSurrogate_quad {a b c d : Char} {unit : Nat} (digits : hexQuad a b c d = some unit)
    (isLow : IsLowSurrogate unit) (rest : List Char) :
    lowSurrogate ('\\' :: 'u' :: a :: b :: c :: d :: rest) = .ok (unit, rest) := by
  simp only [lowSurrogate, codeUnit_quad digits]
  exact if_pos isLow

theorem quad_of_lowSurrogate {cs rest : List Char} {unit : Nat}
    (h : lowSurrogate cs = .ok (unit, rest)) :
    ∃ a b c d, hexQuad a b c d = some unit ∧ IsLowSurrogate unit ∧
      cs = '\\' :: 'u' :: a :: b :: c :: d :: rest := by
  unfold lowSurrogate at h
  split at h
  · cases h
  · cases h
  · split at h
    · cases h
    · next read =>
      split at h
      · next isLow =>
        cases h
        obtain ⟨a, b, c, d, digits, rfl⟩ := quad_of_codeUnit read
        exact ⟨a, b, c, d, digits, isLow, rfl⟩
      · cases h
  · cases h
  · cases h

/-- What is read after a backslash is, with it, a spelling of the character. -/
theorem spelling_of_unicodeEscape {cs rest : List Char} {c : Char}
    (h : unicodeEscape cs = .ok (c, rest)) :
    ∃ ds, CharSpelling c ('\\' :: 'u' :: ds) ∧ cs = ds ++ rest := by
  unfold unicodeEscape at h
  split at h
  · cases h
  · next unit after read =>
    obtain ⟨_, _, _, _, digits, rfl⟩ := quad_of_codeUnit read
    split at h
    · cases h
    · next notLow =>
      split at h
      · next isHigh =>
        split at h
        · cases h
        · next low =>
          simp only [Except.ok.injEq, Prod.mk.injEq] at h
          obtain ⟨rfl, rfl⟩ := h
          obtain ⟨_, _, _, _, second, isLow, rfl⟩ := quad_of_lowSurrogate low
          exact ⟨_, .pair digits second isHigh isLow, rfl⟩
      · next notHigh =>
        cases h
        exact ⟨_, .unit digits notHigh notLow, rfl⟩

theorem spelling_of_escape {cs rest : List Char} {c : Char} (h : escape cs = .ok (c, rest)) :
    ∃ ds, CharSpelling c ('\\' :: ds) ∧ cs = ds ++ rest := by
  unfold escape at h
  split at h
  · cases h
  · next l tail =>
    split at h
    · next isUnit =>
      obtain ⟨ds, spelled, rfl⟩ := spelling_of_unicodeEscape h
      exact ⟨l :: ds, isUnit ▸ spelled, rfl⟩
    · split at h
      · next meant =>
        cases h
        exact ⟨[l], .letter meant, rfl⟩
      · cases h

/-- Every escape is read as the character that it spells. -/
theorem escape_of_spelling {c : Char} {ds : List Char} (h : CharSpelling c ('\\' :: ds))
    (rest : List Char) : escape (ds ++ rest) = .ok (c, rest) := by
  cases h with
  | plain _ _ notBackslash => exact absurd rfl notBackslash
  | @letter _ l meant =>
    have notUnit : l ≠ 'u' := by
      rintro rfl
      cases meant
    simp only [List.cons_append, List.nil_append, escape, if_neg notUnit, meant]
  | unit digits notHigh notLow =>
    simp only [List.cons_append, List.nil_append, escape, if_true, unicodeEscape,
      codeUnit_quad digits]
    exact (if_neg notLow).trans (if_neg notHigh)
  | @pair _ _ _ _ _ _ _ _ high _ first second isHigh isLow =>
    have notLow : ¬IsLowSurrogate high := fun h => absurd (Nat.le_trans h.1 isHigh.2) (by decide)
    simp only [List.cons_append, List.nil_append, escape, if_true, unicodeEscape,
      codeUnit_quad first, lowSurrogate_quad second isLow]
    exact (if_neg notLow).trans (if_pos isHigh)

theorem stringBody_quote (read rest : List Char) :
    stringBody read ('"' :: rest) = .ok (String.ofList read.reverse, rest) := by
  rw [stringBody]

theorem stringBody_escape {read cs rest : List Char} {c : Char}
    (h : escape cs = .ok (c, rest)) :
    stringBody read ('\\' :: cs) = stringBody (c :: read) rest := by
  rw [stringBody]
  split
  · next found =>
    rw [h] at found
    cases found
  · next found =>
    rw [h] at found
    cases found
    rfl

theorem stringBody_plain {read rest : List Char} {c : Char} (visible : 0x20 ≤ c.toNat)
    (notQuote : c ≠ '"') (notBackslash : c ≠ '\\') :
    stringBody read (c :: rest) = stringBody (c :: read) rest := by
  rw [stringBody]
  · rw [if_neg (Nat.not_lt.2 visible)]
  · exact notQuote
  · exact notBackslash

/-- One spelling is read as one character. -/
theorem stringBody_spelling {c : Char} {cs : List Char} (h : CharSpelling c cs)
    (read rest : List Char) : stringBody read (cs ++ rest) = stringBody (c :: read) rest := by
  cases h with
  | plain visible notQuote notBackslash => exact stringBody_plain visible notQuote notBackslash
  | letter meant => exact stringBody_escape (escape_of_spelling (.letter meant) rest)
  | unit digits notHigh notLow =>
    exact stringBody_escape (escape_of_spelling (.unit digits notHigh notLow) rest)
  | pair first second isHigh isLow =>
    exact stringBody_escape (escape_of_spelling (.pair first second isHigh isLow) rest)

theorem stringBody_of_spelling {chars body : List Char} (h : BodySpelling chars body)
    (read rest : List Char) :
    stringBody read (body ++ '"' :: rest) =
      .ok (String.ofList (read.reverse ++ chars), rest) := by
  induction h generalizing read with
  | nil => rw [List.nil_append, stringBody_quote, List.append_nil]
  | cons first _ ih =>
    rw [List.append_assoc, stringBody_spelling first, ih, List.reverse_cons, List.append_assoc,
      List.singleton_append]

theorem spelling_of_stringBody {read cs rest : List Char} {s : String}
    (h : stringBody read cs = .ok (s, rest)) :
    ∃ chars body, BodySpelling chars body ∧ s = String.ofList (read.reverse ++ chars) ∧
      cs = body ++ '"' :: rest := by
  fun_induction stringBody read cs with
  | case1 => cases h
  | case2 read tail =>
    cases h
    exact ⟨[], [], .nil, by rw [List.append_nil], rfl⟩
  | case3 => cases h
  | case4 read tail c after found ih =>
    obtain ⟨chars, body, spelled, rfl, rfl⟩ := ih h
    obtain ⟨ds, first, rfl⟩ := spelling_of_escape found
    refine ⟨c :: chars, '\\' :: ds ++ body, .cons first spelled, ?_, ?_⟩
    · rw [List.reverse_cons, List.append_assoc, List.singleton_append]
    · rw [List.cons_append, List.cons_append, List.append_assoc]
  | case5 => cases h
  | case6 read c tail notQuote notBackslash visible ih =>
    obtain ⟨chars, body, spelled, rfl, rfl⟩ := ih h
    have first : CharSpelling c [c] :=
      .plain (Nat.not_lt.1 visible) (fun h => notQuote h) fun h => notBackslash h
    refine ⟨c :: chars, [c] ++ body, .cons first spelled, ?_, rfl⟩
    rw [List.reverse_cons, List.append_assoc, List.singleton_append]

end EventLink.Json

import EventLink.Json.Lexemes
import EventLink.Proofs.Json.Numerals
import EventLink.Proofs.Json.Strings
import Mathlib.Data.List.Chain
import Mathlib.Data.List.Forall2
/-!
Tokens and the grammar.

A text that is cut into tokens to its end spells them, and a text that spells tokens is cut into
them.  The latter needs a place between two numbers, which would be read as one; the tokens of a
value have a separator there.
-/
namespace EventLink.Json

/-- Whether a token is a number, the only kind whose end is not seen from its last character. -/
def Token.isNumber : Token → Bool
  | .number _ => true
  | _ => false

/-- What is cut from a text is a token, and which one it is. -/
def Lexeme.Holds (lexeme : Lexeme) (t : Token) : Prop :=
  lexeme.content = .ok t

/-- A text is cut into tokens to its end. -/
abbrev Hold (lexemes : List Lexeme) (ts : List Token) : Prop :=
  List.Forall₂ Lexeme.Holds lexemes ts

theorem word_append (t : Token) (letters rest : List Char) :
    word t letters (letters ++ rest) = .ok (t, rest) := by
  induction letters with
  | nil => rw [List.nil_append, word]
  | cons letter letters ih => rw [List.cons_append, word, if_pos rfl, ih]

theorem of_word {t got : Token} {letters cs rest : List Char}
    (h : word t letters cs = .ok (got, rest)) : got = t ∧ cs = letters ++ rest := by
  fun_induction word t letters cs with
  | case1 => cases h; exact ⟨rfl, rfl⟩
  | case2 => cases h
  | case3 letters tail letter ih =>
    obtain ⟨rfl, rfl⟩ := ih h
    exact ⟨rfl, rfl⟩
  | case4 => cases h

theorem numberToken_append {numeral : Numeral} {n : Number} {cs rest : List Char}
    (spelled : NumeralSpelling numeral cs) (meant : numeral.value = .ok n)
    (stops : StopsAt continuesNumber rest) :
    numberToken numeral.negative (cs ++ rest) = .ok (.number n, rest) := by
  simp only [numberToken, number, numeral_append spelled stops, meant]

theorem spelling_of_numberToken {negative : Bool} {cs rest : List Char} {t : Token}
    (h : numberToken negative cs = .ok (t, rest)) :
    ∃ ds, TokenSpelling t (minusSign negative ++ ds) ∧ cs = ds ++ rest := by
  unfold numberToken number at h
  split at h
  · cases h
  · next read =>
    split at read
    · cases read
    · next numeral after readNumeral =>
      split at read
      · next meant =>
        cases read
        cases h
        obtain ⟨ds, spelled, rfl, rfl⟩ := spelling_of_numeral readNumeral
        exact ⟨ds, .number spelled meant, rfl⟩
      · cases read

theorem token_digit {c : Char} (digit : c.isDigit = true) (rest : List Char) :
    token c rest = numberToken false (c :: rest) := by
  unfold token
  split
  case h_12 => exact if_pos digit
  all_goals cases digit

theorem not_isSpace_of_isDigit {c : Char} (digit : c.isDigit = true) : isSpace c = false := by
  by_contra space
  simp only [isSpace, Bool.or_eq_true, beq_iff_eq, Bool.not_eq_false, or_assoc] at space
  rcases space with rfl | rfl | rfl | rfl <;> cases digit

theorem not_continuesNumber_of_isSpace {c : Char} (space : isSpace c = true) :
    continuesNumber c = false := by
  simp only [isSpace, Bool.or_eq_true, beq_iff_eq, or_assoc] at space
  rcases space with rfl | rfl | rfl | rfl <;> rfl

/-- A spelling of a token is read as that token, and begins with no blank. -/
theorem TokenSpelling.token_append {t : Token} {ds : List Char} (h : TokenSpelling t ds) :
    ∃ c cs, ds = c :: cs ∧ isSpace c = false ∧
      ∀ rest, (t.isNumber = true → StopsAt continuesNumber rest) →
        token c (cs ++ rest) = .ok (t, rest) := by
  cases h with
  | listStart | listEnd | objectStart | objectEnd | comma | colon =>
    exact ⟨_, _, rfl, rfl, fun _ _ => rfl⟩
  | null | yes | no => exact ⟨_, _, rfl, rfl, fun rest _ => word_append _ _ rest⟩
  | @string s body spelled =>
    refine ⟨_, _, rfl, rfl, fun rest _ => ?_⟩
    have read := stringBody_of_spelling spelled [] rest
    rw [List.append_assoc, List.singleton_append]
    simp only [token, read, List.reverse_nil, List.nil_append, String.ofList_toList]
  | @number n numeral cs spelled meant =>
    have read (rest : List Char) (stops : StopsAt continuesNumber rest) :=
      numberToken_append spelled meant stops
    cases negative : numeral.negative with
    | true =>
      rw [negative] at read
      exact ⟨_, _, rfl, rfl, fun rest stops => read rest (stops rfl)⟩
    | false =>
      rw [negative] at read
      cases spelled with
      | @mk _ whole _ ps es _ isWhole _ _ =>
        obtain ⟨d, tail, rfl⟩ := List.exists_cons_of_ne_nil isWhole.nonempty
        have digit := isWhole.digits d List.mem_cons_self
        refine ⟨d, _, rfl, not_isSpace_of_isDigit digit, fun rest stops => ?_⟩
        rw [token_digit digit]
        exact read rest (stops rfl)

/-- What is read as a token is a spelling of it. -/
theorem spelling_of_token {c : Char} {cs rest : List Char} {t : Token}
    (h : token c cs = .ok (t, rest)) : ∃ ds, TokenSpelling t ds ∧ c :: cs = ds ++ rest := by
  unfold token at h
  split at h
  case h_1 => cases h; exact ⟨_, .listStart, rfl⟩
  case h_2 => cases h; exact ⟨_, .listEnd, rfl⟩
  case h_3 => cases h; exact ⟨_, .objectStart, rfl⟩
  case h_4 => cases h; exact ⟨_, .objectEnd, rfl⟩
  case h_5 => cases h; exact ⟨_, .comma, rfl⟩
  case h_6 => cases h; exact ⟨_, .colon, rfl⟩
  case h_7 =>
    split at h
    · cases h
    · next read =>
      cases h
      obtain ⟨chars, body, spelled, rfl, rfl⟩ := spelling_of_stringBody read
      refine ⟨'"' :: (body ++ ['"']), .string ?_, ?_⟩
      · rwa [List.reverse_nil, List.nil_append, String.toList_ofList]
      · rw [List.cons_append, List.append_assoc, List.singleton_append]
  case h_8 => obtain ⟨rfl, rfl⟩ := of_word h; exact ⟨_, .null, rfl⟩
  case h_9 => obtain ⟨rfl, rfl⟩ := of_word h; exact ⟨_, .yes, rfl⟩
  case h_10 => obtain ⟨rfl, rfl⟩ := of_word h; exact ⟨_, .no, rfl⟩
  case h_11 =>
    obtain ⟨ds, spelled, rfl⟩ := spelling_of_numberToken h
    exact ⟨_, spelled, rfl⟩
  case h_12 =>
    split at h
    · obtain ⟨ds, spelled, hds⟩ := spelling_of_numberToken h
      exact ⟨_, spelled, hds⟩
    · cases h

/-- No spelling of a token that is no number goes on with a number. -/
theorem TokenSpelling.stops {t : Token} {ds : List Char} (h : TokenSpelling t ds)
    (notNumber : t.isNumber = false) (rest : List Char) :
    StopsAt continuesNumber (ds ++ rest) := by
  cases h with
  | number => cases notNumber
  | _ =>
    rintro c ⟨⟩
    rfl

theorem Spelled.stops {ts : List Token} {cs : List Char} (h : Spelled ts cs)
    (notNumber : ∀ t ∈ ts.head?, t.isNumber = false) : StopsAt continuesNumber cs := by
  cases h with
  | nil => rintro c ⟨⟩
  | blank space =>
    rintro c ⟨⟩
    exact not_continuesNumber_of_isSpace space
  | token first => exact first.stops (notNumber _ rfl) _

theorem lexemes_blank {c : Char} (space : isSpace c = true) (rest : List Char) :
    lexemes (c :: rest) = lexemes rest := by
  rw [lexemes, if_pos space]

theorem lexemes_token {c : Char} {rest after : List Char} {t : Token}
    (notSpace : isSpace c = false) (read : token c rest = .ok (t, after)) :
    lexemes (c :: rest) = ⟨c :: rest, .ok t⟩ :: lexemes after := by
  rw [lexemes, if_neg (by rw [notSpace]; exact Bool.false_ne_true)]
  split
  · next found =>
    rw [read] at found
    cases found
  · next found =>
    rw [read] at found
    cases found
    rfl

/-- Two tokens that can be told apart without a blank between them. -/
def Apart (t u : Token) : Prop :=
  t.isNumber = true → u.isNumber = false

/-- A text that spells tokens is cut into them. -/
theorem Spelled.hold {ts : List Token} {cs : List Char} (h : Spelled ts cs)
    (apart : ts.IsChain Apart) : Hold (lexemes cs) ts := by
  induction h with
  | nil =>
    rw [lexemes]
    exact .nil
  | blank space _ ih =>
    rw [lexemes_blank space]
    exact ih apart
  | token first others ih =>
    -- A number is read to its end because what follows, a blank or another token, ends it.
    obtain ⟨next, apart⟩ := List.isChain_cons.1 apart
    obtain ⟨c, cs, rfl, notSpace, read⟩ := first.token_append
    have stops (number : _) := others.stops fun u hu => next u hu number
    rw [List.cons_append, lexemes_token notSpace (read _ stops)]
    exact .cons rfl (ih apart)

/-- A text that is cut into tokens to its end spells them. -/
theorem spelled_of_hold {ts : List Token} {cs : List Char} (h : Hold (lexemes cs) ts) :
    Spelled ts cs := by
  fun_induction lexemes cs generalizing ts with
  | case1 =>
    cases h
    exact .nil
  | case2 c rest space ih => exact .blank space (ih h)
  | case3 =>
    cases h with
    | cons first => cases first
  | case4 c rest notSpace t after found ih =>
    cases h with
    | cons first others =>
      cases first
      obtain ⟨ds, spelled, hds⟩ := spelling_of_token found
      rw [hds]
      exact .token spelled (ih others)

end EventLink.Json

import EventLink.Proofs.Frame.Incoming
import EventLink.Reply.IdSource
import Mathlib.Logic.Function.Basic
/-!
Identifiers that are integers.

A server may write an integer that names a request as a number or as a string.  As long as it fits 64
bits, with a sign or without one, both name the same reply: the reader keeps such a number exactly, and
its written form is the decimal form that stands between the quotes.
-/
namespace EventLink.Json

/-- The written form of an integer is its decimal form. -/
theorem Number.text_integer (n : Int) : (Number.integer n).text = toString n := by
  cases n with
  | ofNat m => exact Nat.toString_eq_ofList_toDigits.symm
  | negSucc m =>
    have digits : toString (m + 1) = String.ofList (Nat.toDigits 10 (m + 1)) :=
      Nat.toString_eq_ofList_toDigits
    have signed (cs : List Char) : String.ofList (['-'] ++ cs) = "-" ++ String.ofList cs :=
      String.ofList_append
    calc (Number.integer (Int.negSucc m)).text
        = "-" ++ String.ofList (Nat.toDigits 10 (m + 1)) := signed _
      _ = toString (Int.negSucc m) := by rw [← digits]; rfl

theorem toList_toString_integer (n : Int) : (toString n).toList = (Number.integer n).chars := by
  rw [← Number.text_integer, Number.text, String.toList_ofList]

/-- The decimal form of an integer has digits and perhaps a minus sign. -/
theorem mem_integerChars {n : Int} {c : Char} (h : c ∈ integerChars n) :
    c.isDigit = true ∨ c = '-' := by
  have digit {m : Nat} (h : c ∈ Nat.toDigits 10 m) : c.isDigit = true :=
    Nat.isDigit_of_mem_toDigits (by decide) (by decide) h
  cases n with
  | ofNat m => exact .inl (digit h)
  | negSucc m =>
    rcases List.mem_cons.1 h with rfl | h
    · exact .inr rfl
    · exact .inl (digit h)

theorem toDigits_injective : Function.Injective (Nat.toDigits 10) := by
  intro m n same
  calc m = Nat.ofDigitChars 10 (Nat.toDigits 10 m) 0 := Nat.ofDigitChars_ten_toDigits.symm
    _ = Nat.ofDigitChars 10 (Nat.toDigits 10 n) 0 := by rw [same]
    _ = n := Nat.ofDigitChars_ten_toDigits

/-- An integer can be read off its decimal form. -/
theorem toString_integer_injective : Function.Injective (toString : Int → String) := by
  intro m n same
  have chars : integerChars m = integerChars n :=
    (toList_toString_integer m).symm.trans ((congrArg String.toList same).trans
      (toList_toString_integer n))
  -- Only the decimal form of a negative number has a sign.
  have differ (k l : Nat) : Nat.toDigits 10 k ≠ '-' :: Nat.toDigits 10 (l + 1) := by
    intro signed
    have minus : '-' ∈ Nat.toDigits 10 k := signed.symm ▸ List.mem_cons_self
    exact absurd (Nat.isDigit_of_mem_toDigits (by decide) (by decide) minus) (by decide)
  cases m with
  | ofNat m =>
    cases n with
    | ofNat n => exact congrArg Int.ofNat (toDigits_injective chars)
    | negSucc n => exact absurd chars (differ m n)
  | negSucc m =>
    cases n with
    | ofNat n => exact absurd chars.symm (differ n m)
    | negSucc n =>
      have digits : m + 1 = n + 1 := toDigits_injective (List.cons.inj chars).2
      rw [Nat.succ.inj digits]

/-- Characters that need no escape spell themselves. -/
theorem BodySpelling.of_plain {cs : List Char}
    (plain : ∀ c ∈ cs, 0x20 ≤ c.toNat ∧ c ≠ '"' ∧ c ≠ '\\') : BodySpelling cs cs := by
  induction cs with
  | nil => exact .nil
  | cons c cs ih =>
    obtain ⟨⟨visible, notQuote, notBackslash⟩, others⟩ := List.forall_mem_cons.1 plain
    exact .cons (.plain visible notQuote notBackslash) (ih others)

/-- The decimal form of an integer stands for itself between quotes. -/
theorem spelling_decimal (n : Int) :
    TokenSpelling (.string (toString n)) ('"' :: ((toString n).toList ++ ['"'])) := by
  refine .string (.of_plain ?_)
  intro c hc
  rw [toList_toString_integer] at hc
  rcases mem_integerChars hc with digit | rfl
  · refine ⟨?_, ?_, ?_⟩
    · have least := (Char.isDigit_iff_toNat.1 digit).1
      exact Nat.le_trans (by decide) least
    · rintro rfl
      cases digit
    · rintro rfl
      cases digit
  · decide

end EventLink.Json

namespace EventLink.IncomingFrame

open Json (Value Represents Spelled Number Token TokenSpelling spelling_stringChars spelling_chars
  spelling_decimal toList_toString_integer tooManyLevels)

/-- The text of a reply whose identifier and data are written as given. -/
def replyText (id data : String) : String :=
  "\x7b\"id\":" ++ id ++ ",\"data\":" ++ data ++ "\x7d"

def inQuotes (s : String) : String :=
  "\"" ++ s ++ "\""

/-- The text of a reply is JSON for its identifier and its data. -/
theorem represents_replyText {id data : String} (name : Value) {v : Value} {t : Token}
    (single : name.tokens = [t]) (plain : name.depth = 0) (named : TokenSpelling t id.toList)
    (carried : Represents data v) (nested : v.depth ≤ 126) :
    Represents (replyText id data) (.object [("id", name), ("data", v)]) where
  spelled := by
    have idKey : TokenSpelling (.string "id") ['"', 'i', 'd', '"'] := spelling_stringChars "id"
    have dataKey : TokenSpelling (.string "data") ['"', 'd', 'a', 't', 'a', '"'] :=
      spelling_stringChars "data"
    have rest := Spelled.token dataKey (.token .colon
      (carried.spelled.append TokenSpelling.objectEnd.spelled))
    have spelled := Spelled.token .objectStart (.token idKey (.token .colon
      (.token named (.token .comma rest))))
    have tokens : (Value.object [("id", name), ("data", v)]).tokens =
        .objectStart :: .string "id" :: .colon :: t :: .comma :: .string "data" :: .colon ::
          (v.tokens ++ [.objectEnd]) := by
      rw [Value.tokens, single]
      rfl
    rw [tokens, replyText]
    simpa [String.toList_append] using spelled
  nested := by
    refine Value.fitsIn_object.2 ⟨by decide, ?_⟩
    rw [List.forall_mem_cons, List.forall_mem_singleton, Value.FitsIn, Value.FitsIn, tooManyLevels]
    dsimp only
    omega

variable {n : Int} {data : String} {v : Value}

/-- An identifier that is a number of 64 bits names the reply that its decimal form names. -/
theorem decode_number_id (word : (Number.integer n).IsWord) (carried : Represents data v)
    (nested : v.depth ≤ 126) :
    decode (replyText (toString n) data) = .ok (.reply (toString n) v.canonical) := by
  have named : TokenSpelling (.number (.integer n)) (toString n).toList := by
    rw [toList_toString_integer]
    exact spelling_chars word
  have represents := represents_replyText (.number (.integer n)) rfl rfl named carried nested
  rw [decode_of_represents represents, ← Number.text_integer n]
  rfl

theorem decode_quoted_id (n : Int) (carried : Represents data v) (nested : v.depth ≤ 126) :
    decode (replyText (inQuotes (toString n)) data) = .ok (.reply (toString n) v.canonical) := by
  have named : TokenSpelling (.string (toString n)) (inQuotes (toString n)).toList := by
    have spelled := spelling_decimal n
    simpa [inQuotes, String.toList_append] using spelled
  have represents := represents_replyText (.string (toString n)) rfl rfl named carried nested
  rw [decode_of_represents represents]
  rfl

end EventLink.IncomingFrame

import EventLink.Json.NumberLiteral
import EventLink.Json.StringLiteral
import EventLink.Json.Token
/-!
Cutting a JSON text into tokens.  Blanks between tokens disappear, and cutting stops at the first
place where no token can be read.
-/
namespace EventLink.Json

/-- The letters of a word, after its first one. -/
def word (token : Token) : List Char → List Char → Except Fault (Token × List Char)
  | [], rest => .ok (token, rest)
  | _ :: _, [] => .error (.before .endInValue [])
  | letter :: letters, c :: rest =>
    if c = letter then word token letters rest else .error (.looking .expectedWord (c :: rest))

/-- A number as a token, after its sign. -/
def numberToken (negative : Bool) (cs : List Char) : Except Fault (Token × List Char) :=
  match number negative cs with
  | .error fault => .error fault
  | .ok (n, rest) => .ok (.number n, rest)

/-- The token that starts with a character, and the text after it. -/
def token (c : Char) (rest : List Char) : Except Fault (Token × List Char) :=
  match c with
  | '[' => .ok (.listStart, rest)
  | ']' => .ok (.listEnd, rest)
  | '\x7b' => .ok (.objectStart, rest)
  | '\x7d' => .ok (.objectEnd, rest)
  | ',' => .ok (.comma, rest)
  | ':' => .ok (.colon, rest)
  | '"' =>
    match stringBody [] rest with
    | .error fault => .error fault
    | .ok (s, after) => .ok (.string s, after)
  | 'n' => word .null ['u', 'l', 'l'] rest
  | 't' => word (.bool true) ['r', 'u', 'e'] rest
  | 'f' => word (.bool false) ['a', 'l', 's', 'e'] rest
  | '-' => numberToken true rest
  | c =>
    if c.isDigit then numberToken false (c :: rest) else .error (.looking .expectedValue (c :: rest))

theorem length_word {t got : Token} {letters cs rest : List Char}
    (h : word t letters cs = .ok (got, rest)) : rest.length ≤ cs.length := by
  fun_induction word t letters cs with
  | case1 => cases h; exact Nat.le_refl _
  | case2 => cases h
  | case3 _ _ _ ih =>
    have shorter := ih h
    simp
    omega
  | case4 => cases h

theorem length_numberToken {negative : Bool} {cs rest : List Char} {t : Token}
    (h : numberToken negative cs = .ok (t, rest)) : rest.length < cs.length := by
  unfold numberToken at h
  split at h
  · cases h
  · next read =>
    have shorter := length_number read
    simp only [Except.ok.injEq, Prod.mk.injEq] at h
    rw [← h.2]
    exact shorter

theorem length_token {c : Char} {cs rest : List Char} {t : Token}
    (h : token c cs = .ok (t, rest)) : rest.length ≤ cs.length := by
  unfold token at h
  split at h
  case h_1 | h_2 | h_3 | h_4 | h_5 | h_6 =>
    cases h
    exact Nat.le_refl _
  case h_7 =>
    split at h
    · cases h
    · next read =>
      have shorter := length_stringBody [] read
      simp only [Except.ok.injEq, Prod.mk.injEq] at h
      rw [← h.2]
      exact Nat.le_of_lt shorter
  case h_8 | h_9 | h_10 => exact length_word h
  case h_11 => exact Nat.le_of_lt (length_numberToken h)
  case h_12 =>
    split at h
    · have shorter := length_numberToken h
      simp at shorter
      omega
    · cases h

/-- The tokens of a text.  The last lexeme is a fault if the text cannot be cut to its end. -/
def lexemes (cs : List Char) : List Lexeme :=
  match cs with
  | [] => []
  | c :: rest =>
    if isSpace c then lexemes rest
    else
      match _found : token c rest with
      | .error fault => [⟨c :: rest, .error fault⟩]
      | .ok (t, after) => ⟨c :: rest, .ok t⟩ :: lexemes after
  termination_by cs.length
  decreasing_by
    · simp
    · have shorter := length_token _found
      simp
      omega

end EventLink.Json

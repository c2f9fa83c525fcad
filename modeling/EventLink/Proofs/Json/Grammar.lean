import EventLink.Json.Reader
/-!
The grammar of JSON texts.

A text is JSON for a value if it spells the tokens of the value one after the other, with any blanks
around them.  The tokens of a value are fixed; only strings and numbers can be spelled in more than
one way.  The grammar is said without the functions that read a text: it has no state and no order
in which things are tried.
-/
namespace EventLink.Json

def IsHighSurrogate (unit : Nat) : Prop :=
  0xD800 ≤ unit ∧ unit ≤ 0xDBFF

def IsLowSurrogate (unit : Nat) : Prop :=
  0xDC00 ≤ unit ∧ unit ≤ 0xDFFF

/-- The spellings of a character inside a string: the character itself, a letter after a backslash,
a code unit that is no half of a pair, or the two halves of one. -/
inductive CharSpelling : Char → List Char → Prop
  | plain {c : Char} (visible : 0x20 ≤ c.toNat) (notQuote : c ≠ '"') (notBackslash : c ≠ '\\') :
      CharSpelling c [c]
  | letter {c l : Char} (meant : letterEscape l = some c) : CharSpelling c ['\\', l]
  | unit {a b c d : Char} {unit : Nat} (digits : hexQuad a b c d = some unit)
      (notHigh : ¬IsHighSurrogate unit) (notLow : ¬IsLowSurrogate unit) :
      CharSpelling (Char.ofNat unit) ['\\', 'u', a, b, c, d]
  | pair {a b c d e f g h : Char} {high low : Nat} (first : hexQuad a b c d = some high)
      (second : hexQuad e f g h = some low) (isHigh : IsHighSurrogate high)
      (isLow : IsLowSurrogate low) :
      CharSpelling (Char.ofNat (0x10000 + (high - 0xD800) * 0x400 + (low - 0xDC00)))
        ['\\', 'u', a, b, c, d, '\\', 'u', e, f, g, h]

/-- The spellings of the characters of a string. -/
inductive BodySpelling : List Char → List Char → Prop
  | nil : BodySpelling [] []
  | cons {c : Char} {cs ds rest : List Char} (first : CharSpelling c cs)
      (others : BodySpelling rest ds) : BodySpelling (c :: rest) (cs ++ ds)

/-- At least one digit, and nothing but digits. -/
structure IsDigits (cs : List Char) : Prop where
  nonempty : cs ≠ []
  digits : ∀ c ∈ cs, c.isDigit = true

/-- The whole part of a numeral has no zero in front of other digits. -/
structure IsWhole (cs : List Char) : Prop extends IsDigits cs where
  noZero : cs.head? = some '0' → cs = ['0']

/-- The spelling of the places of a numeral. -/
inductive PlacesSpelling : List Char → List Char → Prop
  | none : PlacesSpelling [] []
  | some {places : List Char} (digits : IsDigits places) : PlacesSpelling places ('.' :: places)

/-- The spellings of the sign of an exponent. -/
inductive SignSpelling : Bool → List Char → Prop
  | none : SignSpelling false []
  | plus : SignSpelling false ['+']
  | minus : SignSpelling true ['-']

/-- The spellings of an exponent. -/
inductive PowerSpelling : Option Power → List Char → Prop
  | none : PowerSpelling none []
  | some {mark : Char} {sign : List Char} {power : Power} (isMark : mark = 'e' ∨ mark = 'E')
      (signed : SignSpelling power.negative sign) (digits : IsDigits power.digits) :
      PowerSpelling (some power) (mark :: (sign ++ power.digits))

/-- The spellings of a numeral after its sign. -/
inductive NumeralSpelling : Numeral → List Char → Prop
  | mk {negative : Bool} {whole places ps es : List Char} {power : Option Power}
      (isWhole : IsWhole whole) (pointed : PlacesSpelling places ps)
      (powered : PowerSpelling power es) :
      NumeralSpelling ⟨negative, whole, places, power⟩ (whole ++ (ps ++ es))

def minusSign (negative : Bool) : List Char :=
  if negative then ['-'] else []

/-- The spellings of a token.  A number has those of every numeral that has its value, which none
out of range has. -/
inductive TokenSpelling : Token → List Char → Prop
  | listStart : TokenSpelling .listStart ['[']
  | listEnd : TokenSpelling .listEnd [']']
  | objectStart : TokenSpelling .objectStart ['\x7b']
  | objectEnd : TokenSpelling .objectEnd ['\x7d']
  | comma : TokenSpelling .comma [',']
  | colon : TokenSpelling .colon [':']
  | null : TokenSpelling .null ['n', 'u', 'l', 'l']
  | yes : TokenSpelling (.bool true) ['t', 'r', 'u', 'e']
  | no : TokenSpelling (.bool false) ['f', 'a', 'l', 's', 'e']
  | string {s : String} {body : List Char} (spelled : BodySpelling s.toList body) :
      TokenSpelling (.string s) ('"' :: (body ++ ['"']))
  | number {n : Number} {numeral : Numeral} {cs : List Char} (spelled : NumeralSpelling numeral cs)
      (meant : numeral.value = .ok n) :
      TokenSpelling (.number n) (minusSign numeral.negative ++ cs)

/-- A text that spells tokens one after the other, with blanks anywhere around them. -/
inductive Spelled : List Token → List Char → Prop
  | nil : Spelled [] []
  | blank {c : Char} {ts : List Token} {cs : List Char} (space : isSpace c = true)
      (others : Spelled ts cs) : Spelled ts (c :: cs)
  | token {t : Token} {ts : List Token} {cs ds : List Char} (first : TokenSpelling t cs)
      (others : Spelled ts ds) : Spelled (t :: ts) (cs ++ ds)

theorem Spelled.append {ts us : List Token} {cs ds : List Char} (front : Spelled ts cs)
    (back : Spelled us ds) : Spelled (ts ++ us) (cs ++ ds) := by
  induction front with
  | nil => exact back
  | blank space _ ih => exact .blank space ih
  | token first _ ih =>
    rw [List.append_assoc]
    exact .token first ih

theorem TokenSpelling.spelled {t : Token} {cs : List Char} (h : TokenSpelling t cs) :
    Spelled [t] cs := by
  have := Spelled.token h .nil
  rwa [List.append_nil] at this

namespace Value

mutual

def tokens : Value → List Token
  | null => [.null]
  | bool b => [.bool b]
  | number n => [.number n]
  | string s => [.string s]
  | array [] => [.listStart, .listEnd]
  | array (v :: rest) => .listStart :: (tokens v ++ itemTokens rest)
  | object [] => [.objectStart, .objectEnd]
  | object ((key, v) :: rest) =>
    .objectStart :: .string key :: .colon :: (tokens v ++ memberTokens rest)

def itemTokens : List Value → List Token
  | [] => [.listEnd]
  | v :: rest => .comma :: (tokens v ++ itemTokens rest)

/-- The tokens of the members after the first one, and of the end of the object. -/
def memberTokens : List (String × Value) → List Token
  | [] => [.objectEnd]
  | (key, v) :: rest => .comma :: .string key :: .colon :: (tokens v ++ memberTokens rest)

end

mutual

/-- How deep lists and objects are nested in a value. -/
def depth : Value → Nat
  | array items => itemsDepth items + 1
  | object members => membersDepth members + 1
  | null => 0
  | bool _ => 0
  | number _ => 0
  | string _ => 0

def itemsDepth : List Value → Nat
  | [] => 0
  | v :: rest => max (depth v) (itemsDepth rest)

def membersDepth : List (String × Value) → Nat
  | [] => 0
  | (_, v) :: rest => max (depth v) (membersDepth rest)

end

mutual

/-- The numbers that occur in a value. -/
def numbers : Value → List Number
  | number n => [n]
  | array items => itemNumbers items
  | object members => memberNumbers members
  | null => []
  | bool _ => []
  | string _ => []

def itemNumbers : List Value → List Number
  | [] => []
  | v :: rest => numbers v ++ itemNumbers rest

def memberNumbers : List (String × Value) → List Number
  | [] => []
  | (_, v) :: rest => numbers v ++ memberNumbers rest

end

/-- Values are built from the values in them. -/
@[elab_as_elim]
theorem induction {P : Value → Prop} (null : P null) (bool : ∀ b, P (bool b))
    (number : ∀ n, P (number n)) (string : ∀ s, P (string s))
    (array : ∀ items, (∀ v ∈ items, P v) → P (array items))
    (object : ∀ members, (∀ m ∈ members, P m.2) → P (object members)) (v : Value) : P v :=
  @Value.rec P (fun items => ∀ v ∈ items, P v) (fun members => ∀ m ∈ members, P m.2)
    (fun m => P m.2) null bool number string array object
    (fun _ h => absurd h List.not_mem_nil)
    (fun _ _ first others => List.forall_mem_cons.2 ⟨first, others⟩)
    (fun _ h => absurd h List.not_mem_nil)
    (fun _ _ first others => List.forall_mem_cons.2 ⟨first, others⟩)
    (fun _ _ h => h) v

/-- A value that may stand inside a number of lists and objects. -/
def FitsIn (levels : Nat) (v : Value) : Prop :=
  levels + v.depth < tooManyLevels

instance (levels : Nat) (v : Value) : Decidable (v.FitsIn levels) :=
  inferInstanceAs (Decidable (levels + v.depth < tooManyLevels))

theorem itemsDepth_le {items : List Value} {n : Nat} :
    itemsDepth items ≤ n ↔ ∀ v ∈ items, v.depth ≤ n := by
  induction items with
  | nil => simp [itemsDepth]
  | cons v rest ih => rw [itemsDepth, Nat.max_le, ih, List.forall_mem_cons]

theorem membersDepth_le {members : List Member} {n : Nat} :
    membersDepth members ≤ n ↔ ∀ m ∈ members, m.2.depth ≤ n := by
  induction members with
  | nil => simp [membersDepth]
  | cons m rest ih => rw [membersDepth, Nat.max_le, ih, List.forall_mem_cons]

/-- What is in a list or an object has one level less to be nested in. -/
theorem fits_succ_iff {levels depth : Nat} :
    levels + (depth + 1) < tooManyLevels ↔
      levels + 1 < tooManyLevels ∧ depth ≤ tooManyLevels - (levels + 2) := by
  rw [tooManyLevels]
  omega

theorem fitsIn_iff {levels : Nat} (room : levels + 1 < tooManyLevels) (v : Value) :
    v.depth ≤ tooManyLevels - (levels + 2) ↔ v.FitsIn (levels + 1) := by
  rw [FitsIn]
  omega

theorem fitsIn_array {items : List Value} {levels : Nat} :
    (array items).FitsIn levels ↔
      levels + 1 < tooManyLevels ∧ ∀ v ∈ items, v.FitsIn (levels + 1) := by
  rw [FitsIn, depth, fits_succ_iff, itemsDepth_le]
  exact and_congr_right fun room => forall₂_congr fun v _ => fitsIn_iff room v

theorem fitsIn_object {members : List Member} {levels : Nat} :
    (object members).FitsIn levels ↔
      levels + 1 < tooManyLevels ∧ ∀ m ∈ members, m.2.FitsIn (levels + 1) := by
  rw [FitsIn, depth, fits_succ_iff, membersDepth_le]
  exact and_congr_right fun room => forall₂_congr fun m _ => fitsIn_iff room m.2

theorem mem_numbers_array {items : List Value} {n : Number} :
    n ∈ (array items).numbers ↔ ∃ v ∈ items, n ∈ v.numbers := by
  rw [numbers]
  induction items with
  | nil => simp [itemNumbers]
  | cons v rest ih => simp [itemNumbers, ih]

theorem mem_numbers_object {members : List Member} {n : Number} :
    n ∈ (object members).numbers ↔ ∃ m ∈ members, n ∈ m.2.numbers := by
  rw [numbers]
  induction members with
  | nil => simp [memberNumbers]
  | cons m rest ih => simp [memberNumbers, ih]

end Value

/-- A text that is JSON for a value, and is not nested too deeply. -/
structure Represents (text : String) (v : Value) : Prop where
  spelled : Spelled v.tokens text.toList
  nested : v.FitsIn 0

end EventLink.Json

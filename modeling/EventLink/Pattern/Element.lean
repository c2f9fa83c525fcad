import EventLink.Pattern.Mode
/-!
The smallest parts of a pattern: characters, kinds of characters and positions.

No case tables and no tables of character kinds are at hand.  A pattern over Unicode therefore
neither ignores case nor names a kind of characters, and a pattern over bytes keeps to ASCII where
anything else would match half a character.
-/
namespace EventLink.Pattern

/-- A part of a pattern that has no parts. -/
inductive Element where
  /-- A character; one given by two hexadecimal digits may also mean a byte. -/
  | char (c : Char) (byte : Bool)
  /-- Any character of a line. -/
  | any
  /-- A digit, a blank or a character of a word, or all others. -/
  | kind (negated : Bool)
  /-- A beginning or an end of the text or of a line. -/
  | edge
  /-- A beginning or an end of a word, or a place that is neither. -/
  | wordEdge
  deriving DecidableEq, Repr

def Mode.admits (mode : Mode) : Element → Bool
  | .char c byte => if mode.unicode then !mode.ignoreCase else !byte || c.toNat < 0x80
  | .any => mode.unicode
  | .kind negated => !mode.unicode && !negated
  | .edge => true
  | .wordEdge => true

def Mode.admitsMember (mode : Mode) : Element → Bool
  | .char c _ => if mode.unicode then !mode.ignoreCase else c.toNat < 0x80
  | .kind negated => !mode.unicode && !negated
  | _ => false

def hexValue? (c : Char) : Option Nat :=
  if c.isDigit then some (c.toNat - '0'.toNat)
  else if 'a' ≤ c ∧ c ≤ 'f' then some (c.toNat - 'a'.toNat + 10)
  else if 'A' ≤ c ∧ c ≤ 'F' then some (c.toNat - 'A'.toNat + 10)
  else none

/-- A fixed count of hexadecimal digits, added to a value read so far. -/
def readHex (mode : Mode) : Nat → Nat → List Char → Option (Nat × List Char)
  | 0, value, cs => some (value, cs)
  | _ + 1, _, [] => none
  | count + 1, value, c :: rest =>
    match hexValue? c with
    | some digit => readHex mode count (16 * value + digit) (mode.skip rest)
    | none => none

def readCode (mode : Mode) (byte : Bool) (count : Nat) (cs : List Char) :
    Option (Element × List Char) :=
  match readHex mode count 0 (mode.skip cs) with
  | some (code, rest) =>
    if code.isValidChar then some (.char (Char.ofNat code) byte, rest) else none
  | none => none

/-- The elements that one letter behind a backslash stands for. -/
def letterElement? (c : Char) : Option Element :=
  match c with
  | 'd' | 's' | 'w' => some (.kind false)
  | 'D' | 'S' | 'W' => some (.kind true)
  | 'A' | 'z' => some .edge
  | 'b' | 'B' | '<' | '>' => some .wordEdge
  | 'a' => some (.char '\x07' false)
  | 'f' => some (.char '\x0c' false)
  | 'n' => some (.char '\n' false)
  | 'r' => some (.char '\r' false)
  | 't' => some (.char '\t' false)
  | 'v' => some (.char '\x0b' false)
  | _ => none

/-- The element after a backslash.  Every ASCII character but letters and digits stands for itself
there.  Classes by property are not known. -/
def readEscape (mode : Mode) : List Char → Option (Element × List Char)
  | [] => none
  | 'x' :: rest => readCode mode true 2 rest
  | 'u' :: rest => readCode mode false 4 rest
  | 'U' :: rest => readCode mode false 8 rest
  | c :: rest =>
    match letterElement? c with
    | some element => some (element, rest)
    | none => if c.toNat < 0x80 && !c.isAlphanum then some (.char c false, rest) else none

end EventLink.Pattern

import EventLink.Binary.Shortest
/-!
Numbers of JSON texts: integers of at most 64 bits, and floating-point numbers.  The latter are
written with the fewest digits that read back.
-/
namespace EventLink.Json

/-- A number of a JSON text. -/
inductive Number where
  | integer (value : Int)
  | double (value : BinaryNumber)
  deriving DecidableEq, Repr

/-- Exponents written positionally in a JSON text. -/
def plainRange : PlainRange := ⟨-5, 15⟩

/-- Decimal digits of an integer, after a minus sign if it is negative. -/
def integerChars : Int → List Char
  | Int.ofNat n => Nat.toDigits 10 n
  | Int.negSucc n => '-' :: Nat.toDigits 10 (n + 1)

namespace Number

def chars : Number → List Char
  | integer n => integerChars n
  | double x => x.text BinaryFormat.double plainRange

def text (n : Number) : String :=
  String.ofList n.chars

end Number

end EventLink.Json

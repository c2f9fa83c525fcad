import EventLink.Binary.Rounding
/-!
Decimal numerals, and the number of a binary format nearest to one.

A numeral has an optional sign, digits with an optional point among or beside them, and an optional
exponent.  Its value is exact; only the step into a binary format rounds.
-/
namespace EventLink

/-- A decimal value: digits read as an integer, times a power of ten. -/
structure Decimal where
  negative : Bool
  digits : Nat
  exponent : Int
  deriving DecidableEq, Repr

namespace Decimal

/-- A sign at the front, and what follows it. -/
def splitSign : List Char → Bool × List Char
  | '-' :: rest => (true, rest)
  | '+' :: rest => (false, rest)
  | cs => (false, cs)

/-- An exponent with its mark, or nothing at all. -/
def exponent? : List Char → Option Int
  | [] => some 0
  | mark :: rest =>
    if mark = 'e' ∨ mark = 'E' then
      let (negative, digits) := splitSign rest
      if digits.isEmpty || !digits.all Char.isDigit then none
      else
        let magnitude : Int := (Nat.ofDigitChars 10 digits 0 : Nat)
        some (if negative then -magnitude else magnitude)
    else none

/-- Reads a numeral; none if the text is not one. -/
def ofText? (s : String) : Option Decimal :=
  let (negative, unsigned) := splitSign s.toList
  let whole := unsigned.takeWhile Char.isDigit
  let afterWhole := unsigned.dropWhile Char.isDigit
  let (places, rest) :=
    match afterWhole with
    | '.' :: tail => (tail.takeWhile Char.isDigit, tail.dropWhile Char.isDigit)
    | tail => ([], tail)
  if whole.isEmpty && places.isEmpty then none
  else
    (exponent? rest).map fun exponent =>
      ⟨negative, Nat.ofDigitChars 10 (whole ++ places) 0, exponent - (places.length : Int)⟩

/-- The nearest number of a format, or none beyond its largest one.  Values outside 10^±400 are
decided by their size alone. -/
def toBinary (format : BinaryFormat) (d : Decimal) : Option BinaryNumber :=
  let size : Int := d.exponent + ((Nat.toDigits 10 d.digits).length : Int)
  if d.digits = 0 ∨ size < -400 then format.round d.negative 0 1
  else if 400 < size then none
  else if 0 ≤ d.exponent then format.round d.negative (d.digits * Nat.pow 10 d.exponent.toNat) 1
  else format.round d.negative d.digits (Nat.pow 10 (-d.exponent).toNat)

end Decimal

end EventLink

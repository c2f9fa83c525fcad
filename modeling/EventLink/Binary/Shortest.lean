import EventLink.Binary.Rounding
/-!
The shortest decimal digits that read back as a given number.

The reals that round to a number form an interval around it, whose ends belong to it when the
significand is even.  For one digit, two digits and so on, the two neighbours of the number on the
decimal grid of that many digits are tested; the first grid with a neighbour inside the interval
gives the digits, the nearer neighbour if both are inside, and the even one at a tie.
-/
namespace EventLink

/-- Significant digits, and the decimal exponent of the first of them. -/
structure Digits where
  digits : List Char
  exponent : Int
  deriving DecidableEq, Repr

/-- A ratio divided by a power of ten. -/
def scaleDownTen (num den : Nat) (exponent : Int) : Nat × Nat :=
  if 0 ≤ exponent then (num, den * Nat.pow 10 exponent.toNat)
  else (num * Nat.pow 10 (-exponent).toNat, den)

/-- The exponent of the first decimal digit of a positive ratio. -/
def leadingExponent (num den : Nat) : Int :=
  let guess : Int :=
    ((Nat.toDigits 10 num).length : Int) - ((Nat.toDigits 10 den).length : Int)
  let scaled := scaleDownTen num den guess
  if scaled.2 ≤ scaled.1 then guess else guess - 1

namespace BinaryNumber

/-- Where the interval of a number ends below it and above it, in quarters of its last bit. -/
def bounds (format : BinaryFormat) (x : BinaryNumber) : Nat × Nat :=
  let below :=
    if x.significand = Nat.pow 2 (format.precision - 1) ∧ format.lowest < x.exponent then 1 else 2
  (4 * x.significand - below, 4 * x.significand + 2)

/-- The point of a decimal grid that stands for a number, if the grid has one in its interval. -/
def onGrid (format : BinaryFormat) (x : BinaryNumber) (grid : Int) : Option Nat :=
  let quarter := scaleDown 1 1 (2 - x.exponent)
  let value := scaleDownTen (4 * x.significand * quarter.1) quarter.2 grid
  let low := scaleDownTen ((x.bounds format).1 * quarter.1) quarter.2 grid
  let high := scaleDownTen ((x.bounds format).2 * quarter.1) quarter.2 grid
  let inside (point : Nat) : Bool :=
    if x.significand % 2 = 0 then low.1 ≤ point * low.2 && point * high.2 ≤ high.1
    else low.1 < point * low.2 && point * high.2 < high.1
  let floor := value.1 / value.2
  match inside floor, inside (floor + 1) with
  | true, true => some (halfEven value.1 value.2)
  | true, false => some floor
  | false, true => some (floor + 1)
  | false, false => none

/-- The shortest digits of a positive number; seventeen always suffice for 53 bits. -/
def shortest (format : BinaryFormat) (x : BinaryNumber) : Digits :=
  let quarter := scaleDown 1 1 (2 - x.exponent)
  let leading := leadingExponent (4 * x.significand * quarter.1) quarter.2
  let hit := (List.range 17).findSome? fun (extra : Nat) =>
    let grid := leading - (extra : Int)
    (x.onGrid format grid).map fun point => (point, grid)
  match hit with
  | none => ⟨['0'], 0⟩
  | some (point, grid) =>
    let written := Nat.toDigits 10 point
    ⟨(written.reverse.dropWhile (· == '0')).reverse, grid + (written.length : Int) - 1⟩

end BinaryNumber

/-- Decimal exponents at which digits are written positionally instead of with an exponent. -/
structure PlainRange where
  lowest : Int
  highest : Int
  deriving DecidableEq, Repr

namespace Digits

/-- Digits around a decimal point, with at least one on each side of it. -/
def plain (d : Digits) : List Char :=
  if d.exponent < 0 then
    ['0', '.'] ++ List.replicate (-d.exponent - 1).toNat '0' ++ d.digits
  else
    let whole := d.exponent.toNat + 1
    if d.digits.length ≤ whole then
      d.digits ++ List.replicate (whole - d.digits.length) '0' ++ ['.', '0']
    else d.digits.take whole ++ ['.'] ++ d.digits.drop whole

/-- One digit, the others after a point if there are any, and a signed exponent. -/
def scientific (d : Digits) : List Char :=
  let mantissa :=
    match d.digits with
    | first :: second :: rest => first :: '.' :: second :: rest
    | short => short
  let sign := if d.exponent < 0 then '-' else '+'
  mantissa ++ ['e', sign] ++ Nat.toDigits 10 d.exponent.natAbs

def text (range : PlainRange) (d : Digits) : List Char :=
  if range.lowest ≤ d.exponent ∧ d.exponent ≤ range.highest then d.plain else d.scientific

end Digits

/-- A number in its shortest form; zero is written with its sign and one place. -/
def BinaryNumber.text (format : BinaryFormat) (range : PlainRange) (x : BinaryNumber) : List Char :=
  (if x.negative then ['-'] else []) ++
    (if x.significand = 0 then ['0', '.', '0'] else (x.shortest format).text range)

end EventLink

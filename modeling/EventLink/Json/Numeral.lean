import EventLink.Json.Number
/-!
The value of a numeral.

An integer of at most 64 bits stays an integer.  Every other numeral is read in two steps, neither
of them a correct rounding of the whole: its digits are gathered into a 64-bit significand, the
digits that no longer fit being dropped, and the significand is scaled by its power of ten in the
arithmetic of 64-bit floating point.
-/
namespace EventLink.Json

/-- The largest significand that digits are gathered into. -/
def largestSignificand : Nat := 0xffffffffffffffff

/-- The largest magnitude of a written exponent. -/
def largestPower : Nat := 0x7fffffff

def digitValue (c : Char) : Nat :=
  c.toNat - '0'.toNat

/-- Appends digits to a value while it stays within a limit, and returns the digits left over. -/
def gather (limit : Nat) : Nat → List Char → Nat × List Char
  | value, [] => (value, [])
  | value, d :: ds =>
    let next := 10 * value + digitValue d
    if limit < next then (value, d :: ds) else gather limit next ds

/-- An exponent as written: its sign, and at least one digit. -/
structure Power where
  negative : Bool
  digits : List Char
  deriving DecidableEq, Repr

/-- A numeral as written.  Without a point there are no places. -/
structure Numeral where
  negative : Bool
  whole : List Char
  places : List Char
  power : Option Power
  deriving DecidableEq, Repr

def zero (negative : Bool) : BinaryNumber :=
  ⟨negative, 0, BinaryFormat.double.lowest⟩

/-- The largest power of ten that scaling multiplies or divides by at once. -/
def largestStep : Nat := 308

/-- A value divided a number of times by the largest step, or until it is zero. -/
def divideBySteps : Nat → BinaryNumber → Option BinaryNumber
  | 0, x => some x
  | count + 1, x =>
    if x.significand = 0 then some x
    else
      (BinaryFormat.double.tenPow largestStep).bind fun (ten : BinaryNumber) =>
        (BinaryFormat.double.quotient x ten).bind (divideBySteps count)

/-- A value divided by a power of ten in floating-point steps, the last of them at most the largest
step and the others equal to it. -/
def scaleBelow (x : BinaryNumber) (power : Nat) : Option BinaryNumber :=
  let steps := (power - 1) / largestStep
  (divideBySteps steps x).bind fun (y : BinaryNumber) =>
    (BinaryFormat.double.tenPow (power - largestStep * steps)).bind fun (ten : BinaryNumber) =>
      BinaryFormat.double.quotient y ten

/-- A value multiplied by a power of ten; none if the product is beyond the largest number. -/
def scaleAbove (x : BinaryNumber) (power : Nat) : Option BinaryNumber :=
  if power ≤ largestStep then
    (BinaryFormat.double.tenPow power).bind fun (ten : BinaryNumber) => BinaryFormat.double.product x ten
  else if x.significand = 0 then some x
  else none

/-- A significand times a power of ten, in the arithmetic of floating point. -/
def scale (significand : Nat) (exponent : Int) : Option BinaryNumber :=
  (BinaryFormat.double.ofNat significand).bind fun (x : BinaryNumber) =>
    if 0 ≤ exponent then scaleAbove x exponent.toNat else scaleBelow x (-exponent).toNat

def signed (negative : Bool) (x : BinaryNumber) : BinaryNumber :=
  if negative then x.negate else x

namespace Numeral

/-- A whole number that fits its significand.  Zero with a minus sign is a floating-point zero, and
so are the negative numbers that do not fit 64 bits with a sign. -/
def integer (negative : Bool) (n : Nat) : Option Number :=
  if !negative then some (.integer n)
  else if n = 0 ∨ 0x8000000000000000 < n then
    (BinaryFormat.double.ofNat n).map fun (x : BinaryNumber) => .double x.negate
  else some (.integer (-(n : Int)))

/-- The value of a numeral.  If it is out of range, the digits of the exponent that were not looked
at any more. -/
def value (numeral : Numeral) : Except (List Char) Number :=
  let (head, dropped) := gather largestSignificand 0 numeral.whole
  if dropped.isEmpty && numeral.places.isEmpty && numeral.power.isNone then
    match integer numeral.negative head with
    | some n => .ok n
    | none => .error []
  else
    let (significand, unread) := gather largestSignificand head numeral.places
    let kept := numeral.places.length - unread.length
    let exponent : Int := (dropped.length : Int) - (kept : Int)
    let scaled (exponent : Int) : Except (List Char) Number :=
      match scale significand exponent with
      | some x => .ok (.double (signed numeral.negative x))
      | none => .error []
    match numeral.power with
    | none => scaled exponent
    | some power =>
      match gather largestPower 0 power.digits with
      | (magnitude, []) =>
        scaled (if power.negative then exponent - (magnitude : Int) else exponent + (magnitude : Int))
      | (_, _ :: left) =>
        if significand = 0 ∨ power.negative then .ok (.double (zero numeral.negative))
        else .error left

end Numeral

end EventLink.Json

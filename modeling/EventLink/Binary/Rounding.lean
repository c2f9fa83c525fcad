/-!
Binary floating-point numbers in exact arithmetic.

A binary number is a significand times a power of two.  A binary format says how many bits the
significand has and which exponents exist; rounding takes a ratio of natural numbers to the nearest
number of the format, a tie going to the even significand.  Products and quotients are computed
exactly and rounded once, so each agrees with the machine operation of the same name.
-/
namespace EventLink

/-- Bits of the significand, and the exponents of its last bit. -/
structure BinaryFormat where
  precision : Nat
  lowest : Int
  highest : Int
  deriving DecidableEq, Repr

def BinaryFormat.double : BinaryFormat := ⟨53, -1074, 971⟩

def BinaryFormat.single : BinaryFormat := ⟨24, -149, 104⟩

/-- A finite number: significand times two to the exponent, with a sign that zero has too. -/
structure BinaryNumber where
  negative : Bool
  significand : Nat
  exponent : Int
  deriving DecidableEq, Repr

/-- The integer nearest to a ratio, of two equally near ones the even one. -/
def halfEven (num den : Nat) : Nat :=
  let whole := num / den
  let rest := num % den
  if 2 * rest < den then whole
  else if den < 2 * rest then whole + 1
  else whole + whole % 2

/-- The ratio of two numbers after the first is divided by a power of two. -/
def scaleDown (num den : Nat) (exponent : Int) : Nat × Nat :=
  if 0 ≤ exponent then (num, den * Nat.pow 2 exponent.toNat)
  else (num * Nat.pow 2 (-exponent).toNat, den)

namespace BinaryFormat

/-- The exponent at which a ratio fills the significand, or the lowest exponent if it cannot. -/
def fittingExponent (format : BinaryFormat) (num den : Nat) : Int :=
  let upper : Int := (Nat.log2 num : Int) - (Nat.log2 den : Int) - (format.precision : Int) + 1
  let scaled := scaleDown num den upper
  let exponent := if scaled.1 < scaled.2 * Nat.pow 2 (format.precision - 1) then upper - 1 else upper
  max exponent format.lowest

/-- The number of the format nearest to a ratio; none if it lies beyond the largest one. -/
def round (format : BinaryFormat) (negative : Bool) (num den : Nat) : Option BinaryNumber :=
  if num = 0 then some ⟨negative, 0, format.lowest⟩
  else
    let exponent := format.fittingExponent num den
    let scaled := scaleDown num den exponent
    let significand := halfEven scaled.1 scaled.2
    let result : BinaryNumber :=
      if significand = Nat.pow 2 format.precision then
        ⟨negative, Nat.pow 2 (format.precision - 1), exponent + 1⟩
      else ⟨negative, significand, exponent⟩
    if format.highest < result.exponent then none else some result

def ofNat (format : BinaryFormat) (n : Nat) : Option BinaryNumber :=
  format.round false n 1

def tenPow (format : BinaryFormat) (n : Nat) : Option BinaryNumber :=
  format.round false (Nat.pow 10 n) 1

/-- The product of two numbers, rounded once. -/
def product (format : BinaryFormat) (x y : BinaryNumber) : Option BinaryNumber :=
  let ratio := scaleDown (x.significand * y.significand) 1 (-(x.exponent + y.exponent))
  format.round (x.negative != y.negative) ratio.1 ratio.2

def quotient (format : BinaryFormat) (x y : BinaryNumber) : Option BinaryNumber :=
  let ratio := scaleDown x.significand y.significand (y.exponent - x.exponent)
  format.round (x.negative != y.negative) ratio.1 ratio.2

/-- The same number in another format, rounded if it has to be. -/
def convert (format : BinaryFormat) (x : BinaryNumber) : Option BinaryNumber :=
  let ratio := scaleDown x.significand 1 (-x.exponent)
  format.round x.negative ratio.1 ratio.2

end BinaryFormat

namespace BinaryNumber

def negate (x : BinaryNumber) : BinaryNumber :=
  { x with negative := !x.negative }

end BinaryNumber

end EventLink

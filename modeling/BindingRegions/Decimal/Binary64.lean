/-! Finite double-precision numbers as exact dyadic values, `± significand * 2 ^
exponent`. Rounding a fraction goes to the nearest double and, halfway, to the
even one; it fails beyond the largest double. -/

namespace BindingRegions.Decimal

/-- A finite double-precision number. The significand is below `2 ^ 53`, and at
least `2 ^ 52` unless the exponent is the least one, -1074. -/
structure Binary64 where
  negative : Bool
  significand : Nat
  exponent : Int
  deriving DecidableEq, Repr

/-- `numerator / denominator * 2 ^ shift` as a fraction again. -/
def scaleFraction (numerator denominator : Nat) (shift : Int) : Nat × Nat :=
  (numerator * Nat.pow 2 shift.toNat, denominator * Nat.pow 2 (-shift).toNat)

/-- The integer nearest to a fraction, and the even one of two. -/
def roundHalfEven (numerator denominator : Nat) : Nat :=
  let quotient := numerator / denominator
  let twice := 2 * (numerator % denominator)
  if twice < denominator then quotient
  else if denominator < twice then quotient + 1
  else quotient + quotient % 2

/-- The exponent of the doubles around a positive fraction. -/
def exponentOf (numerator denominator : Nat) : Int :=
  let e : Int := max (-1074) ((numerator.log2 : Int) - denominator.log2 - 53)
  let (n, d) := scaleFraction numerator denominator (-e)
  if n / d < Nat.pow 2 53 then e else e + 1

namespace Binary64

def zero (negative : Bool) : Binary64 := ⟨negative, 0, -1074⟩

/-- The double nearest to a fraction. -/
def ofFraction? (negative : Bool) (numerator denominator : Nat) : Option Binary64 :=
  if numerator = 0 then some (zero negative)
  else
    let e := exponentOf numerator denominator
    let (n, d) := scaleFraction numerator denominator (-e)
    let m := roundHalfEven n d
    let (m, e) := if m = Nat.pow 2 53 then (Nat.pow 2 52, e + 1) else (m, e)
    if e ≤ 971 then some ⟨negative, m, e⟩ else none

def fraction (x : Binary64) : Nat × Nat :=
  scaleFraction x.significand 1 x.exponent

def mul? (x y : Binary64) : Option Binary64 :=
  let (a, b) := x.fraction
  let (c, d) := y.fraction
  ofFraction? (x.negative != y.negative) (a * c) (b * d)

/-- The quotient, rounded; the divisor is not zero. -/
def div? (x y : Binary64) : Option Binary64 :=
  let (a, b) := x.fraction
  let (c, d) := y.fraction
  ofFraction? (x.negative != y.negative) (a * d) (b * c)

/-- The double nearest to `digits * 10 ^ exponent`. Exponents so far out that the
answer is certain are not multiplied out. -/
def ofDecimal? (negative : Bool) (digits : Nat) (exponent : Int) : Option Binary64 :=
  let magnitude := exponent + (digits.log2 : Int) * 3 / 10
  if digits = 0 || magnitude < -400 then some (zero negative)
  else if magnitude > 400 then none
  else ofFraction? negative (digits * Nat.pow 10 exponent.toNat) (Nat.pow 10 (-exponent).toNat)

end Binary64

end BindingRegions.Decimal

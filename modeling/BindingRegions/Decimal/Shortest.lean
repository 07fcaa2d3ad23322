import BindingRegions.Decimal.Binary64

/-! The shortest decimal that reads back as a given double: of the grids with 1,
2, … 17 digits, the first with a point that rounds to the double, and of two such
points the nearer. A point of a grid that does so exists only if one of the two
around the double does. -/

namespace BindingRegions.Decimal

/-- A positive decimal: its digits as a number, and the power of ten of the last. -/
structure Digits where
  value : Nat
  exponent : Int
  deriving DecidableEq, Repr

def Digits.fraction (x : Digits) : Nat × Nat :=
  (x.value * Nat.pow 10 x.exponent.toNat, Nat.pow 10 (-x.exponent).toNat)

def Digits.readsAs (x : Digits) (y : Binary64) : Bool :=
  let (n, d) := x.fraction
  Binary64.ofFraction? y.negative n d == some y

/-- The power of ten of a positive fraction's first digit. -/
def leadingPower (numerator denominator : Nat) : Int :=
  if denominator ≤ numerator then
    ((Nat.toDigits 10 (numerator / denominator)).length : Int) - 1
  else
    -- the least k with 1 ≤ fraction * 10 ^ k
    -(((Nat.toDigits 10 ((denominator + numerator - 1) / numerator - 1)).length : Nat) : Int)

/-- The grid points below and above a positive fraction when the last digit has
the given power, and twice the distance from the lower one in units of the grid,
compared with one. -/
def gridAround (numerator denominator : Nat) (power : Int) : Digits × Digits × Ordering :=
  let n := numerator * Nat.pow 10 (-power).toNat
  let d := denominator * Nat.pow 10 power.toNat
  (⟨n / d, power⟩, ⟨n / d + 1, power⟩, compare (2 * (n % d)) d)

/-- The shortest decimal on the grid with the given number of digits, if there is
one. A tie goes to the even digit. -/
def onGrid (x : Binary64) (count : Nat) : Option Digits :=
  let (n, d) := x.fraction
  let (low, high, side) := gridAround n d (leadingPower n d - count + 1)
  match low.readsAs x, high.readsAs x with
  | true, false => some low
  | false, true => some high
  | false, false => none
  | true, true => match side with
    | .lt => some low
    | .gt => some high
    | .eq => some (if low.value % 2 = 0 then low else high)

def Digits.trim : Nat → Digits → Digits
  | 0, x => x
  | fuel + 1, x =>
    if x.value % 10 = 0 then trim fuel ⟨x.value / 10, x.exponent + 1⟩ else x

/-- The shortest decimal that reads back as the given double other than zero. -/
def shortest (x : Binary64) : Digits :=
  match (List.range 17).findSome? fun i => onGrid x (i + 1) with
  | some digits => digits.trim 17
  | none => ⟨0, 0⟩

end BindingRegions.Decimal

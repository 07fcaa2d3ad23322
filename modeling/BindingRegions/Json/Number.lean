import BindingRegions.Value

/-! Numbers in a JSON text. An integer of at most 64 bits is kept; any other number
becomes a double. Its digits are read into a significand of at most 64 bits,
which is then scaled by powers of ten in double precision, so the last bit can
differ from that of the nearest double. -/

namespace BindingRegions.Json

open Decimal

/-- A number as written: its sign, the digits before the point, those after it, and
the exponent's sign and digits. -/
structure Numeral where
  negative : Bool
  whole : List Char
  fraction : Option (List Char)
  power : Option (Bool × List Char)

def digitValue (c : Char) : Nat := c.toNat - '0'.toNat

def decimalValue (digits : List Char) : Nat :=
  digits.foldl (fun n c => 10 * n + digitValue c) 0

namespace Numeral

def readPower : List Char → Option (Option (Bool × List Char) × List Char)
  | e :: rest =>
    if e = 'e' || e = 'E' then
      let (negative, rest) := match rest with
        | '+' :: rest => (false, rest)
        | '-' :: rest => (true, rest)
        | _ => (false, rest)
      match rest.takeWhile Char.isDigit with
      | [] => none
      | digits => some (some (negative, digits), rest.dropWhile Char.isDigit)
    else some (none, e :: rest)
  | [] => some (none, [])

/-- The numeral at the front of a text. No zeros lead, and digits stand on both
sides of a point and after an `e`. -/
def read (text : List Char) : Option (Numeral × List Char) :=
  let (negative, text) := match text with
    | '-' :: rest => (true, rest)
    | _ => (false, text)
  let whole := text.takeWhile Char.isDigit
  let rest := text.dropWhile Char.isDigit
  if whole.isEmpty || (whole.head? == some '0' && whole.length != 1) then none
  else match rest with
    | '.' :: rest =>
      match rest.takeWhile Char.isDigit with
      | [] => none
      | digits => (readPower (rest.dropWhile Char.isDigit)).map fun (power, rest) =>
          (⟨negative, whole, some digits, power⟩, rest)
    | _ => (readPower rest).map fun (power, rest) => (⟨negative, whole, none, power⟩, rest)

/-- Appends digits to a significand as long as it stays below `2 ^ 64`, and returns
the digits left over. -/
def absorb (significand : Nat) : List Char → Nat × List Char
  | [] => (significand, [])
  | c :: rest =>
    let next := 10 * significand + digitValue c
    if next < Nat.pow 2 64 then absorb next rest else (significand, c :: rest)

/-- Scales a double by a power of ten in steps of at most `10 ^ 308`, rounding at
each. -/
def scale : Nat → Binary64 → Int → Option Binary64
  | 0, _, _ => none
  | fuel + 1, x, power =>
    if power.natAbs ≤ 308 then do
      let ten ← Binary64.ofFraction? false (Nat.pow 10 power.natAbs) 1
      if 0 ≤ power then x.mul? ten else x.div? ten
    else if x.significand = 0 then some x
    else if 0 ≤ power then none
    else do
      let ten ← Binary64.ofFraction? false (Nat.pow 10 308) 1
      scale fuel (← x.div? ten) (power + 308)

/-- The double with the given parts. Three steps suffice: two take every
significand below the least double. -/
def double? (negative : Bool) (significand : Nat) (power : Int) : Option Number := do
  let x ← Binary64.ofFraction? negative significand 1
  return .double (← scale 4 x power)

/-- The number a numeral stands for, unless it is too large for a double. -/
def number? (numeral : Numeral) : Option Number :=
  let (significand, excess) := absorb 0 numeral.whole
  match numeral.fraction, numeral.power with
  | none, none =>
    if excess ≠ [] then double? numeral.negative significand excess.length
    else if !numeral.negative then some (.integer significand)
    else if significand = 0 || Nat.pow 2 63 < significand then double? true significand 0
    else some (.integer (-significand))
  | fraction, power =>
    let digits := fraction.getD []
    let (significand, rest) := absorb significand digits
    let point : Int := (excess.length : Int) - (digits.length - rest.length : Nat)
    match power with
    | none => double? numeral.negative significand point
    | some (down, digits) =>
      let power := decimalValue digits
      if power < Nat.pow 2 31 then
        double? numeral.negative significand (if down then point - power else point + power)
      else if down || significand = 0 then some (.double (.zero numeral.negative))
      else none

end Numeral

end BindingRegions.Json

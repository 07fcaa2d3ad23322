/-! Classes of characters: those given by ranges of code points, the blanks, and the
hexadecimal digits. -/

namespace BindingRegions.Text

/-- A class of characters: the first and last code points of its ranges. -/
abbrev CharRanges := List (Nat × Nat)

def CharRanges.has (ranges : CharRanges) (c : Char) : Bool :=
  ranges.any fun r => r.1 ≤ c.toNat && c.toNat ≤ r.2

/-- The property White_Space. -/
def isBlank (c : Char) : Bool :=
  let n := c.toNat
  (9 ≤ n && n ≤ 13) || n == 0x20 || n == 0x85 || n == 0xA0 || n == 0x1680
    || (0x2000 ≤ n && n ≤ 0x200A) || n == 0x2028 || n == 0x2029 || n == 0x202F
    || n == 0x205F || n == 0x3000

def isAllBlank (text : String) : Bool :=
  text.toList.all isBlank

/-! ### Hexadecimal digits -/

/-- The value of a hexadecimal digit of either case. -/
def hexValue? (c : Char) : Option Nat :=
  if c.isDigit then some (c.toNat - '0'.toNat)
  else if 'a' ≤ c && c ≤ 'f' then some (c.toNat - 'a'.toNat + 10)
  else if 'A' ≤ c && c ≤ 'F' then some (c.toNat - 'A'.toNat + 10)
  else none

def hexNumber? (digits : List Char) : Option Nat :=
  digits.foldlM (fun n c => (hexValue? c).map (16 * n + ·)) 0

/-- The lower-case digit of a number below 16. -/
def hexDigit (n : Nat) : Char :=
  if n < 10 then Char.ofNat ('0'.toNat + n) else Char.ofNat ('a'.toNat + (n - 10))

/-- The last digits of a number, as many as asked for. -/
def hexPadded (count n : Nat) : List Char :=
  ((List.range count).map fun place => hexDigit (n / Nat.pow 16 place % 16)).reverse

/-- The digits of a number below `16 ^ 8`, without leading zeros. -/
def hexDigits (n : Nat) : List Char :=
  match (hexPadded 8 n).dropWhile (· == '0') with
  | [] => ['0']
  | digits => digits

end BindingRegions.Text

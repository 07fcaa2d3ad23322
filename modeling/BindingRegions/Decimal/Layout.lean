import BindingRegions.Decimal.Shortest

/-! How a decimal is laid out in text: positionally for moderate magnitudes, else
with an exponent. -/

namespace BindingRegions.Decimal

/-- The choices of a layout. The exponent of a number is that of its first digit. -/
structure Layout where
  /-- The least exponent written positionally. -/
  least : Int
  /-- The greatest exponent written positionally. -/
  greatest : Int
  /-- What follows a whole number written positionally. -/
  wholeMark : String
  /-- What stands before an exponent that is not negative. -/
  plusMark : String

def digitsText (n : Nat) : String :=
  String.ofList (Nat.toDigits 10 n)

def Layout.positional (layout : Layout) (digits : List Char) (exponent : Int) : String :=
  let count : Int := digits.length
  if exponent < 0 then
    String.ofList ('0' :: '.' :: List.replicate (-exponent - 1).toNat '0' ++ digits)
  else if count ≤ exponent + 1 then
    String.ofList (digits ++ List.replicate (exponent + 1 - count).toNat '0') ++ layout.wholeMark
  else
    let whole := (exponent + 1).toNat
    String.ofList (digits.take whole ++ '.' :: digits.drop whole)

def Layout.scientific (layout : Layout) (digits : List Char) (exponent : Int) : String :=
  let body := match digits with
    | first :: second :: rest => first :: '.' :: second :: rest
    | _ => digits
  let mark := if exponent < 0 then "e-" else "e" ++ layout.plusMark
  String.ofList body ++ mark ++ digitsText exponent.natAbs

def Layout.text (layout : Layout) (x : Binary64) : String :=
  let sign := if x.negative then "-" else ""
  if x.significand = 0 then sign ++ "0" ++ layout.wholeMark
  else
    let short := shortest x
    let digits := Nat.toDigits 10 short.value
    let exponent := short.exponent + digits.length - 1
    sign ++ if layout.least ≤ exponent && exponent ≤ layout.greatest
      then layout.positional digits exponent
      else layout.scientific digits exponent

end BindingRegions.Decimal

import BindingRegions.Decoding
import BindingRegions.Text.Character
import BindingRegions.Yaml.Tag

/-! What a scalar stands for. A plain scalar without a tag is null, a boolean, an
integer or a float if it is spelt like one, and text otherwise; a standard tag asks
for one of these. -/

namespace BindingRegions.Yaml

open Decimal

inductive CoreScalar where
  | null
  | bool (value : Bool)
  /-- An integer of at most 128 bits. -/
  | integer (value : Int)
  | double (value : Binary64)
  | infinity (negative : Bool)
  | notANumber
  | text (value : String)
  deriving DecidableEq, Repr

namespace CoreScalar

def isNull (text : String) : Bool :=
  text = "null" || text = "Null" || text = "NULL" || text = "~"

def bool? (text : String) : Option Bool :=
  if text = "true" || text = "True" || text = "TRUE" then some true
  else if text = "false" || text = "False" || text = "FALSE" then some false
  else none

def dropPlus : List Char → List Char
  | '+' :: rest => rest
  | chars => chars

def startsSigned (chars : List Char) : Bool :=
  chars.head? = some '+' || chars.head? = some '-'

/-- The number with the given digits in a base of at most 16, one digit at least. -/
def natural? (base : Nat) (digits : List Char) : Option Nat :=
  if digits = [] then none
  else digits.foldlM (fun n c => do
    let d ← Text.hexValue? c
    if d < base then some (base * n + d) else none) 0

/-- The digits behind a base mark such as `0x`, with the base. -/
def afterBaseMark : List Char → Option (Nat × List Char)
  | '0' :: 'x' :: rest => some (16, rest)
  | '0' :: 'o' :: rest => some (8, rest)
  | '0' :: 'b' :: rest => some (2, rest)
  | _ => none

/-- Digits with a zero in front are no number. -/
def isPaddedDigits (chars : List Char) : Bool :=
  let digits := if startsSigned chars then chars.drop 1 else chars
  1 < digits.length && digits.head? = some '0' && digits.all Char.isDigit

/-- A number that is not negative: an optional plus sign and digits, perhaps behind a
base mark. -/
def unsigned? (chars : List Char) : Option Nat :=
  let body := dropPlus chars
  match afterBaseMark body with
  | some (base, digits) => natural? base digits
  | none => if isPaddedDigits chars then none else natural? 10 body

def negative? (chars : List Char) : Option Nat :=
  match chars with
  | '-' :: body =>
    match afterBaseMark body with
    | some (base, digits) => natural? base digits
    | none => if isPaddedDigits chars then none else natural? 10 body
  | _ => none

/-- An integer of at most 128 bits. -/
def integer? (text : String) : Option Int :=
  match unsigned? text.toList, negative? text.toList with
  | some n, _ => if n < Nat.pow 2 128 then some n else none
  | none, some n => if n ≤ Nat.pow 2 127 then some (-n) else none
  | none, none => none

/-- A decimal with an optional point and exponent, digits on at least one side of the
point, and a digit in the exponent, as a double: `none` for another text, `some none`
beyond the largest double. -/
def decimal? (negative : Bool) (chars : List Char) : Option (Option Binary64) := do
  let whole := chars.takeWhile Char.isDigit
  let rest := chars.dropWhile Char.isDigit
  let (fraction, rest) := match rest with
    | '.' :: rest => (rest.takeWhile Char.isDigit, rest.dropWhile Char.isDigit)
    | _ => ([], rest)
  if whole = [] && fraction = [] then none
  let power : Int ← match rest with
    | [] => some 0
    | e :: rest =>
      if e = 'e' || e = 'E' then
        match rest with
        | '-' :: digits => (natural? 10 digits).map fun n => -(n : Int)
        | _ => (natural? 10 (dropPlus rest)).map Int.ofNat
      else none
  let digits ← natural? 10 (whole ++ fraction)
  return Binary64.ofDecimal? negative digits (power - fraction.length)

def float? (text : String) : Option CoreScalar :=
  let chars := text.toList
  let isInfinity (chars : List Char) : Bool :=
    let s := String.ofList chars
    s = ".inf" || s = ".Inf" || s = ".INF"
  if isInfinity (dropPlus chars) then some (.infinity false)
  else match chars with
    | '-' :: body =>
      if isInfinity body then some (.infinity true)
      else (decimal? true body).bind fun x => x.map .double
    | _ =>
      if text = ".nan" || text = ".NaN" || text = ".NAN" then some .notANumber
      else (decimal? false (dropPlus chars)).bind fun x => x.map .double

def ofPlain (text : String) : CoreScalar :=
  if text = "" || isNull text then .null
  else match bool? text, integer? text with
    | some value, _ => .bool value
    | none, some value => .integer value
    | none, none =>
      if isPaddedDigits text.toList then .text text
      else (float? text).getD (.text text)

/-- Whether a tag is of the document's own, written with one `!`. -/
def isLocal : Tag → Bool
  | .named name => name.startsWith "!"
  | .unreadable => false

/-- What a scalar stands for, or how its text fails the standard tag it bears. -/
def ofScalar (tag : Option Tag) (plain : Bool) (text : String) : Except DataFault CoreScalar :=
  let standard (kind : String) : Bool := tag = some (.named ("tag:yaml.org,2002:" ++ kind))
  let ask (answer : Option CoreScalar) (expected : String) : Except DataFault CoreScalar :=
    answer.elim (.error (.invalidValue (.string text) expected)) .ok
  if standard "bool" then ask ((bool? text).map .bool) "a boolean"
  else if standard "int" then ask ((integer? text).map .integer) "an integer"
  else if standard "float" then ask (float? text) "a float"
  else if standard "null" then ask (if isNull text then some .null else none) "null"
  else if plain && tag.all isLocal then .ok (ofPlain text)
  else .ok (.text text)

/-- The digits of a double in messages: always positional. -/
def messageLayout : Layout where
  least := -400
  greatest := 400
  wholeMark := ".0"
  plusMark := ""

def found : CoreScalar → Found
  | null => .unit
  | bool value => .boolean value
  | integer value =>
    if -(Nat.pow 2 63) ≤ value && value < Nat.pow 2 64 then .integer value else .wideInteger value
  | double value => .floating (messageLayout.text value)
  | infinity negative => .floating (if negative then "-inf" else "inf")
  | notANumber => .floating "NaN"
  | text value => .string value

end CoreScalar

end BindingRegions.Yaml

import BindingRegions.Decimal.Layout

/-! Document values: what a JSON text or a YAML document says, whichever it was. -/

namespace BindingRegions

/-- A number of a document: an integer of at most 64 bits, or a double. -/
inductive Number where
  | integer (value : Int)
  | double (value : Decimal.Binary64)
  deriving DecidableEq, Repr

/-- Doubles have their shortest digits, positional from `0.00001` up to `10 ^ 16`;
whole ones keep `.0`, and exponents have a sign. -/
def Number.doubleLayout : Decimal.Layout where
  least := -5
  greatest := 15
  wholeMark := ".0"
  plusMark := "+"

def Number.text : Number → String
  | .integer value => (if value < 0 then "-" else "") ++ Decimal.digitsText value.natAbs
  | .double value => doubleLayout.text value

/-- A document value. The fields of a mapping stand in document order; a name that
occurs twice has the value of its last occurrence. -/
inductive Value where
  | null
  | bool (value : Bool)
  | number (value : Number)
  | string (value : String)
  | sequence (items : List Value)
  | mapping (fields : List (String × Value))
  deriving Repr

/-- The six kinds of value, as messages name them. -/
inductive Value.Kind where
  | null | boolean | number | string | sequence | mapping
  deriving DecidableEq, Repr

namespace Value

def Kind.text : Kind → String
  | .null => "null"
  | .boolean => "a boolean"
  | .number => "a number"
  | .string => "a string"
  | .sequence => "a sequence"
  | .mapping => "a mapping"

def kind : Value → Kind
  | null => .null
  | bool _ => .boolean
  | number _ => .number
  | string _ => .string
  | sequence _ => .sequence
  | mapping _ => .mapping

/-- The value of a name in a list of fields: the last one given. -/
def lookup (name : String) (fields : List (String × Value)) : Option Value :=
  fields.foldl (fun found field => if field.1 = name then some field.2 else found) none

/-- The text of a scalar: a string itself, a number or boolean in plain spelling. -/
def scalarText? : Value → Option String
  | string value => some value
  | number value => some value.text
  | bool value => some (if value then "true" else "false")
  | _ => none

theorem lookup_append_singleton (name other : String) (value : Value)
    (fields : List (String × Value)) :
    lookup name (fields ++ [(other, value)])
      = if other = name then some value else lookup name fields := by
  simp [lookup]

end Value

end BindingRegions

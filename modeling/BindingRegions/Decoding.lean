import BindingRegions.Decimal.Layout
import BindingRegions.Text.Quoted

/-! Why a well-formed document does not have the expected shape. -/

namespace BindingRegions

inductive Found where
  | null
  | unit
  | boolean (value : Bool)
  | integer (value : Int)
  /-- An integer of more than 64 bits. -/
  | wideInteger (value : Int)
  /-- A double, in the digits that the document's format would give it. -/
  | floating (text : String)
  | string (value : String)
  | sequence
  | mapping
  | variant
  deriving DecidableEq, Repr

def integerText (value : Int) : String :=
  (if value < 0 then "-" else "") ++ Decimal.digitsText value.natAbs

def Found.text : Found → String
  | null => "null"
  | unit => "unit value"
  | boolean value => "boolean `" ++ (if value then "true" else "false") ++ "`"
  | integer value => "integer `" ++ integerText value ++ "`"
  | wideInteger value =>
    "integer `" ++ integerText value ++ (if value < 0 then "` as i128" else "` as u128")
  | floating text => "floating point `" ++ text ++ "`"
  | string value => "string " ++ Text.quoted value
  | sequence => "sequence"
  | mapping => "map"
  | variant => "enum"

inductive DataFault where
  | invalidType (found : Found) (expected : String)
  | invalidValue (found : Found) (expected : String)
  | invalidLength (length : Nat) (expected : String)
  | unknownVariant (name : String) (expected : List String)
  | duplicateField (name : String)
  | missingField (name : String)
  | numberOutOfRange
  | tooDeep
  | tooManyAliases
  deriving DecidableEq, Repr

def DataFault.message : DataFault → String
  | invalidType found expected => "invalid type: " ++ found.text ++ ", expected " ++ expected
  | invalidValue found expected => "invalid value: " ++ found.text ++ ", expected " ++ expected
  | invalidLength length expected =>
    "invalid length " ++ Decimal.digitsText length ++ ", expected " ++ expected
  | unknownVariant name expected =>
    "unknown variant `" ++ name ++ "`, expected "
      ++ " or ".intercalate (expected.map fun name => "`" ++ name ++ "`")
  | duplicateField name => "duplicate field `" ++ name ++ "`"
  | missingField name => "missing field `" ++ name ++ "`"
  | numberOutOfRange => "JSON number out of range"
  | tooDeep => "recursion limit exceeded"
  | tooManyAliases => "repetition limit exceeded"

end BindingRegions

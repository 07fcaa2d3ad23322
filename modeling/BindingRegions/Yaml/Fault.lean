import BindingRegions.Decoding
import BindingRegions.Yaml.SyntaxFault

/-! Faults of a YAML document: the text is not a document, or a node in it does not
have the expected shape. -/

namespace BindingRegions.Yaml

inductive Path where
  | root
  | item (parent : Path) (index : Nat)
  | field (parent : Path) (name : String)
  deriving DecidableEq, Repr

def Path.text : Path → String
  | root => "."
  | item parent index => parent.text ++ "[" ++ Decimal.digitsText index ++ "]"
  | field .root name => name
  | field parent name => parent.text ++ "." ++ name

inductive Fault where
  | syntaxFault (fault : SyntaxFault)
  | data (path : Path) (fault : DataFault)
  deriving DecidableEq, Repr

def Fault.message : Fault → String
  | syntaxFault fault => fault.message
  | data .root fault => fault.message
  | data path fault => path.text ++ ": " ++ fault.message

/-- Nesting and repetition are limits of the whole document, so their faults name no
place. -/
def Fault.atLimit (fault : DataFault) : Fault := .data .root fault

end BindingRegions.Yaml

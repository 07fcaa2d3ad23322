import BindingRegions.Decoding
import BindingRegions.Json.Tree

/-! Faults of a JSON text: it is not a document, or a node in it does not have the
expected shape. Of two faults the one met first counts. -/

namespace BindingRegions.Json

inductive Fault where
  | malformed
  | data (fault : DataFault)
  deriving DecidableEq, Repr

def Fault.message : Fault → String
  | malformed => "the text is not a JSON document"
  | data fault => fault.message

def Tree.mismatch (expected : String) : Tree → Fault
  | .null => .data (.invalidType .null expected)
  | .bool value => .data (.invalidType (.boolean value) expected)
  | .number (some (.integer value)) => .data (.invalidType (.integer value) expected)
  | .number (some (.double value)) =>
    .data (.invalidType (.floating (Number.double value).text) expected)
  | .string (some value) => .data (.invalidType (.string value) expected)
  | .sequence _ _ => .data (.invalidType .sequence expected)
  | .mapping _ _ => .data (.invalidType .mapping expected)
  | .number none | .string none | .broken => .malformed

def Tree.asText (expected : String) : Tree → Except Fault String
  | .string (some value) => .ok value
  | node => .error (node.mismatch expected)

def Tree.asKey : Tree → Except Fault String
  | .string (some name) => .ok name
  | _ => .error .malformed

end BindingRegions.Json

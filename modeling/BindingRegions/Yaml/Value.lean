import BindingRegions.Value
import BindingRegions.Yaml.CoreScalar
import BindingRegions.Yaml.Fault
import BindingRegions.Yaml.Node

/-! The value of a YAML document. Collections may be nested 128 deep, aliases
followed; nodes with a tag of the document's own have no value. Every alias followed is
counted, and a document may not ask for more than a hundred times its size of them. -/

namespace BindingRegions.Yaml

/-- Reads with a count of the aliases followed so far. -/
abbrev Decoder := StateT Nat (Except Fault)

def Decoder.fail {α : Type} (path : Path) (fault : DataFault) : Decoder α :=
  throw (.data path fault)

/-- The way to the value of a key. Only a key written out is named. -/
def Path.ofKey (parent : Path) : Node → Path
  | .scalar _ _ text => .field parent text
  | _ => .field parent "?"

def Document.follow (document : Document) (node : Node) : Decoder Node := do
  match node with
  | .alias number =>
    let followed := (← get) + 1
    set followed
    if 100 * document.size < followed then throw (.atLimit .tooManyAliases)
    return (document.find? number).getD .empty
  | node => return node

/-! ### Values -/

def depthLimit : Nat := 128

/-- The value of a scalar. Infinities and what is not a number have none but null. -/
def CoreScalar.value : CoreScalar → Except DataFault Value
  | .null => .ok .null
  | .bool value => .ok (.bool value)
  | .integer value =>
    if -(Nat.pow 2 63) ≤ value && value < Nat.pow 2 64 then .ok (.number (.integer value))
    else .error .numberOutOfRange
  | .double value => .ok (.number (.double value))
  | .infinity _ => .ok .null
  | .notANumber => .ok .null
  | .text value => .ok (.string value)

def refuseLocal (path : Path) (properties : Properties) : Decoder Unit :=
  if properties.tag.any CoreScalar.isLocal then
    Decoder.fail path (.invalidType .variant "any valid JSON value")
  else return

/-- The name of a field: the text of a scalar, whatever it stands for. -/
def Document.fieldName (document : Document) (path : Path) (expected : String) (node : Node) :
    Decoder String := do
  match ← document.follow node with
  | .sequence .. => Decoder.fail path (.invalidType .sequence expected)
  | .mapping .. => Decoder.fail path (.invalidType .mapping expected)
  | .scalar _ _ text => return text
  | .alias _ => return ""

def Document.valueOf (document : Document) : Nat → Path → Node → Decoder Value
  | depth, path, node => do
    match ← document.follow node, depth with
    | .alias _, _ => return .null
    | .scalar properties plain text, _ =>
      refuseLocal path properties
      match CoreScalar.ofScalar properties.tag plain text >>= CoreScalar.value with
      | .ok value => return value
      | .error fault => Decoder.fail path fault
    | .sequence properties items, depth =>
      refuseLocal path properties
      match depth with
      | 0 => throw (.atLimit .tooDeep)
      | depth + 1 =>
        let values ← items.zipIdx.mapM fun (item, i) =>
          document.valueOf depth (.item path i) item
        return .sequence values
    | .mapping properties entries, depth =>
      refuseLocal path properties
      match depth with
      | 0 => throw (.atLimit .tooDeep)
      | depth + 1 =>
        let fields ← entries.zipIdx.mapM fun ((key, node), i) => do
          let name ← document.fieldName path (if i = 0 then "a string key" else "a string") key
          return (name, ← document.valueOf depth (.ofKey path key) node)
        return .mapping fields

/-- The value of a text, if it is exactly one YAML document. -/
def value (text : String) : Except Fault Value :=
  match Document.ofText text with
  | .error fault => .error (.syntaxFault fault)
  | .ok document =>
    match document.root with
    | none => .ok .null
    | some root => (document.valueOf depthLimit .root root).run' 0

end BindingRegions.Yaml

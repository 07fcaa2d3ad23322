import BindingRegions.Error
import BindingRegions.Json.Tree
import BindingRegions.Log
import BindingRegions.Text.Character
import BindingRegions.Yaml.Value

/-! Schemas in texts and files. A file whose name ends in `.json`, in either case, holds
JSON, and every other file YAML. -/

namespace BindingRegions

inductive Format where
  | yaml | json
  deriving DecidableEq, Repr

/-- The document in a schema's text. Blank YAML says nothing. -/
def Format.document : Format → String → Except SchemaFault Value
  | .yaml, text =>
    if Text.isAllBlank text then .ok .null else (Yaml.value text).mapError .yaml
  | .json, text => (Json.value? text).elim (.error (.json .malformed)) .ok

namespace Schema

def ofText (format : Format) (text : String) : Except SchemaFault Schema := do
  (ofValue (← format.document text)).mapError .shape

def formatOf (path : FilePath) : Format :=
  if path.extension?.any (·.toLower = "json") then .json else .yaml

def load (files : FileSystem) (path : FilePath) : Except Error Schema :=
  match files.read path with
  | .error fault => .error (.schemaUnreadable path fault)
  | .ok text => (ofText (formatOf path) text).mapError (.schemaFile path)

/-- What reading a schema from a document notes down: the count of its functions, if it
has a sequence of them. -/
def valueLog (document : Value) : List LogRecord :=
  match document, ofValue document with
  | .sequence _, .ok schema => [.parsed schema.functions.length]
  | _, _ => []

def loadLog (files : FileSystem) (path : FilePath) : List LogRecord :=
  match files.read path with
  | .error _ => []
  | .ok text =>
    match (formatOf path).document text with
    | .error _ => []
    | .ok document => valueLog document

end Schema

end BindingRegions

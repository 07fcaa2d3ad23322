import BindingRegions.Files.FileSystem
import BindingRegions.Json.Fault
import BindingRegions.Schema
import BindingRegions.Text.Quoted
import BindingRegions.Yaml.Fault

/-! The errors of the library, and their messages. -/

namespace BindingRegions

inductive SchemaFault where
  | yaml (fault : Yaml.Fault)
  | json (fault : Json.Fault)
  | shape (fault : ShapeFault)
  deriving DecidableEq, Repr

inductive Error where
  /-- A config could not be written. -/
  | io (fault : IoFault)
  /-- A config in YAML is at fault. -/
  | yaml (fault : Yaml.Fault)
  /-- A config in JSON is at fault. -/
  | json (fault : Json.Fault)
  /-- A schema is at fault. -/
  | schema (fault : SchemaFault)
  /-- A schema in a file is at fault. -/
  | schemaFile (path : FilePath) (fault : SchemaFault)
  /-- A schema file could not be read. -/
  | schemaUnreadable (path : FilePath) (fault : IoFault)
  /-- A target could not be read or written. -/
  | targetFile (path : FilePath) (fault : IoFault)
  /-- A start marker has no end marker after it, and must have. -/
  | missingEndMarker (path : FilePath) (marker : String)
  /-- A config file could not be read. -/
  | configUnreadable (path : FilePath) (fault : IoFault)
  deriving DecidableEq, Repr

/-- The kinds of error that callers tell apart. -/
inductive ErrorKind where
  | io | yaml | json | schema | targetFile | missingEndMarker | config
  deriving DecidableEq, Repr

def SchemaFault.message : SchemaFault → String
  | yaml fault => "invalid YAML: " ++ fault.message
  | json fault => "invalid JSON: " ++ fault.message
  | shape fault => fault.message

namespace Error

def kind : Error → ErrorKind
  | io _ => .io
  | yaml _ => .yaml
  | json _ => .json
  | schema _ | schemaFile _ _ | schemaUnreadable _ _ => .schema
  | targetFile _ _ => .targetFile
  | missingEndMarker _ _ => .missingEndMarker
  | configUnreadable _ _ => .config

def message : Error → String
  | io fault => "I/O error: " ++ fault.message
  | yaml fault => "YAML parsing error: " ++ fault.message
  | json fault => "JSON parsing error: " ++ fault.message
  | schema fault => "Schema error: " ++ fault.message
  | schemaFile path fault => "Schema error: " ++ path.text ++ ": " ++ fault.message
  | schemaUnreadable path fault =>
    "Schema error: Failed to read declarations " ++ path.text ++ ": " ++ fault.message
  | targetFile path fault =>
    "Failed to access target file " ++ path.text ++ ": " ++ fault.message
  | missingEndMarker path marker =>
    "End marker " ++ Text.quoted marker ++ " not found after start marker in " ++ path.text
  | configUnreadable path fault =>
    "Configuration error: Failed to read config " ++ path.text ++ ": " ++ fault.message

/-- The message of the fault underneath, where the error only passes one on. -/
def cause? : Error → Option String
  | io fault => some fault.message
  | yaml fault => some fault.message
  | json fault => some fault.message
  | targetFile _ fault => some fault.message
  | _ => none

end Error

end BindingRegions

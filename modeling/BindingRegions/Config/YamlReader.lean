import BindingRegions.Config.Setting
import BindingRegions.Yaml.Value

/-! Configs in YAML. A config or marker pair is a mapping, or nothing at all, which
counts as an empty one. Unknown fields are passed over. -/

namespace BindingRegions

namespace Yaml

def mismatch {α : Type} (path : Path) (expected : String) : Node → Decoder α
  | .sequence .. => Decoder.fail path (.invalidType .sequence expected)
  | .mapping .. => Decoder.fail path (.invalidType .mapping expected)
  | .alias _ => Decoder.fail path (.invalidType .unit expected)
  | .scalar properties plain text =>
    match CoreScalar.ofScalar properties.tag plain text with
    | .ok value => Decoder.fail path (.invalidType value.found expected)
    | .error fault => Decoder.fail path fault

/-- The text of a scalar, whatever it stands for. -/
def Document.textOf (document : Document) (path : Path) (node : Node) : Decoder String := do
  match ← document.follow node with
  | .scalar _ _ text => return text
  | node => mismatch path "a string" node

/-- The entries of a mapping; an empty plain scalar has none. -/
def Document.entriesOf (document : Document) (path : Path) (expected : String) (node : Node) :
    Decoder (List (Node × Node)) := do
  match ← document.follow node with
  | .mapping _ entries => return entries
  | .scalar _ true "" => return []
  | node => mismatch path expected node

end Yaml

open Yaml (Decoder)

namespace MarkerPair

def ofYamlEntries (document : Yaml.Document) (path : Yaml.Path) :
    Option String → Option String → List (Yaml.Node × Yaml.Node) → Decoder MarkerPair
  | start, stop, [] =>
    match start, stop with
    | none, _ => Decoder.fail path (.missingField Field.start.name)
    | _, none => Decoder.fail path (.missingField Field.stop.name)
    | some start, some stop => return ⟨start, stop⟩
  | start, stop, (key, node) :: rest => do
    match Field.ofName? (← document.fieldName path "field identifier" key) with
    | none => ofYamlEntries document path start stop rest
    | some .start =>
      if start.isSome then Decoder.fail path (.duplicateField Field.start.name)
      let text ← document.textOf (.ofKey path key) node
      ofYamlEntries document path (some text) stop rest
    | some .stop =>
      if stop.isSome then Decoder.fail path (.duplicateField Field.stop.name)
      let text ← document.textOf (.ofKey path key) node
      ofYamlEntries document path start (some text) rest

def ofYaml (document : Yaml.Document) (path : Yaml.Path) (node : Yaml.Node) :
    Decoder MarkerPair := do
  ofYamlEntries document path none none (← document.entriesOf path expectation node)

end MarkerPair

namespace EndMarkerPolicy

/-- The policy that a local tag names. The node that bears the tag has no content. -/
def ofTag (path : Yaml.Path) (name : String) (node : Yaml.Node) : Decoder EndMarkerPolicy := do
  let bare := if name = "!" then name else String.ofList (name.toList.drop 1)
  match named bare with
  | .error fault => Decoder.fail path fault
  | .ok policy =>
    match node with
    | .scalar _ true text =>
      if text = "" || Yaml.CoreScalar.isNull text then return policy
      else Yaml.mismatch path "unit" node
    | node => Yaml.mismatch path "unit" node

/-- A policy is a scalar with its name, or a node whose tag names it. -/
def ofYaml (document : Yaml.Document) (path : Yaml.Path) (node : Yaml.Node) :
    Decoder EndMarkerPolicy := do
  let node ← document.follow node
  let tag := match node with
    | .scalar p _ _ | .sequence p _ | .mapping p _ => p.tag
    | .alias _ => none
  let tagExpected := "a YAML tag starting with '!'"
  match tag.filter Yaml.CoreScalar.isLocal, node with
  | some (.named name), node => ofTag path name node
  | _, .sequence .. => Decoder.fail path (.invalidType .sequence tagExpected)
  | _, .mapping .. => Decoder.fail path (.invalidType .mapping tagExpected)
  | _, .scalar _ _ text =>
    match named text with
    | .error fault => Decoder.fail path fault
    | .ok policy => return policy
  | _, node => Yaml.mismatch path tagExpected node

end EndMarkerPolicy

namespace Config

def Setting.ofYaml (document : Yaml.Document) (path : Yaml.Path) (node : Yaml.Node)
    (field : Field) : Decoder Setting := do
  match field with
  | .functionPrefix => return .functionPrefix (← document.textOf path node)
  | .bodyMarkers => return .bodyMarkers (← MarkerPair.ofYaml document path node)
  | .headerMarkers => return .headerMarkers (← MarkerPair.ofYaml document path node)
  | .symbolMarkers => return .symbolMarkers (← MarkerPair.ofYaml document path node)
  | .endMarkerPolicy => return .endMarkerPolicy (← EndMarkerPolicy.ofYaml document path node)

/-- The config in the entries of a mapping, of which some fields have been seen. -/
def ofYamlEntries (document : Yaml.Document) :
    List Field → Config → List (Yaml.Node × Yaml.Node) → Decoder Config
  | _, config, [] => return config
  | seen, config, (key, node) :: rest => do
    match Field.ofName? (← document.fieldName .root "field identifier" key) with
    | none => ofYamlEntries document seen config rest
    | some field =>
      if field ∈ seen then Decoder.fail .root (.duplicateField field.name)
      let setting ← Setting.ofYaml document (.ofKey .root key) node field
      ofYamlEntries document (field :: seen) (config.set setting) rest

def ofYaml (text : String) : Except Yaml.Fault Config :=
  match Yaml.Document.ofText text with
  | .error fault => .error (.syntaxFault fault)
  | .ok document =>
    match document.root with
    | none => .ok {}
    | some root =>
      (do ofYamlEntries document [] {} (← document.entriesOf .root expectation root)
        : Decoder Config).run' 0

end Config

end BindingRegions

import BindingRegions.Config.Setting
import BindingRegions.Json.Fault

/-! Configs in JSON. A config or marker pair is a mapping, or a sequence with the
fields' values in order. Unknown fields are passed over. -/

namespace BindingRegions

namespace MarkerPair

def ofJsonFields (closed : Bool) :
    Option String → Option String → List (Json.Tree × Json.Tree) → Except Json.Fault MarkerPair
  | start, stop, [] => do
    if !closed then throw .malformed
    match start, stop with
    | none, _ => throw (.data (.missingField Field.start.name))
    | _, none => throw (.data (.missingField Field.stop.name))
    | some start, some stop => return ⟨start, stop⟩
  | start, stop, (key, node) :: rest => do
    match Field.ofName? (← key.asKey) with
    | none => ofJsonFields closed start stop rest
    | some .start =>
      if start.isSome then throw (.data (.duplicateField Field.start.name))
      ofJsonFields closed (some (← node.asText "a string")) stop rest
    | some .stop =>
      if stop.isSome then throw (.data (.duplicateField Field.stop.name))
      ofJsonFields closed start (some (← node.asText "a string")) rest

def ofJsonItems (closed : Bool) (items : List Json.Tree) : Except Json.Fault MarkerPair := do
  let short (count : Nat) : Except Json.Fault MarkerPair :=
    if closed then .error (.data (.invalidLength count (expectation ++ " with 2 elements")))
    else .error .malformed
  match items with
  | [] => short 0
  | [start] =>
    let _ ← start.asText "a string"
    short 1
  | start :: stop :: rest =>
    let pair : MarkerPair := ⟨← start.asText "a string", ← stop.asText "a string"⟩
    if closed && rest.isEmpty then return pair else throw .malformed

def ofJson : Json.Tree → Except Json.Fault MarkerPair
  | .mapping fields closed => ofJsonFields closed none none fields
  | .sequence items closed => ofJsonItems closed items
  | node => .error (node.mismatch expectation)

end MarkerPair

namespace EndMarkerPolicy

/-- A policy is a string, or a mapping from its name to null. -/
def ofJson : Json.Tree → Except Json.Fault EndMarkerPolicy
  | .string (some name) => (named name).mapError .data
  | .mapping ((key, node) :: rest) closed => do
    if let .broken := key then throw .malformed
    let policy ← (named (← key.asText "variant identifier")).mapError .data
    match node with
    | .null => if closed && rest.isEmpty then return policy else throw .malformed
    | node => throw (node.mismatch "unit")
  | _ => .error .malformed

end EndMarkerPolicy

namespace Config

def Setting.ofJson (node : Json.Tree) : Field → Except Json.Fault Setting
  | .functionPrefix => return .functionPrefix (← node.asText "a string")
  | .bodyMarkers => return .bodyMarkers (← MarkerPair.ofJson node)
  | .headerMarkers => return .headerMarkers (← MarkerPair.ofJson node)
  | .symbolMarkers => return .symbolMarkers (← MarkerPair.ofJson node)
  | .endMarkerPolicy => return .endMarkerPolicy (← EndMarkerPolicy.ofJson node)

/-- The config in the fields of a mapping, of which some have been seen. -/
def ofJsonFields (closed : Bool) :
    List Field → Config → List (Json.Tree × Json.Tree) → Except Json.Fault Config
  | _, config, [] => if closed then .ok config else .error .malformed
  | seen, config, (key, node) :: rest => do
    match Field.ofName? (← key.asKey) with
    | none => ofJsonFields closed seen config rest
    | some field =>
      if field ∈ seen then throw (.data (.duplicateField field.name))
      ofJsonFields closed (field :: seen) (config.set (← Setting.ofJson node field)) rest

/-- The config in the items of a sequence, for the fields to come. -/
def ofJsonItems (closed : Bool) :
    Config → List Field → List Json.Tree → Except Json.Fault Config
  | config, _, [] => if closed then .ok config else .error .malformed
  | _, [], _ :: _ => .error .malformed
  | config, field :: fields, node :: rest => do
    ofJsonItems closed (config.set (← Setting.ofJson node field)) fields rest

def ofJsonTree : Json.Tree → Except Json.Fault Config
  | .mapping fields closed => ofJsonFields closed [] {} fields
  | .sequence items closed => ofJsonItems closed {} Field.all items
  | node => .error (node.mismatch expectation)

def ofJson (text : String) : Except Json.Fault Config := do
  let document := Json.Document.read text
  let config ← ofJsonTree document.root
  if document.ended then return config else throw .malformed

end Config

end BindingRegions

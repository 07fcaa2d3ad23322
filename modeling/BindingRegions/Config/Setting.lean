import BindingRegions.Config
import BindingRegions.Decoding

/-! The fields of a config document, and what messages call its parts. -/

namespace BindingRegions

inductive Config.Field where
  | functionPrefix | bodyMarkers | headerMarkers | symbolMarkers | endMarkerPolicy
  deriving DecidableEq, Repr

inductive Config.Setting where
  | functionPrefix (value : String)
  | bodyMarkers (value : MarkerPair)
  | headerMarkers (value : MarkerPair)
  | symbolMarkers (value : MarkerPair)
  | endMarkerPolicy (value : EndMarkerPolicy)
  deriving DecidableEq, Repr

namespace Config

/-- All fields, in the order in which documents list them. -/
def Field.all : List Field :=
  [.functionPrefix, .bodyMarkers, .headerMarkers, .symbolMarkers, .endMarkerPolicy]

def Field.name : Field → String
  | .functionPrefix => "function_prefix"
  | .bodyMarkers => "body_markers"
  | .headerMarkers => "header_markers"
  | .symbolMarkers => "symbol_markers"
  | .endMarkerPolicy => "end_marker_policy"

def Field.ofName? (name : String) : Option Field :=
  Field.all.find? (·.name == name)

def expectation : String := "struct Config"

def set (config : Config) : Setting → Config
  | .functionPrefix value => { config with functionPrefix := value }
  | .bodyMarkers value => { config with bodyMarkers := value }
  | .headerMarkers value => { config with headerMarkers := value }
  | .symbolMarkers value => { config with symbolMarkers := value }
  | .endMarkerPolicy value => { config with endMarkerPolicy := value }

end Config

inductive MarkerPair.Field where
  | start | stop
  deriving DecidableEq, Repr

def MarkerPair.Field.name : MarkerPair.Field → String
  | start => "start"
  | stop => "end"

def MarkerPair.Field.ofName? (name : String) : Option MarkerPair.Field :=
  [start, stop].find? (·.name == name)

def MarkerPair.expectation : String := "struct MarkerPair"

def EndMarkerPolicy.named (name : String) : Except DataFault EndMarkerPolicy :=
  match ofName? name with
  | some policy => .ok policy
  | none => .error (.unknownVariant name names)

end BindingRegions

import BindingRegions.Region

/-! The settings of a run: the naming prefix, the markers around the three generated
regions, and what to do when an end marker is missing. -/

namespace BindingRegions

/-- What to do when a start marker has no end marker after it. -/
inductive EndMarkerPolicy where
  /-- The region runs to the end of the file. -/
  | throughEndOfFile
  /-- The target is refused. -/
  | strict
  deriving DecidableEq, Repr

namespace MarkerPair

/-- Around the stub bodies in the source file. -/
def body : MarkerPair := ⟨"/* Autogen Body -- Start */", "/* Autogen Body -- End */"⟩

/-- Around the function-pointer declarations in the header. -/
def headers : MarkerPair := ⟨"/* Autogen Headers -- Start */", "/* Autogen Headers -- End */"⟩

/-- Around the symbol loaders in the header, indented one level. -/
def symbols : MarkerPair :=
  ⟨"  /* Autogen Symbols -- Start */", "  /* Autogen Symbols -- End */"⟩

end MarkerPair

/-- The settings. The defaults fit the stock layout of source and header. -/
structure Config where
  functionPrefix : String := "lantern_"
  bodyMarkers : MarkerPair := .body
  headerMarkers : MarkerPair := .headers
  symbolMarkers : MarkerPair := .symbols
  endMarkerPolicy : EndMarkerPolicy := .throughEndOfFile
  deriving DecidableEq, Repr

namespace EndMarkerPolicy

def name : EndMarkerPolicy → String
  | throughEndOfFile => "through_end_of_file"
  | strict => "strict"

/-- The names of all policies, in the order in which messages give them. -/
def names : List String := [throughEndOfFile.name, strict.name]

def ofName? (text : String) : Option EndMarkerPolicy :=
  [throughEndOfFile, strict].find? (·.name == text)

theorem ofName?_name (policy : EndMarkerPolicy) : ofName? policy.name = some policy := by
  cases policy <;> decide

end EndMarkerPolicy

end BindingRegions

import BindingRegions.Fragment
import BindingRegions.Schema.File
import BindingRegions.Target

/-! A run: the schema is loaded and every fragment rendered before any target is read;
then the regions are rewritten one after another. Targets are held between the steps,
so a later step sees the edits of an earlier one in the same target. A step that fails
leaves the work of the steps before it in place. -/

namespace BindingRegions

structure Request where
  schemaPath : FilePath
  sourcePath : FilePath
  headerPath : FilePath
  mode : Mode := .write
  deriving DecidableEq, Repr

structure RegionReport where
  path : FilePath
  kind : FragmentKind
  outcome : Outcome
  deriving DecidableEq, Repr

structure Report where
  functionCount : Nat
  regions : List RegionReport
  deriving DecidableEq, Repr

/-- The regions whose content differs from what was generated. -/
def Report.staleRegions (report : Report) : List RegionReport :=
  report.regions.filter (·.outcome == .replaced)

inductive Progress where
  | schemaLoaded (path : FilePath) (functionCount : Nat)
  | region (report : RegionReport)
  deriving DecidableEq, Repr

structure Step where
  path : FilePath
  kind : FragmentKind
  markers : MarkerPair
  lines : List String
  deriving DecidableEq, Repr

def Request.steps (request : Request) (config : Config) (schema : Schema) : List Step :=
  let step (path : FilePath) (kind : FragmentKind) (markers : MarkerPair) : Step :=
    ⟨path, kind, markers, kind.lines schema config.functionPrefix⟩
  [step request.sourcePath .stubs config.bodyMarkers,
    step request.headerPath .declarations config.headerMarkers,
    step request.headerPath .symbols config.symbolMarkers]

/-- How far a run has come: the files, the targets held, and the regions done. -/
structure Workspace where
  files : FileSystem
  targets : List TargetFile := []
  regions : List RegionReport := []

namespace Workspace

/-- The target of a path: the one held under any spelling of it, or else loaded. -/
def fetch (w : Workspace) (path : FilePath) : Except Error TargetFile :=
  match w.targets.find? (·.path.same path) with
  | some target => .ok target
  | none => TargetFile.load w.files path

/-- The targets with the given one in its place. -/
def hold (w : Workspace) (target : TargetFile) : List TargetFile :=
  target :: w.targets.filter (!·.path.same target.path)

def step (mode : Mode) (policy : EndMarkerPolicy) (w : Workspace) (s : Step) :
    Except Error Workspace := do
  let target ← w.fetch s.path
  let (target, outcome) ← target.rewriteRegion s.markers s.lines policy
  let regions := w.regions ++ [⟨s.path, s.kind, outcome⟩]
  match mode with
  | .check => return { w with targets := w.hold target, regions }
  | .write =>
    let (target, _, files) ← target.save w.files
    return { files, targets := w.hold target, regions }

def stepLog (mode : Mode) (policy : EndMarkerPolicy) (w : Workspace) (s : Step) :
    List LogRecord :=
  match w.fetch s.path with
  | .error _ => []
  | .ok target =>
    target.rewriteLog s.markers s.lines policy
      ++ match mode, target.rewriteRegion s.markers s.lines policy with
        | .write, .ok (target, _) => target.saveLog
        | _, _ => []

/-- Makes rewrites in order, up to the first that fails. -/
def run (mode : Mode) (policy : EndMarkerPolicy) :
    Workspace → List Step → Workspace × Option Error
  | w, [] => (w, none)
  | w, s :: rest =>
    match w.step mode policy s with
    | .error e => (w, some e)
    | .ok w => run mode policy w rest

def runLog (mode : Mode) (policy : EndMarkerPolicy) : Workspace → List Step → List LogRecord
  | _, [] => []
  | w, s :: rest =>
    w.stepLog mode policy s
      ++ match w.step mode policy s with
        | .error _ => []
        | .ok w => runLog mode policy w rest

end Workspace

/-- A finished run: its report or error, what it told on the way, and the files it
left. -/
structure Run where
  result : Except Error Report
  progress : List Progress
  files : FileSystem

/-- Generates the bindings of a schema into the regions of source and header. -/
def generate (files : FileSystem) (request : Request) (config : Config) : Run :=
  match Schema.load files request.schemaPath with
  | .error e => ⟨.error e, [], files⟩
  | .ok schema =>
    let count := schema.functions.length
    let (w, failure) :=
      Workspace.run request.mode config.endMarkerPolicy { files } (request.steps config schema)
    { result := match failure with
        | some e => .error e
        | none => .ok ⟨count, w.regions⟩
      progress := .schemaLoaded request.schemaPath count :: w.regions.map .region
      files := w.files }

def generateLog (files : FileSystem) (request : Request) (config : Config) : List LogRecord :=
  Schema.loadLog files request.schemaPath
    ++ match Schema.load files request.schemaPath with
      | .error _ => []
      | .ok schema =>
        .loaded request.schemaPath schema.functions.length
          :: Workspace.runLog request.mode config.endMarkerPolicy { files }
              (request.steps config schema)

end BindingRegions

import BindingRegions.Config
import BindingRegions.Error
import BindingRegions.Log

/-! Target files held in memory. A rewrite changes the content in memory alone; saving
writes it back when it differs from the text that the file was last known to have. A
rewrite or save that fails leaves target and files as they were. -/

namespace BindingRegions

open Text

/-- Whether a run writes its targets or only finds out what it would do. -/
inductive Mode where
  | write | check
  deriving DecidableEq, Repr

inductive Outcome where
  | replaced
  | unchanged
  /-- There is no start marker. -/
  | markerNotFound
  deriving DecidableEq, Repr

/-- A target: its path, the text read from or last written to the file, and the content
with the rewrites since. -/
structure TargetFile where
  path : FilePath
  onDisk : String
  content : String
  deriving DecidableEq, Repr

namespace TargetFile

def load (files : FileSystem) (path : FilePath) : Except Error TargetFile :=
  match files.read path with
  | .ok text => .ok ⟨path, text, text⟩
  | .error fault => .error (.targetFile path fault)

/-- Replaces the body of the region between the markers. Without a start marker the
content stays as it is. -/
def rewriteRegion (target : TargetFile) (markers : MarkerPair) (replacement : List String)
    (policy : EndMarkerPolicy) : Except Error (TargetFile × Outcome) :=
  match h : findRegion (splitLines target.content) markers with
  | none => .ok (target, .markerNotFound)
  | some region =>
    if region.stop = none ∧ policy = .strict then
      .error (.missingEndMarker target.path markers.stop)
    else
      let updated := joinLines (splice _ region replacement (fits_of_findRegion h))
      if updated = target.content then .ok (target, .unchanged)
      else .ok ({ target with content := updated }, .replaced)

def rewriteLog (target : TargetFile) (markers : MarkerPair) (replacement : List String)
    (policy : EndMarkerPolicy) : List LogRecord :=
  match target.rewriteRegion markers replacement policy with
  | .error _ => []
  | .ok (_, .markerNotFound) => [.startMarkerMissing markers.start target.path]
  | .ok (_, outcome) =>
    let region := findRegion (splitLines target.content) markers
    (if region.any (·.stop.isNone) then [.endMarkerMissing markers.stop target.path] else [])
      ++ (if outcome = .unchanged then [.upToDate markers.start target.path] else [])

/-- Writes the content back if it differs from the file's last known text, and tells
whether it did. -/
def save (target : TargetFile) (files : FileSystem) :
    Except Error (TargetFile × Bool × FileSystem) :=
  if target.content = target.onDisk then .ok (target, false, files)
  else match files.write target.path target.content with
    | .error fault => .error (.targetFile target.path fault)
    | .ok files => .ok ({ target with onDisk := target.content }, true, files)

/-- What `save` notes down, also when the write then fails. -/
def saveLog (target : TargetFile) : List LogRecord :=
  if target.content = target.onDisk then [] else [.replacing target.path]

end TargetFile

def rewriteFile (files : FileSystem) (path : FilePath) (markers : MarkerPair)
    (replacement : List String) (policy : EndMarkerPolicy) (mode : Mode) :
    Except Error (Outcome × FileSystem) := do
  let target ← TargetFile.load files path
  let (target, outcome) ← target.rewriteRegion markers replacement policy
  match mode with
  | .check => return (outcome, files)
  | .write =>
    let (_, _, files) ← target.save files
    return (outcome, files)

end BindingRegions

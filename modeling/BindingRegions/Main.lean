import BindingRegions.CommandLine.Execution

/-! The program: the command line runs on a snapshot of the places that its paths lead
through, and the files that it changed are written afterwards. -/

namespace BindingRegions.Snapshot

def pathOf (place : Place) : String :=
  "/" ++ "/".intercalate place.reverse

def placesOn : Place → List FilePath.Step → List Place
  | place, [] => [place]
  | place, .here :: rest => place :: placesOn place rest
  | place, .parent :: rest => place :: placesOn place.tail rest
  | place, .name name :: rest => place :: placesOn (name :: place) rest

def withParents : Place → List Place
  | [] => [[]]
  | name :: place => (name :: place) :: withParents place

def isDirectory (path : String) : IO Bool := do
  try (← IO.FS.realPath path).isDir catch _ => return false

def isWritable (path : String) : IO Bool := do
  try
    let _ ← IO.FS.Handle.mk path .append
    return true
  catch _ => return false

def entryAt (path : String) : IO (Option Entry) := do
  if ← isDirectory path then return some .directory
  try
    let bytes ← IO.FS.readBinFile path
    return some (.file (.ofBytes bytes) (← isWritable path))
  catch _ => return none

def take (working : Place) (paths : List FilePath) : IO FileSystem := do
  let places := paths.flatMap fun path =>
    placesOn (if path.isAbsolute then [] else working) path.steps
  let entries ← (withParents working ++ places).eraseDups.mapM fun place => do
    return (place, ← entryAt (pathOf place))
  return { entry? := fun place => (entries.lookup place).join, working }

/-- Writes the files that differ between two snapshots. -/
def writeBack (before after : FileSystem) (paths : List FilePath) : IO Unit :=
  paths.forM fun path => do
    if let .ok place := after.resolve path then
      if let some (.file (.text text) _) := after.entry? place then
        if before.entry? place ≠ after.entry? place then
          IO.FS.writeFile (pathOf place) text

end BindingRegions.Snapshot

section

open BindingRegions BindingRegions.CommandLine

def main (arguments : List String) : IO UInt32 := do
  let command := Command.ofArguments arguments
  let paths := match command with
    | .generate options =>
      [options.declarations, options.source, options.header] ++ options.config.toList
    | _ => []
  let current := (← IO.currentDir).toString
  let working := (FilePath.steps ⟨current⟩).filterMap fun
    | .name name => some name
    | _ => none
  let files ← Snapshot.take working.reverse paths
  let done := command.execute files
  Snapshot.writeBack files done.files paths
  IO.print done.out
  IO.eprint done.err
  return done.code.toUInt32

end

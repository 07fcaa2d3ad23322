import BindingRegions.Files.Path

/-! A file system as a value: what every place holds. Reading wants UTF-8 text, and
writing replaces a file's whole content or, where nothing is, adds a file. A write
that fails changes nothing. -/

namespace BindingRegions

inductive IoFault where
  | notFound
  | notADirectory
  | isADirectory
  | nameTooLong
  | permissionDenied
  | invalidText
  | nulInName
  deriving DecidableEq, Repr

def IoFault.message : IoFault → String
  | notFound => "No such file or directory (os error 2)"
  | notADirectory => "Not a directory (os error 20)"
  | isADirectory => "Is a directory (os error 21)"
  | nameTooLong => "File name too long (os error 36)"
  | permissionDenied => "Permission denied (os error 13)"
  | invalidText => "stream did not contain valid UTF-8"
  | nulInName => "file name contained an unexpected NUL byte"

inductive Content where
  | text (text : String)
  | bytes (bytes : List UInt8)
  deriving DecidableEq, Repr

def Content.ofBytes (bytes : ByteArray) : Content :=
  match String.fromUTF8? bytes with
  | some decoded => .text decoded
  | none => .bytes bytes.toList

inductive Entry where
  | directory
  | file (content : Content) (writable : Bool)
  deriving DecidableEq, Repr

/-- A place: the names that lead to it from the root, the last one first. -/
abbrev Place := List String

/-- What every place holds, and the place of relative paths. -/
structure FileSystem where
  entry? : Place → Option Entry
  working : Place

namespace FileSystem

/-- The place that some steps lead to. All places on the way are directories; the last
one may hold anything or nothing. -/
def walk (files : FileSystem) : Place → List FilePath.Step → Except IoFault Place
  | place, [] => .ok place
  | place, step :: rest =>
    match files.entry? place, step with
    | none, _ => .error .notFound
    | some (.file _ _), _ => .error .notADirectory
    | some .directory, .here => walk files place rest
    | some .directory, .parent => walk files place.tail rest
    | some .directory, .name name =>
      if 255 < name.utf8ByteSize then .error .nameTooLong else walk files (name :: place) rest

/-- The place of a path, without regard to a final slash. -/
def resolve (files : FileSystem) (path : FilePath) : Except IoFault Place :=
  if path.text.toList.contains '\x00' then .error .nulInName
  else if path.text = "" then .error .notFound
  else if 4096 ≤ path.text.utf8ByteSize then .error .nameTooLong
  else files.walk (if path.isAbsolute then [] else files.working) path.steps

/-- What is at a path. A final slash asks for a directory. -/
def find (files : FileSystem) (path : FilePath) : Except IoFault Entry := do
  match files.entry? (← files.resolve path) with
  | none => throw .notFound
  | some (.file content writable) =>
    if path.endsWithSlash then throw .notADirectory else return .file content writable
  | some .directory => return .directory

def read (files : FileSystem) (path : FilePath) : Except IoFault String := do
  match ← files.find path with
  | .directory => throw .isADirectory
  | .file (.bytes _) _ => throw .invalidText
  | .file (.text text) _ => return text

def set (files : FileSystem) (place : Place) (entry : Option Entry) : FileSystem :=
  { files with entry? := fun other => if other = place then entry else files.entry? other }

def write (files : FileSystem) (path : FilePath) (text : String) :
    Except IoFault FileSystem := do
  let place ← files.resolve path
  if path.endsWithSlash then throw .isADirectory
  match files.entry? place with
  | some .directory => throw .isADirectory
  | some (.file _ false) => throw .permissionDenied
  | some (.file _ true) | none => return files.set place (some (.file (.text text) true))

/-- Nothing but an empty working directory below the root. -/
def blank (directory : String) : FileSystem where
  entry? place := if place = [] || place = [directory] then some .directory else none
  working := [directory]

/-- Puts an entry at a place in exchange for all that was at or below it, and makes the
directories above it. -/
def put (files : FileSystem) (place : Place) (entry : Option Entry) : FileSystem where
  entry? other :=
    if other = place then entry
    else if place.isSuffixOf other then none
    else if other.isSuffixOf place && entry.isSome then some .directory
    else files.entry? other
  working := files.working

end FileSystem

end BindingRegions

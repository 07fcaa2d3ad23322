/-! Paths as they are written, and the steps that they take from directory to
directory. Two spellings are the same target when their parts agree: doubled and
final slashes make no difference, nor does a dot that is not the first part. -/

namespace BindingRegions

structure FilePath where
  text : String
  deriving DecidableEq, Repr

namespace FilePath

inductive Step where
  | here
  | parent
  | name (name : String)
  deriving DecidableEq, Repr

def Step.ofText (text : String) : Step :=
  if text = "." then .here else if text = ".." then .parent else .name text

def splitSlashes : List Char → List (List Char)
  | [] => [[]]
  | c :: rest =>
    if c = '/' then [] :: splitSlashes rest
    else match splitSlashes rest with
      | [] => [[c]]
      | piece :: pieces => (c :: piece) :: pieces

def isAbsolute (path : FilePath) : Bool := path.text.toList.head? == some '/'

def endsWithSlash (path : FilePath) : Bool := path.text.toList.getLast? == some '/'

def steps (path : FilePath) : List Step :=
  ((splitSlashes path.text.toList).filter (· ≠ [])).map fun piece =>
    Step.ofText (String.ofList piece)

/-- The parts that tell paths apart: whether a path is absolute, and its steps, of which
a dot counts only at the front of a relative path. -/
def parts (path : FilePath) : Bool × List Step :=
  match path.isAbsolute, path.steps with
  | false, .here :: rest => (false, .here :: rest.filter (· ≠ .here))
  | absolute, steps => (absolute, steps.filter (· ≠ .here))

/-- Whether two spellings are the same target. -/
def same (path other : FilePath) : Bool := path.parts == other.parts

/-- The last name of a path, if its last part is one. -/
def fileName? (path : FilePath) : Option String :=
  match path.parts.2.getLast? with
  | some (.name name) => some name
  | _ => none

/-- The text behind the last dot of the last name, unless that dot comes first. -/
def extension? (path : FilePath) : Option String := do
  let name ← path.fileName?
  let behind := name.toList.reverse.takeWhile (· ≠ '.')
  if behind.length + 1 < name.length then some (String.ofList behind.reverse) else none

theorem same_refl (path : FilePath) : path.same path = true := by simp [same]

theorem same_comm (path other : FilePath) : path.same other = other.same path := by
  simp only [same]; exact Bool.beq_comm

theorem same_trans {a b c : FilePath} (hab : a.same b = true) (hbc : b.same c = true) :
    a.same c = true := by
  simp only [same, beq_iff_eq] at *; exact hab.trans hbc

end FilePath

end BindingRegions

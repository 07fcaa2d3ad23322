import BindingRegions.Value

/-! The declarations schema: the functions to generate bindings for, in order, each
with its arguments in order. `Schema.ofValue` reads it from a document value; of
several faults it reports the one that comes first in the document. -/

namespace BindingRegions

structure Function where
  name : String
  arguments : List String
  deriving DecidableEq, Repr

structure Schema where
  functions : List Function
  deriving DecidableEq, Repr

inductive NameFault where
  | notAMapping (found : Value.Kind)
  | missing
  | notAScalar (found : Value.Kind)
  deriving DecidableEq, Repr

/-- What is wrong with an entry of the schema. Faults behind its name give the name. -/
inductive EntryFault where
  | unnamed (fault : NameFault)
  | missingArguments (name : String)
  | argumentsNotASequence (name : String) (found : Value.Kind)
  | argument (name : String) (index : Nat) (fault : NameFault)
  deriving DecidableEq, Repr

inductive ShapeFault where
  | notASequence (found : Value.Kind)
  | entry (index : Nat) (fault : EntryFault)
  deriving DecidableEq, Repr

def NameFault.message (location : String) : NameFault → String
  | notAMapping found => location ++ ": expected a mapping, found " ++ found.text
  | missing => location ++ ": missing field \"name\""
  | notAScalar found => location ++ ": \"name\" must be a scalar, found " ++ found.text

def EntryFault.message (location : String) : EntryFault → String
  | unnamed fault => fault.message location
  | missingArguments name => location ++ " (" ++ name ++ "): missing field \"arguments\""
  | argumentsNotASequence name found =>
    location ++ " (" ++ name ++ "): \"arguments\" must be a sequence, found " ++ found.text
  | argument name index fault =>
    fault.message (location ++ " (" ++ name ++ "), argument " ++ Decimal.digitsText index)

def ShapeFault.message : ShapeFault → String
  | notASequence found => "expected a sequence of functions, found " ++ found.text
  | entry index fault => fault.message ("entry " ++ Decimal.digitsText index)

/-- The name of a mapping: the text of its scalar field `name`. -/
def nameOf : Value → Except NameFault String
  | .mapping fields =>
    match Value.lookup "name" fields with
    | none => .error .missing
    | some value => value.scalarText?.elim (.error (.notAScalar value.kind)) .ok
  | value => .error (.notAMapping value.kind)

/-- Reads every item of a list, up to the first fault, which is told together with the
item's index. -/
def readIndexed {α β ε : Type} (read : α → Except ε β) : Nat → List α → Except (Nat × ε) (List β)
  | _, [] => .ok []
  | index, item :: rest =>
    match read item with
    | .error fault => .error (index, fault)
    | .ok result =>
      match readIndexed read (index + 1) rest with
      | .error fault => .error fault
      | .ok results => .ok (result :: results)

namespace Function

def argumentsOf (name : String) : Value → Except EntryFault (List String)
  | .mapping fields =>
    match Value.lookup "arguments" fields with
    | none => .error (.missingArguments name)
    | some (.sequence items) =>
      (readIndexed nameOf 0 items).mapError fun (index, fault) => .argument name index fault
    | some value => .error (.argumentsNotASequence name value.kind)
  | _ => .error (.missingArguments name)

/-- A function is a mapping with a name and a sequence of arguments, which are mappings
with a name. -/
def ofValue (entry : Value) : Except EntryFault Function := do
  let name ← (nameOf entry).mapError .unnamed
  return ⟨name, ← argumentsOf name entry⟩

end Function

/-- A schema is null or a sequence of functions. -/
def Schema.ofValue : Value → Except ShapeFault Schema
  | .null => .ok ⟨[]⟩
  | .sequence entries =>
    match readIndexed Function.ofValue 0 entries with
    | .error (index, fault) => .error (.entry index fault)
    | .ok functions => .ok ⟨functions⟩
  | value => .error (.notASequence value.kind)

end BindingRegions

import BindingRegions.Text.Character
import BindingRegions.Yaml.Cursor
import BindingRegions.Yaml.SyntaxFault

/-! Tags: a handle that a directive may define, and a suffix in URI characters.
Escaped octets may spell any UTF-8 shaped sequence, and a NUL ends the part it
stands in. -/

namespace BindingRegions.Yaml

/-- A resolved tag. Its octets need not be text. -/
inductive Tag where
  | named (name : String)
  | unreadable
  deriving DecidableEq, Repr

def Tag.ofOctets (octets : List UInt8) : Tag :=
  match String.fromUTF8? ⟨octets.toArray⟩ with
  | some name => .named name
  | none => .unreadable

def octetsOf (chars : List Char) : List UInt8 :=
  (String.ofList chars).toUTF8.toList

/-- How many octets a UTF-8 sequence with this first octet has. -/
def sequenceLength? (octet : Nat) : Option Nat :=
  if octet < 0x80 then some 1
  else if octet / 0x20 = 0x6 then some 2
  else if octet / 0x10 = 0xE then some 3
  else if octet / 0x8 = 0x1E then some 4
  else none

/-- The escaped octets that go on a sequence, as many as given. -/
def escapedTail : Nat → List Char → Except SyntaxFault (List UInt8 × List Char)
  | 0, text => .ok ([], text)
  | n + 1, '%' :: a :: b :: rest => do
    let some octet := Text.hexNumber? [a, b] | throw .badTag
    if octet / 0x40 != 0x2 then throw .badTag
    let (tail, rest) ← escapedTail n rest
    return (octet.toUInt8 :: tail, rest)
  | _, _ => .error .badTag

/-- The octets of a URI at the front of a text, and the text behind it. Brackets and
commas belong to it only if `wide`. -/
def uri (wide : Bool) : Nat → List Char → Except SyntaxFault (List UInt8 × List Char)
  | 0, text => .ok ([], text)
  | fuel + 1, text =>
    match text with
    | '%' :: a :: b :: rest => do
      let some octet := Text.hexNumber? [a, b] | throw .badTag
      let some length := sequenceLength? octet | throw .badTag
      let (tail, rest) ← escapedTail (length - 1) rest
      let (more, rest) ← uri wide fuel rest
      return (octet.toUInt8 :: tail ++ more, rest)
    | '%' :: _ => .error .badTag
    | c :: rest =>
      if isUriChar c || (wide && ",[]".contains c) then do
        let (more, rest) ← uri wide fuel rest
        return (octetsOf [c] ++ more, rest)
      else .ok ([], text)
    | [] => .ok ([], text)

/-- The URI from a place on, up to a NUL in it, and the place behind it. -/
def takeUri (wide : Bool) (here : Cursor) : Except SyntaxFault (List UInt8 × Cursor) := do
  let (octets, rest) ← uri wide here.size here.rest
  return (octets.takeWhile (· != 0), here.skip (here.rest.length - rest.length))

/-- A tag as written: its handle, which is empty for a full tag, and its suffix. -/
structure WrittenTag where
  handle : String
  suffix : List UInt8
  deriving DecidableEq, Repr

/-- The handle at a place that has a `!`: up to a second `!` if only name characters
stand between them. -/
def takeHandle (here : Cursor) : List Char × Cursor :=
  let (name, after) := (here.skip 1).takeWhile isNameChar
  if after.peek = some '!' then ('!' :: name ++ ['!'], after.skip 1) else ('!' :: name, after)

/-- The tag at a place that has a `!`. Without a second `!`, the name characters
belong to the suffix. -/
def takeTag (inFlow : Bool) (here : Cursor) : Except SyntaxFault (WrittenTag × Cursor) := do
  let (tag, after) ← (do
    if here.ahead 1 = some '<' then
      let (octets, after) ← takeUri true (here.skip 2)
      if after.index = here.index + 2 || after.peek ≠ some '>' then throw .badTag
      return ((⟨"", octets⟩ : WrittenTag), after.skip 1)
    else
      let (handle, afterHandle) := takeHandle here
      let (octets, after) ← takeUri false afterHandle
      if handle.length > 1 && handle.getLast? = some '!' then
        if after.index = afterHandle.index then throw .badTag
        return (⟨String.ofList handle, octets⟩, after)
      else
        let suffix := octetsOf (handle.drop 1) ++ octets
        return (if suffix = [] then ⟨"", octetsOf ['!']⟩ else ⟨"!", suffix⟩, after))
  if endsWord after.peek || (inFlow && after.peek = some ',') then return (tag, after)
  throw .badTag

end BindingRegions.Yaml

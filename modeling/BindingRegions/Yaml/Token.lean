import BindingRegions.Yaml.Tag

/-! The tokens of a YAML text, in which indentation has become explicit, and those of the
directive lines: the version of the language, and the handles of tags. -/

namespace BindingRegions.Yaml

inductive Token where
  | version (major minor : Nat)
  | tagHandle (handle : String) (uri : List UInt8)
  | documentStart
  | documentEnd
  | blockSequenceStart
  | blockMappingStart
  | blockEnd
  | flowSequenceStart
  | flowSequenceEnd
  | flowMappingStart
  | flowMappingEnd
  | entry
  | comma
  | key
  | value
  | alias (name : String)
  | anchor (name : String)
  | tag (tag : WrittenTag)
  | scalar (plain : Bool) (text : String)
  deriving DecidableEq, Repr

/-! ### Directives -/

namespace Directive

/-- A number of at most nine digits. -/
def number (here : Cursor) : Except SyntaxFault (Nat × Cursor) :=
  let (digits, after) := here.takeWhile Char.isDigit
  if digits = [] || 9 < digits.length then .error .badDirective
  else .ok (digits.foldl (fun n c => 10 * n + (c.toNat - '0'.toNat)) 0, after)

def version (here : Cursor) : Except SyntaxFault (Token × Cursor) := do
  let (major, here) ← number here
  if here.peek ≠ some '.' then throw .badDirective
  let (minor, here) ← number (here.skip 1)
  return (.version major minor, here)

def tagHandle (here : Cursor) : Except SyntaxFault (Token × Cursor) := do
  if here.peek ≠ some '!' then throw .badDirective
  let (handle, here) := takeHandle here
  if handle ≠ ['!'] && (handle.length = 1 || handle.getLast? ≠ some '!') then throw .badDirective
  let start := here.skipWhile isBlank
  if start.index = here.index then throw .badDirective
  let (octets, after) ← takeUri true start
  if after.index = start.index || !endsWord after.peek then throw .badDirective
  return (.tagHandle (String.ofList handle) octets, after)

/-- The directive at a place that has a percent sign, up to its line's end. -/
def read (here : Cursor) : Except SyntaxFault (Token × Cursor) := do
  let (name, here) := (here.skip 1).takeWhile isNameChar
  if name = [] || !endsWord here.peek then throw .badDirective
  let here := here.skipWhile isBlank
  let (token, here) ←
    if name = ['Y', 'A', 'M', 'L'] then version here
    else if name = ['T', 'A', 'G'] then tagHandle here
    else throw .badDirective
  let here := here.skipWhile isBlank
  let here := if here.peek = some '#' then here.toLineEnd else here
  match here.lineBreak? with
  | some (_, after) => return (token, after)
  | none => if here.rest.isEmpty then return (token, here) else throw .badDirective

end Directive

end BindingRegions.Yaml

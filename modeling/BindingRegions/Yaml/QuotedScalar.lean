import BindingRegions.Text.Character
import BindingRegions.Yaml.Folding

/-! Quoted scalars. Between single quotes a quote is written twice; between double
quotes there are escapes, and an escaped line break joins two lines. -/

namespace BindingRegions.Yaml

namespace QuotedScalar

def escaped? : Char → Option Char
  | '0' => some '\x00'
  | 'a' => some '\x07'
  | 'b' => some '\x08'
  | 't' => some '\t'
  | '\t' => some '\t'
  | 'n' => some '\n'
  | 'v' => some '\x0b'
  | 'f' => some '\x0c'
  | 'r' => some '\r'
  | 'e' => some '\x1b'
  | ' ' => some ' '
  | '"' => some '"'
  | '/' => some '/'
  | '\\' => some '\\'
  | 'N' => some '\u0085'
  | '_' => some '\u00a0'
  | 'L' => some '\u2028'
  | 'P' => some '\u2029'
  | _ => none

def escapeLength? : Char → Option Nat
  | 'x' => some 2
  | 'u' => some 4
  | 'U' => some 8
  | _ => none

def numbered? (digits : List Char) : Option Char := do
  let n ← Text.hexNumber? digits
  if n.isValidChar then some (Char.ofNat n) else none

/-- One word: its characters, whether an escaped line break ended it, and the place
behind it. -/
def word (single : Bool) :
    Nat → Cursor → Except SyntaxFault (List Char × Bool × Cursor)
  | 0, here => .ok ([], false, here)
  | fuel + 1, here => do
    let more (c : Char) (after : Cursor) : Except SyntaxFault (List Char × Bool × Cursor) := do
      let (tail, joined, after) ← word single fuel after
      return (c :: tail, joined, after)
    match here.rest with
    | [] => return ([], false, here)
    | c :: rest =>
      if endsWord (some c) then return ([], false, here)
      if single then
        if c = '\'' then
          if rest.head? = some '\'' then more c (here.skip 2) else return ([], false, here)
        else more c (here.skip 1)
      else if c = '"' then return ([], false, here)
      else if c = '\\' then
        if let some (_, after) := (here.skip 1).lineBreak? then return ([], true, after)
        let some e := rest.head? | throw .badEscape
        match escaped? e, escapeLength? e with
        | some shown, _ => more shown (here.skip 2)
        | none, some n =>
          let digits := (rest.drop 1).take n
          if digits.length ≠ n then throw .badEscape
          let some shown := numbered? digits | throw .badEscape
          more shown (here.skip (2 + n))
        | none, none => throw .badEscape
      else more c (here.skip 1)

def words (single : Bool) :
    Nat → List Char → Cursor → Except SyntaxFault (List Char × Cursor)
  | 0, _, _ => .error .unclosedScalar
  | fuel + 1, text, here => do
    if here.atDocumentMark || here.rest.isEmpty then throw .unclosedScalar
    let (next, joined, here) ← word single (here.size + 1) here
    let text := text ++ next
    if here.peek = some (if single then '\'' else '"') then return (text, here.skip 1)
    let (gap, here) ← Gap.read 0 (here.size + 1) { crossed := joined } here
    words single fuel (text ++ gap.fold) here

/-- The quoted scalar at a place, which has the opening quote. -/
def read (single : Bool) (here : Cursor) : Except SyntaxFault (String × Cursor) := do
  let (text, after) ← words single (here.size + 1) [] (here.skip 1)
  return (String.ofList text, after)

end QuotedScalar

end BindingRegions.Yaml

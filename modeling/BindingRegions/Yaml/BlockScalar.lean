import BindingRegions.Yaml.Cursor
import BindingRegions.Yaml.SyntaxFault

/-! Block scalars: indented lines under a header. Literal ones keep their line breaks,
folded ones join lines that do not start with a blank. -/

namespace BindingRegions.Yaml

/-- What becomes of the line breaks at a block scalar's end. -/
inductive Chomping where
  | strip | clip | keep
  deriving DecidableEq, Repr

namespace BlockScalar

structure Header where
  chomping : Chomping := .clip
  increment : Option Nat := none

def chomping? : Option Char → Option Chomping
  | some '-' => some .strip
  | some '+' => some .keep
  | _ => none

def increment? : Option Char → Option Nat
  | some c => if c.isDigit then some (c.toNat - '0'.toNat) else none
  | none => none

/-- The header's two indicators, in either order. -/
def indicators (here : Cursor) : Header × Cursor :=
  match chomping? here.peek, increment? here.peek with
  | some chomping, _ =>
    match increment? (here.ahead 1) with
    | some n => (⟨chomping, some n⟩, here.skip 2)
    | none => (⟨chomping, none⟩, here.skip 1)
  | none, some n =>
    match chomping? (here.ahead 1) with
    | some chomping => (⟨chomping, some n⟩, here.skip 2)
    | none => (⟨.clip, some n⟩, here.skip 1)
  | none, none => ({}, here)

/-- The header line, from behind its style indicator, and the place behind it. -/
def header (here : Cursor) : Except SyntaxFault (Header × Cursor) := do
  let (header, here) := indicators here
  if header.increment = some 0 then throw .badBlockHeader
  let here := here.skipWhile isBlank
  let here := if here.peek = some '#' then here.toLineEnd else here
  match here.lineBreak? with
  | some (_, after) => return (header, after)
  | none => if here.rest.isEmpty then return (header, here) else throw .badBlockHeader

/-- Skips indentation and empty lines; without a known indentation, spaces as far as
they go. The result has the greatest column reached and the breaks passed. -/
def skipEmpty (indent : Option Nat) :
    Nat → Nat → List Char → Cursor → Except SyntaxFault (Nat × List Char × Cursor)
  | 0, widest, breaks, here => .ok (widest, breaks, here)
  | fuel + 1, widest, breaks, here => do
    let spaces := (here.rest.takeWhile (· = ' ')).length
    let here := here.skip (match indent with
      | some n => min spaces (n - here.column)
      | none => spaces)
    let widest := max widest here.column
    if here.peek = some '\t' && indent.all (here.column < ·) then throw .strayTab
    match here.lineBreak? with
    | some (newline, after) => skipEmpty indent fuel widest (breaks ++ [newline]) after
    | none => return (widest, breaks, here)

/-- The text so far, and what stands behind its last line. -/
structure Lines where
  text : List Char
  /-- The break after the last line. -/
  leading : Option Char
  /-- The breaks of the empty lines after it. -/
  trailing : List Char
  /-- Whether the last line started with a blank. -/
  indented : Bool

def Lines.joint (lines : Lines) (folded nextIndented : Bool) : List Char :=
  if folded && lines.leading = some '\n' && !lines.indented && !nextIndented then
    if lines.trailing = [] then [' '] else lines.trailing
  else lines.leading.toList ++ lines.trailing

def readLines (folded : Bool) (indent : Nat) :
    Nat → Lines → Cursor → Except SyntaxFault (Lines × Cursor)
  | 0, lines, here => .ok (lines, here)
  | fuel + 1, lines, here => do
    if here.column ≠ indent then return (lines, here)
    let some first := here.peek | return (lines, here)
    let indented := isBlank first
    let (line, here) := here.takeWhile fun c => !isBreak c
    let (leading, here) := match here.lineBreak? with
      | some (newline, after) => (some newline, after)
      | none => (none, here)
    let (_, trailing, here) ← skipEmpty (some indent) (here.size + 1) 0 [] here
    let text := lines.text ++ lines.joint folded indented ++ line
    readLines folded indent fuel ⟨text, leading, trailing, indented⟩ here

/-- The block scalar at a place, which has the style indicator. The enclosing block's
column is given, or -1. -/
def read (folded : Bool) (enclosing : Int) (here : Cursor) :
    Except SyntaxFault (String × Cursor) := do
  let (header, here) ← header (here.skip 1)
  let known := header.increment.map fun n => (max enclosing 0).toNat + n
  let (widest, breaks, here) ← skipEmpty known (here.size + 1) 0 [] here
  let indent := known.getD (max (max widest (enclosing + 1).toNat) 1)
  let (lines, here) ←
    readLines folded indent (here.size + 1) ⟨[], none, breaks, false⟩ here
  let text := match header.chomping with
    | .strip => lines.text
    | .clip => lines.text ++ lines.leading.toList
    | .keep => lines.text ++ lines.leading.toList ++ lines.trailing
  return (String.ofList text, here)

end BlockScalar

end BindingRegions.Yaml

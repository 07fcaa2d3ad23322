import BindingRegions.Yaml.Cursor
import BindingRegions.Yaml.SyntaxFault

/-! The gaps between the words of a scalar that runs over several lines. -/

namespace BindingRegions.Yaml

/-- Blanks and line breaks between two words: the blanks before the first break, that
break, the breaks after it, and whether a break was passed. -/
structure Gap where
  blanks : List Char := []
  leading : Option Char := none
  trailing : List Char := []
  crossed : Bool := false

namespace Gap

/-- What a gap leaves in the scalar. Within a line its blanks stay; a single newline
becomes a space, and of several the first is dropped. -/
def fold (gap : Gap) : List Char :=
  if gap.crossed then
    if gap.leading = some '\n' then
      if gap.trailing = [] then [' '] else gap.trailing
    else gap.leading.toList ++ gap.trailing
  else gap.blanks

/-- Reads on through blanks and breaks. On later lines no tab may stand left of the
given column. -/
def read (column : Nat) : Nat → Gap → Cursor → Except SyntaxFault (Gap × Cursor)
  | 0, gap, here => .ok (gap, here)
  | fuel + 1, gap, here =>
    match here.lineBreak?, here.peek with
    | some (newline, after), _ =>
      if gap.crossed then read column fuel { gap with trailing := gap.trailing ++ [newline] } after
      else read column fuel { leading := some newline, crossed := true } after
    | none, some c =>
      if isBlank c then
        if !gap.crossed then read column fuel { gap with blanks := gap.blanks ++ [c] } (here.skip 1)
        else if c = '\t' && here.column < column then .error .strayTab
        else read column fuel gap (here.skip 1)
      else .ok (gap, here)
    | none, none => .ok (gap, here)

end Gap

end BindingRegions.Yaml

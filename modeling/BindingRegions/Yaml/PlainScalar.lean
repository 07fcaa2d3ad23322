import BindingRegions.Yaml.Folding

/-! Plain scalars: words without quotes, ended by an indicator, a comment, or, in
block context, a line that is not indented enough. -/

namespace BindingRegions.Yaml

namespace PlainScalar

/-- The characters of one word, from a place where it may start. -/
def word (inFlow : Bool) : List Char → Except SyntaxFault (List Char)
  | [] => .ok []
  | c :: rest => do
    if endsWord (some c) then return []
    let followedBy (p : Char → Bool) := (rest.head?.map p).getD false
    if inFlow && c = ':' && followedBy fun d => isFlowIndicator d || d = '?' then
      throw .colonInFlow
    if (c = ':' && endsWord rest.head?) || (inFlow && isFlowIndicator c) then return []
    return c :: (← word inFlow rest)

/-- Reads on word by word. The result tells whether the scalar was left on a new
line. -/
def words (inFlow : Bool) (indent : Nat) :
    Nat → List Char → Gap → Cursor → Except SyntaxFault (List Char × Bool × Cursor)
  | 0, text, gap, here => .ok (text, gap.crossed, here)
  | fuel + 1, text, gap, here => do
    if here.atDocumentMark || here.peek = some '#' then return (text, gap.crossed, here)
    let next ← word inFlow here.rest
    if next = [] then return (text, gap.crossed, here)
    let text := text ++ gap.fold ++ next
    let here := here.skip next.length
    let (gap, after) ← Gap.read indent (here.size + 1) {} here
    if after.index = here.index || (!inFlow && after.column < indent) then
      return (text, gap.crossed, after)
    words inFlow indent fuel text gap after

/-- The plain scalar at a place, whose lines in block context reach at least the given
column. -/
def read (inFlow : Bool) (indent : Nat) (here : Cursor) :
    Except SyntaxFault (String × Bool × Cursor) := do
  let (text, crossed, after) ← words inFlow indent (here.size + 1) [] {} here
  return (String.ofList text, crossed, after)

end PlainScalar

end BindingRegions.Yaml

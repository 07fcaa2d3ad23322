import BindingRegions.Yaml.BlockScalar
import BindingRegions.Yaml.Token
import BindingRegions.Yaml.PlainScalar
import BindingRegions.Yaml.QuotedScalar

/-! Reading a text into tokens. Indentation opens and closes blocks. A node that turns
out to be a key only when its colon is met gets its key token then, at the place
where it started; it must lie on one line and within 1024 characters. -/

namespace BindingRegions.Yaml

/-- A node that may turn out to be a key: the number of tokens in front of it, its
place, and whether the block has room for nothing but a key there. -/
structure PendingKey where
  number : Nat
  index : Nat
  line : Nat
  column : Nat
  required : Bool

structure Layout where
  here : Cursor
  /-- The column of the innermost block, or -1, and those of the blocks around it. -/
  indent : Int := -1
  outerIndents : List Int := []
  /-- The pending key of the innermost flow collection or block, and of those around. -/
  pending : Option PendingKey := none
  outerPending : List (Option PendingKey) := []
  /-- Whether a key may start here. -/
  keyAllowed : Bool := true
  /-- The tokens so far, last first. -/
  tokens : List Token := []
  count : Nat := 0

namespace Layout

def inFlow (s : Layout) : Bool := !s.outerPending.isEmpty

def emit (s : Layout) (token : Token) : Layout :=
  { s with tokens := token :: s.tokens, count := s.count + 1 }

/-- Inserts tokens behind the given number of tokens. -/
def emitAt (s : Layout) (number : Nat) (tokens : List Token) : Layout :=
  let later := s.count - number
  { s with
    tokens := s.tokens.take later ++ tokens.reverse ++ s.tokens.drop later
    count := s.count + tokens.length }

def move (s : Layout) (n : Nat) : Layout := { s with here := s.here.skip n }

def allowKey (s : Layout) (allowed : Bool) : Layout := { s with keyAllowed := allowed }

/-- Gives up the pending key, which must not be a required one. -/
def dropPending (s : Layout) : Except SyntaxFault Layout :=
  if s.pending.any (·.required) then .error .missingColon
  else .ok { s with pending := none }

def notePending (s : Layout) : Except SyntaxFault Layout :=
  if s.keyAllowed then do
    let s' ← s.dropPending
    let key : PendingKey :=
      { number := s.count, index := s.here.index, line := s.here.line, column := s.here.column,
        required := !s.inFlow && s.indent == s.here.column }
    return { s' with pending := some key }
  else .ok s

/-- Gives up a pending key that is on an earlier line or too far back. -/
def freshPending (here : Cursor) (key : Option PendingKey) :
    Except SyntaxFault (Option PendingKey) :=
  match key with
  | none => .ok none
  | some k =>
    if k.line < here.line || k.index + 1024 < here.index then
      if k.required then .error .missingColon else .ok none
    else .ok key

def dropStale (s : Layout) : Except SyntaxFault Layout := do
  let pending ← freshPending s.here s.pending
  let outerPending ← s.outerPending.mapM (freshPending s.here)
  return { s with pending, outerPending }

/-- Opens a block at a column right of the innermost one. -/
def openBlock (s : Layout) (column : Nat) : Layout × Bool :=
  if !s.inFlow && s.indent < column then
    ({ s with indent := column, outerIndents := s.indent :: s.outerIndents }, true)
  else (s, false)

def closeBlocks (s : Layout) (column : Int) : Layout :=
  if s.inFlow then s else go s.outerIndents s
where
  go : List Int → Layout → Layout
    | [], s => s
    | outer :: rest, s =>
      if column < s.indent then
        go rest { s.emit .blockEnd with indent := outer, outerIndents := rest }
      else s

/-- Skips blanks, comments and line breaks. In block context a new line allows a key;
before that, tabs do not count as blanks. -/
def skipToToken : Nat → Layout → Layout
  | 0, s => s
  | fuel + 1, s =>
    let here := if s.here.index = 0 && s.here.peek = some '\ufeff' then s.here.skip 1 else s.here
    let here := here.skipWhile fun c => c = ' ' || (c = '\t' && (s.inFlow || !s.keyAllowed))
    let here := if here.peek = some '#' then here.toLineEnd else here
    match here.lineBreak? with
    | some (_, after) =>
      skipToToken fuel { s with here := after, keyAllowed := s.keyAllowed || !s.inFlow }
    | none => { s with here }

/-- Starts the block that an indicator at the place belongs to. -/
def indicate (s : Layout) (start : Token) (fault : SyntaxFault) : Except SyntaxFault Layout := do
  if s.inFlow then return s
  if !s.keyAllowed then throw fault
  let (s, opened) := s.openBlock s.here.column
  return if opened then s.emit start else s

/-- The end of the text, a directive or a document mark: all blocks end. -/
def endBlocks (s : Layout) : Except SyntaxFault Layout := do
  return (← (s.closeBlocks (-1)).dropPending).allowKey false

def readDirective (s : Layout) : Except SyntaxFault Layout := do
  let s ← s.endBlocks
  let (token, here) ← Directive.read s.here
  return { s with here }.emit token

def readMark (s : Layout) (token : Token) : Except SyntaxFault Layout := do
  return ((← s.endBlocks).emit token).move 3

def openFlow (s : Layout) (token : Token) : Except SyntaxFault Layout := do
  let s ← s.notePending
  let s := { s with pending := none, outerPending := s.pending :: s.outerPending }
  return ((s.allowKey true).emit token).move 1

def closeFlow (s : Layout) (token : Token) : Except SyntaxFault Layout := do
  let s ← s.dropPending
  let s := match s.outerPending with
    | [] => s
    | pending :: outerPending => { s with pending, outerPending }
  return ((s.allowKey false).emit token).move 1

def readComma (s : Layout) : Except SyntaxFault Layout := do
  return (((← s.dropPending).allowKey true).emit .comma).move 1

def readEntry (s : Layout) : Except SyntaxFault Layout := do
  let s ← s.indicate .blockSequenceStart .misplacedEntry
  return (((← s.dropPending).allowKey true).emit .entry).move 1

def readKey (s : Layout) : Except SyntaxFault Layout := do
  let s ← s.indicate .blockMappingStart .misplacedKey
  return (((← s.dropPending).allowKey !s.inFlow).emit .key).move 1

/-- A colon makes the pending node a key, if there is one; its mapping starts where
the key does. -/
def readValue (s : Layout) : Except SyntaxFault Layout := do
  match s.pending with
  | some key =>
    let (s, opened) := { s with pending := none }.openBlock key.column
    let s := s.emitAt key.number (if opened then [.blockMappingStart, .key] else [.key])
    return ((s.allowKey false).emit .value).move 1
  | none =>
    let s ← s.indicate .blockMappingStart .misplacedValue
    return ((s.allowKey !s.inFlow).emit .value).move 1

def readAnchor (s : Layout) (token : String → Token) : Except SyntaxFault Layout := do
  let s := (← s.notePending).allowKey false
  let (name, here) := (s.here.skip 1).takeWhile isNameChar
  if name = [] || !(endsWord here.peek || here.peek.any fun c => "?:,]\x7d%@\x60".contains c) then
    throw .badAnchor
  return { s with here }.emit (token (String.ofList name))

def readTag (s : Layout) : Except SyntaxFault Layout := do
  let s := (← s.notePending).allowKey false
  let (tag, here) ← takeTag s.inFlow s.here
  return { s with here }.emit (.tag tag)

def readBlockScalar (s : Layout) (folded : Bool) : Except SyntaxFault Layout := do
  let s := (← s.dropPending).allowKey true
  let (text, here) ← BlockScalar.read folded s.indent s.here
  return { s with here }.emit (.scalar false text)

def readQuotedScalar (s : Layout) (single : Bool) : Except SyntaxFault Layout := do
  let s := (← s.notePending).allowKey false
  let (text, here) ← QuotedScalar.read single s.here
  return { s with here }.emit (.scalar false text)

def readPlainScalar (s : Layout) : Except SyntaxFault Layout := do
  let s := (← s.notePending).allowKey false
  let (text, crossed, here) ← PlainScalar.read s.inFlow (s.indent + 1).toNat s.here
  return ({ s with here }.allowKey crossed).emit (.scalar true text)

def readToken (s : Layout) (c : Char) : Except SyntaxFault Layout := do
  let next := s.here.ahead 1
  let wordEnds := endsWord next
  if s.here.column = 0 && c = '%' then s.readDirective
  else if s.here.atMark ['-', '-', '-'] then s.readMark .documentStart
  else if s.here.atMark ['.', '.', '.'] then s.readMark .documentEnd
  else match c with
    | '[' => s.openFlow .flowSequenceStart
    | '\x7b' => s.openFlow .flowMappingStart
    | ']' => s.closeFlow .flowSequenceEnd
    | '\x7d' => s.closeFlow .flowMappingEnd
    | ',' => s.readComma
    | '*' => s.readAnchor .alias
    | '&' => s.readAnchor .anchor
    | '!' => s.readTag
    | '\'' => s.readQuotedScalar true
    | '"' => s.readQuotedScalar false
    | _ =>
      if c = '-' && wordEnds then s.readEntry
      else if c = '?' && (s.inFlow || wordEnds) then s.readKey
      else if c = ':' && (s.inFlow || wordEnds) then s.readValue
      else if c = '|' && !s.inFlow then s.readBlockScalar false
      else if c = '>' && !s.inFlow then s.readBlockScalar true
      else if (!isIndicator c && !isBlank c) || c = '-' || (!s.inFlow && (c = '?' || c = ':')) then
        s.readPlainScalar
      else throw (.strayCharacter c)

def readAll : Nat → Layout → Except SyntaxFault Layout
  | 0, s => .ok s
  | fuel + 1, s => do
    let s := skipToToken (s.here.size + 1) s
    let s := (← s.dropStale).closeBlocks s.here.column
    match s.here.peek with
    | none => s.endBlocks
    | some c => readAll fuel (← s.readToken c)

end Layout

def Token.ofText (text : String) : Except SyntaxFault (List Token) := do
  if let some c := text.toList.find? fun c => !isAllowed c then throw (.forbiddenCharacter c)
  let s ← Layout.readAll (text.length + 1) { here := .ofText text }
  return s.tokens.reverse

end BindingRegions.Yaml

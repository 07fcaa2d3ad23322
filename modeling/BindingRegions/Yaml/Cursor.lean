/-! The character classes of YAML texts, and places in such a text: the text from there
on, and the place's index, line and column, counted in characters from zero. The size of
the whole text bounds every reading that moves on at each step. -/

namespace BindingRegions.Yaml

def isAllowed (c : Char) : Bool :=
  let n := c.toNat
  n == 0x09 || n == 0x0A || n == 0x0D || (0x20 ≤ n && n ≤ 0x7E) || n == 0x85
    || (0xA0 ≤ n && n ≤ 0xD7FF) || (0xE000 ≤ n && n != 0xFFFE && n != 0xFFFF)

def isBlank (c : Char) : Bool := c = ' ' || c = '\t'

def isBreak (c : Char) : Bool :=
  c = '\n' || c = '\r' || c = '\u0085' || c = '\u2028' || c = '\u2029'

/-- Whether a word ends in front of the given character: at a blank, a line's end or
the text's end. -/
def endsWord : Option Char → Bool
  | none => true
  | some c => isBlank c || isBreak c

/-- Characters of anchors, tag handles and directive names. -/
def isNameChar (c : Char) : Bool := c.isAlphanum || c = '_' || c = '-'

def isUriChar (c : Char) : Bool := isNameChar c || ";/?:@&=+$.!~*'()%".contains c

/-- Characters that enclose or part the items of a flow collection. -/
def isFlowIndicator (c : Char) : Bool := ",[]\x7b\x7d".contains c

/-- Characters that cannot start a plain scalar by themselves. -/
def isIndicator (c : Char) : Bool := "-?:,[]\x7b\x7d#&*!|>'\"%@\x60".contains c

/-! ### Places -/

structure Cursor where
  rest : List Char
  index : Nat
  line : Nat
  column : Nat
  /-- The length of the whole text. -/
  size : Nat

namespace Cursor

def ofText (text : String) : Cursor := ⟨text.toList, 0, 0, 0, text.length⟩

def peek (here : Cursor) : Option Char := here.rest.head?

def ahead (here : Cursor) (n : Nat) : Option Char := here.rest[n]?

def skip (here : Cursor) (n : Nat) : Cursor :=
  { here with rest := here.rest.drop n, index := here.index + n, column := here.column + n }

def takeWhile (here : Cursor) (p : Char → Bool) : List Char × Cursor :=
  let taken := here.rest.takeWhile p
  (taken, here.skip taken.length)

def skipWhile (here : Cursor) (p : Char → Bool) : Cursor := (here.takeWhile p).2

/-- The start of the next line, behind a break of the given length. -/
def newLine (here : Cursor) (rest : List Char) (length : Nat) : Cursor :=
  { here with rest, index := here.index + length, line := here.line + 1, column := 0 }

/-- The line break at the place, and the next line's start. All breaks but the two
Unicode separators count as newlines. -/
def lineBreak? (here : Cursor) : Option (Char × Cursor) :=
  match here.rest with
  | '\r' :: '\n' :: rest => some ('\n', here.newLine rest 2)
  | c :: rest =>
    if isBreak c then
      let shown := if c = '\u2028' || c = '\u2029' then c else '\n'
      some (shown, here.newLine rest 1)
    else none
  | [] => none

/-- Whether a line starts at the place with the given three characters as a word. -/
def atMark (here : Cursor) (mark : List Char) : Bool :=
  here.column == 0 && mark.isPrefixOf here.rest && endsWord (here.ahead 3)

/-- Whether a line that starts or ends a document starts at the place. -/
def atDocumentMark (here : Cursor) : Bool :=
  here.atMark ['-', '-', '-'] || here.atMark ['.', '.', '.']

def toLineEnd (here : Cursor) : Cursor := here.skipWhile fun c => !isBreak c

end Cursor

end BindingRegions.Yaml

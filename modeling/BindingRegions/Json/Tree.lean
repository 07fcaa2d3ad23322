import BindingRegions.Json.Number
import BindingRegions.Text.Character

/-! The tree of a JSON text. Reading goes as far as the text follows the grammar:
where it stops following it, the tree has a broken node, and every sequence and
mapping around that node is left open. So a reader of the tree meets the values
in the order in which the text gives them, and the fault after all values in
front of it. A text has a value when its tree is whole, with sequences and mappings
nested at most 127 deep. -/

namespace BindingRegions.Json

/-- A node of the tree. A string is missing where its escapes name no text, and a
number where it is too large; both are faults only for a reader that wants the
value. Of what may stand in a key's place only strings are keys. -/
inductive Tree where
  | null
  | bool (value : Bool)
  | number (value : Option Number)
  | string (value : Option String)
  | sequence (items : List Tree) (closed : Bool)
  | mapping (fields : List (Tree × Tree)) (closed : Bool)
  | broken

/-- A text as read: its tree, and whether nothing but blanks follows it. -/
structure Document where
  root : Tree
  ended : Bool

/-- A part of a string: a character, or the number of an escape, which may be half
of one. -/
inductive Piece where
  | char (c : Char)
  | unit (n : Nat)

def escaped? : Char → Option Char
  | '"' => some '"'
  | '\\' => some '\\'
  | '/' => some '/'
  | 'b' => some '\x08'
  | 'f' => some '\x0c'
  | 'n' => some '\n'
  | 'r' => some '\r'
  | 't' => some '\t'
  | _ => none

/-- The pieces of a string up to its closing quote, and the text behind it. -/
def pieces : List Char → Option (List Piece × List Char)
  | [] => none
  | '"' :: rest => some ([], rest)
  | '\\' :: 'u' :: a :: b :: c :: d :: rest => do
    let n ← Text.hexNumber? [a, b, c, d]
    let (tail, rest) ← pieces rest
    return (.unit n :: tail, rest)
  | '\\' :: e :: rest => do
    let c ← escaped? e
    let (tail, rest) ← pieces rest
    return (.char c :: tail, rest)
  | c :: rest => do
    if c.toNat < 0x20 || c = '\\' then none
    let (tail, rest) ← pieces rest
    return (.char c :: tail, rest)

def isHighHalf (n : Nat) : Bool := 0xD800 ≤ n && n < 0xDC00

def isLowHalf (n : Nat) : Bool := 0xDC00 ≤ n && n < 0xE000

/-- The characters of a string. A high half needs a low half behind it, and the
other way round. -/
def assemble : List Piece → Option (List Char)
  | [] => some []
  | .char c :: rest => (assemble rest).map (c :: ·)
  | .unit n :: .unit m :: rest =>
    if isHighHalf n && isLowHalf m then
      (assemble rest).map (Char.ofNat (0x10000 + (n - 0xD800) * 0x400 + (m - 0xDC00)) :: ·)
    else if isHighHalf n || isLowHalf n then none
    else (assemble (.unit m :: rest)).map (Char.ofNat n :: ·)
  | .unit n :: rest =>
    if isHighHalf n || isLowHalf n then none
    else (assemble rest).map (Char.ofNat n :: ·)

def isSpace (c : Char) : Bool := c = ' ' || c = '\t' || c = '\n' || c = '\r'

def afterWord (word : String) (text : List Char) : Option (List Char) :=
  if word.toList.isPrefixOf text then some (text.drop word.length) else none

def ofWord (node : Tree) (word : String) (text : List Char) : Tree × Option (List Char) :=
  match afterWord word text with
  | some rest => (node, some rest)
  | none => (.broken, none)

mutual

/-- The node at the front of a text, and the text behind it unless it is broken. -/
def readTree : Nat → List Char → Tree × Option (List Char)
  | 0, _ => (.broken, none)
  | fuel + 1, text =>
    match text.dropWhile isSpace with
    | [] => (.broken, none)
    | '"' :: rest =>
      match pieces rest with
      | some (parts, rest) => (.string ((assemble parts).map String.ofList), some rest)
      | none => (.broken, none)
    | '[' :: rest =>
      let (items, rest) := readItems fuel true rest
      (.sequence items rest.isSome, rest)
    | '\x7b' :: rest =>
      let (fields, rest) := readFields fuel true rest
      (.mapping fields rest.isSome, rest)
    | 'n' :: rest => ofWord .null "ull" rest
    | 't' :: rest => ofWord (.bool true) "rue" rest
    | 'f' :: rest => ofWord (.bool false) "alse" rest
    | text =>
      match Numeral.read text with
      | some (numeral, rest) => (.number numeral.number?, some rest)
      | none => (.broken, none)

def readItems : Nat → Bool → List Char → List Tree × Option (List Char)
  | 0, _, _ => ([], none)
  | fuel + 1, first, text =>
    let item (text : List Char) :=
      let (node, rest) := readTree fuel text
      match rest with
      | none => ([node], none)
      | some rest =>
        let (nodes, rest) := readItems fuel false rest
        (node :: nodes, rest)
    match text.dropWhile isSpace, first with
    | ']' :: rest, _ => ([], some rest)
    | ',' :: rest, false => item rest
    | rest, true => item rest
    | _, false => ([], none)

def readFields : Nat → Bool → List Char → List (Tree × Tree) × Option (List Char)
  | 0, _, _ => ([], none)
  | fuel + 1, first, text =>
    let field (text : List Char) : List (Tree × Tree) × Option (List Char) :=
      let (key, rest) := readTree fuel text
      match key, (rest.getD []).dropWhile isSpace with
      | .string name, ':' :: rest =>
        let (node, rest) := readTree fuel rest
        match rest with
        | none => ([(.string name, node)], none)
        | some rest =>
          let (fields, rest) := readFields fuel false rest
          ((.string name, node) :: fields, rest)
      | key, _ => ([(key, .broken)], none)
    match text.dropWhile isSpace, first with
    | '\x7d' :: rest, _ => ([], some rest)
    | ',' :: rest, false => field rest
    | rest, true => field rest
    | _, false => ([], none)

end

/-- The tree of a text. Every node takes a character at least, and every item or
field another, which bounds the reading. -/
def Document.read (text : String) : Document :=
  let (root, rest) := readTree (2 * text.length + 2) text.toList
  ⟨root, (rest.map (·.all isSpace)).getD false⟩

/-! ### Values -/

def depthLimit : Nat := 127

/-- The value of a node, if nothing in it is at fault and nesting stays within the
given depth. -/
def Tree.value? : Nat → Tree → Option Value
  | _, .null => some .null
  | _, .bool value => some (.bool value)
  | _, .number value => value.map .number
  | _, .string value => value.map .string
  | depth + 1, .sequence items true => (items.mapM (value? depth)).map .sequence
  | depth + 1, .mapping fields true =>
    let field (key node : Tree) : Option (String × Value) := do
      let .string (some name) := key | none
      return (name, ← value? depth node)
    (fields.mapM fun f => field f.1 f.2).map .mapping
  | _, _ => none

def value? (text : String) : Option Value :=
  let document := Document.read text
  if document.ended then document.root.value? depthLimit else none

end BindingRegions.Json

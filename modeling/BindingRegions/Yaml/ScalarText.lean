import BindingRegions.Yaml.CoreScalar

/-! Texts as YAML scalars. A text with newlines is written as a literal block, one that
would read as something else, or that plain style cannot hold, in single quotes, and
one that these cannot hold either in double quotes. -/

namespace BindingRegions.Yaml

namespace ScalarText

/-- Characters that need no escape. -/
def isPrintable (c : Char) : Bool :=
  let n := c.toNat
  n == 0x0A || (0x20 ≤ n && n ≤ 0x7E) || (0xA0 ≤ n && n ≤ 0xD7FF)
    || (0xE000 ≤ n && n != 0xFEFF && n != 0xFFFE && n != 0xFFFF)

/-- Whether two neighbours in the text are of the given classes. -/
def hasPair (p q : Char → Bool) (chars : List Char) : Bool :=
  (chars.zip chars.tail).any fun (c, d) => p c && q d

def isSpace (c : Char) : Bool := c = ' '

/-- Whether every character has a form of its own and no space stands before a line
break. -/
def isRegular (chars : List Char) : Bool :=
  chars.all isPrintable && !hasPair isSpace isBreak chars

def fitsLiteral (chars : List Char) : Bool :=
  isRegular chars && !chars.isEmpty && chars.getLast? != some ' '

def fitsSingle (chars : List Char) : Bool :=
  isRegular chars && !hasPair isBreak isSpace chars

/-- Whether a text starts with, or holds, what would not read as plain text. -/
def hasIndicator (chars : List Char) : Bool :=
  ['-', '-', '-'].isPrefixOf chars || ['.', '.', '.'].isPrefixOf chars
    || (match chars with
      | [] => false
      | c :: rest =>
        "#,[]\x7b\x7d&*!|>'\"%@\x60".contains c
          || ((c = '?' || c = ':' || c = '-') && endsWord rest.head?)
          || hasPair (· = ':') (fun d => endsWord (some d)) rest
          || (rest != [] && rest.getLast? == some ':')
          || hasPair (fun b => endsWord (some b)) (· = '#') chars)

def fitsPlain (chars : List Char) : Bool :=
  isRegular chars && !chars.any isBreak && chars.head? != some ' '
    && chars.getLast? != some ' ' && !hasIndicator chars

/-- Whether a plain scalar with the text would be read as something other than text, or
would look like a number. -/
def isReserved (text : String) : Bool :=
  match CoreScalar.ofPlain text with
  | .text _ => CoreScalar.isPaddedDigits text.toList
  | _ => true

/-- Puts blanks in front of every character that follows a line break, and of the first
one if asked. -/
def indentLines (indent : Nat) : Bool → List Char → List Char
  | _, [] => []
  | fresh, c :: rest =>
    if isBreak c then c :: indentLines indent true rest
    else (if fresh then List.replicate indent ' ' else []) ++ c :: indentLines indent false rest

/-- A literal block's header: a hint where the first line starts with a blank or is
empty, and what becomes of the final line breaks. -/
def literalHeader (chars : List Char) : List Char :=
  let hint := if chars.head?.any fun c => c = ' ' || isBreak c then ['2'] else []
  let chomping := match chars.reverse with
    | [] => ['-']
    | [last] => if isBreak last then ['+'] else ['-']
    | last :: previous :: _ =>
      if !isBreak last then ['-'] else if isBreak previous then ['+'] else []
  '|' :: hint ++ chomping

def literal (indent : Nat) (chars : List Char) : List Char :=
  literalHeader chars ++ '\n' :: indentLines indent true chars

/-- Between single quotes, quotes are doubled, and lines after the first are indented. -/
def singleQuoted (indent : Nat) (chars : List Char) : List Char :=
  let body := indentLines indent false (chars.flatMap fun c => if c = '\'' then [c, c] else [c])
  let last := if chars.getLast?.any isBreak then List.replicate indent ' ' else []
  '\'' :: body ++ last ++ ['\'']

def escapeLetter? (c : Char) : Option Char :=
  match c.toNat with
  | 0x00 => some '0'
  | 0x07 => some 'a'
  | 0x08 => some 'b'
  | 0x09 => some 't'
  | 0x0A => some 'n'
  | 0x0B => some 'v'
  | 0x0C => some 'f'
  | 0x0D => some 'r'
  | 0x1B => some 'e'
  | 0x22 => some '"'
  | 0x5C => some '\\'
  | 0x85 => some 'N'
  | 0x2028 => some 'L'
  | 0x2029 => some 'P'
  | _ => none

def upperHex (count n : Nat) : List Char :=
  (Text.hexPadded count n).map Char.toUpper

def escape (c : Char) : List Char :=
  match escapeLetter? c with
  | some letter => ['\\', letter]
  | none =>
    if isPrintable c then [c]
    else if c.toNat ≤ 0xFF then '\\' :: 'x' :: upperHex 2 c.toNat
    else if c.toNat ≤ 0xFFFF then '\\' :: 'u' :: upperHex 4 c.toNat
    else '\\' :: 'U' :: upperHex 8 c.toNat

def doubleQuoted (chars : List Char) : List Char :=
  '"' :: chars.flatMap escape ++ ['"']

/-- The scalar for a text, as the value of a field whose lines are indented by the given
number of blanks. -/
def write (indent : Nat) (text : String) : List Char :=
  let chars := text.toList
  if chars.contains '\n' then
    if fitsLiteral chars then literal indent chars else doubleQuoted chars
  else if !isReserved text && fitsPlain chars then chars
  else if fitsSingle chars then singleQuoted indent chars
  else doubleQuoted chars

/-- A field with a text. A literal block that ends with a line break ends its line. -/
def writeField (indent : Nat) (name text : String) : List Char :=
  let scalar := write (indent + 2) text
  let ending := if scalar.getLast?.any isBreak then [] else ['\n']
  List.replicate indent ' ' ++ name.toList ++ ':' :: ' ' :: scalar ++ ending

end ScalarText

end BindingRegions.Yaml

/-! The lines of a text. Every newline ends a line, so a final newline opens no
further line and the empty text has none. A carriage return in front of the
newline stays on its line; `dropReturn` looks behind it. -/

namespace BindingRegions.Text

def splitChars : List Char → List (List Char)
  | [] => []
  | c :: rest =>
    if c = '\n' then [] :: splitChars rest
    else match splitChars rest with
      | [] => [[c]]
      | line :: lines => (c :: line) :: lines

/-- The lines of a text, without their newlines. -/
def splitLines (content : String) : List String :=
  (splitChars content.toList).map String.ofList

/-- The text with the given lines, each followed by a newline. -/
def joinLines (lines : List String) : String :=
  String.ofList (lines.flatMap fun line => line.toList ++ ['\n'])

def endsWithReturn (line : String) : Bool :=
  line.toList.getLast? == some '\r'

def dropReturn (line : String) : String :=
  if endsWithReturn line then String.ofList line.toList.dropLast else line

@[simp] theorem splitChars_nil : splitChars [] = [] := rfl

@[simp] theorem splitChars_newline (rest : List Char) :
    splitChars ('\n' :: rest) = [] :: splitChars rest := by simp [splitChars]

@[simp] theorem toList_joinLines (lines : List String) :
    (joinLines lines).toList = lines.flatMap fun line => line.toList ++ ['\n'] := by
  simp [joinLines]

theorem joinLines_cons (line : String) (lines : List String) :
    (joinLines (line :: lines)).toList = line.toList ++ '\n' :: (joinLines lines).toList := by
  simp

end BindingRegions.Text

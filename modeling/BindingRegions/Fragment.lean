import BindingRegions.Schema
import BindingRegions.Text.Lowercase

/-! The generated fragments. Each has one line a function, in schema order, between
the two lines of its frame. -/

namespace BindingRegions

inductive FragmentKind where
  /-- Function-pointer declarations in the header. -/
  | declarations
  /-- Empty bodies in the source file. -/
  | stubs
  /-- Loaders of the symbols in the header. -/
  | symbols
  deriving DecidableEq, Repr

def joinWith (separator : String) : List String → String
  | [] => ""
  | [part] => part
  | part :: next :: rest => part ++ separator ++ joinWith separator (next :: rest)

/-- The name of a function's binding: the prefix, and the lower-cased name. -/
def bindingName (namePrefix name : String) : String :=
  namePrefix ++ Text.lowercase name

/-- The parameter list: for every argument an opaque handle and a type tag named after
it. -/
def parameterList (arguments : List String) : String :=
  joinWith ", " (arguments.flatMap fun name =>
    ["void* " ++ name, "const char* " ++ name ++ "Type"])

namespace FragmentKind

def name : FragmentKind → String
  | declarations => "declarations"
  | stubs => "stubs"
  | symbols => "symbols"

def frame : FragmentKind → String × String
  | declarations => ("/*", "*/")
  | stubs => ("/*", "*/")
  | symbols => ("  /*", "  */")

def line (namePrefix : String) (function : Function) : FragmentKind → String
  | declarations =>
    "LANTERN_API void (LANTERN_PTR " ++ bindingName namePrefix function.name ++ ")("
      ++ parameterList function.arguments ++ ");"
  | stubs =>
    "void " ++ bindingName namePrefix function.name ++ "("
      ++ parameterList function.arguments ++ ") \x7b\x7d"
  | symbols => "  LOAD_SYMBOL(" ++ bindingName namePrefix function.name ++ ")"

def lines (kind : FragmentKind) (schema : Schema) (namePrefix : String) : List String :=
  kind.frame.1 :: schema.functions.map (fun function => kind.line namePrefix function)
    ++ [kind.frame.2]

theorem length_lines (kind : FragmentKind) (schema : Schema) (namePrefix : String) :
    (kind.lines schema namePrefix).length = schema.functions.length + 2 := by
  simp [lines]

end FragmentKind

end BindingRegions

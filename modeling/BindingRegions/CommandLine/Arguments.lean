import BindingRegions.Files.Path

/-! The arguments of the command line. They are read from left to right, and the first
that decides the outcome does: a request for help or the version, or a mistake. -/

namespace BindingRegions.CommandLine

structure Options where
  declarations : FilePath
  source : FilePath
  header : FilePath
  config : Option FilePath := none
  check : Bool := false
  strictMarkers : Bool := false
  deriving DecidableEq, Repr

inductive Command where
  | help
  | version
  | generate (options : Options)
  | misused
  deriving DecidableEq, Repr

structure Given where
  paths : List String := []
  config : Option String := none
  check : Bool := false
  strictMarkers : Bool := false

namespace Given

def command (given : Given) : Command :=
  match given.paths with
  | [declarations, source, header] =>
    .generate
      { declarations := ⟨declarations⟩, source := ⟨source⟩, header := ⟨header⟩
        config := given.config.map FilePath.mk
        check := given.check, strictMarkers := given.strictMarkers }
  | _ => .misused

/-- Adds a path. There are three, and none is empty. -/
def addPath? (given : Given) (path : String) : Option Given :=
  if path = "" || 3 ≤ given.paths.length then none
  else some { given with paths := given.paths ++ [path] }

def setConfig? (given : Given) (path : String) : Option Given :=
  if path = "" || given.config.isSome then none else some { given with config := some path }

/-- Adds the paths behind a lone `--`, whatever they look like. -/
def addPaths (given : Given) (paths : List String) : Command :=
  match paths.foldlM addPath? given with
  | some given => given.command
  | none => .misused

end Given

/-- Whether an argument looks like an option. A lone dash is a path. -/
def isOption (argument : String) : Bool :=
  argument.startsWith "-" && argument ≠ "-"

def behind? (beginning argument : String) : Option String :=
  if argument.startsWith beginning then
    some (String.ofList (argument.toList.drop beginning.length))
  else none

def readArguments (given : Given) : List String → Command
  | [] => given.command
  | argument :: rest =>
    if argument = "--" then given.addPaths rest
    else if argument = "--help" then .help
    else if argument = "--version" then .version
    else if argument = "--check" then
      if given.check then .misused else readArguments { given with check := true } rest
    else if argument = "--strict-markers" then
      if given.strictMarkers then .misused
      else readArguments { given with strictMarkers := true } rest
    else if argument = "--config" then
      match rest with
      | [] => .misused
      | path :: rest =>
        if isOption path then .misused
        else match given.setConfig? path with
          | some given => readArguments given rest
          | none => .misused
    else match behind? "--config=" argument with
      | some path =>
        match given.setConfig? path with
        | some given => readArguments given rest
        | none => .misused
      | none =>
        if isOption argument then
          if argument.startsWith "-h" then .help
          else if argument.startsWith "-V" then .version
          else .misused
        else match given.addPath? argument with
          | some given => readArguments given rest
          | none => .misused

def Command.ofArguments (arguments : List String) : Command :=
  readArguments {} arguments

end BindingRegions.CommandLine

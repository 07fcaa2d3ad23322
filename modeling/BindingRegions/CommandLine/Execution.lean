import BindingRegions.CommandLine.Arguments
import BindingRegions.Config.File
import BindingRegions.Generate

/-! What a command line does: its exit code, what it prints, and the files it leaves. -/

namespace BindingRegions.CommandLine

structure Completion where
  code : Nat
  out : String := ""
  err : String := ""
  files : FileSystem

def usage : String := "Usage: lanterngen declarations.yaml lantern.cpp lantern.h\n"

def versionText : String := "lanterngen 0.1.0\n"

def helpText : String :=
"CLI for regenerating Lantern binding regions from a declarations schema

Usage: lanterngen [OPTIONS] <DECLARATIONS> <SOURCE> <HEADER>

Arguments:
  <DECLARATIONS>  Declarations schema (YAML, or JSON with a .json extension)
  <SOURCE>        Source file receiving the stub bodies
  <HEADER>        Header receiving the function-pointer declarations and symbol loaders

Options:
      --config <CONFIG>  Generator config overriding the prefix and markers (YAML or JSON)
      --check            Report stale regions without writing; exits 1 if any region is stale
      --strict-markers   Fail when a start marker has no end marker after it
  -h, --help             Print help
  -V, --version          Print version
"

/-- A cause in an error report: its lines after the first are indented as far as the
first. -/
def indentedCause (first later cause : String) : String :=
  first ++ ("\n" ++ later).intercalate (cause.splitOn "\n") ++ "\n"

/-- The report of a failure: what was tried, and the chain of causes, which are numbered
if there are several. -/
def errorReport (context : String) (error : Error) : String :=
  "Error: " ++ context ++ "\n\nCaused by:\n"
    ++ match error.cause? with
      | none => indentedCause "    " "    " error.message
      | some cause =>
        indentedCause "    0: " "       " error.message
          ++ indentedCause "    1: " "       " cause

def progressLine (mode : Mode) : Progress → String
  | .schemaLoaded path count =>
    "Loaded " ++ path.text ++ " with " ++ toString count ++ " nodes\n"
  | .region report =>
    match mode, report.outcome with
    | _, .markerNotFound => ""
    | .write, _ => "Replacing " ++ report.path.text ++ "\n"
    | .check, .replaced =>
      "Stale region " ++ report.kind.name ++ " in " ++ report.path.text ++ "\n"
    | .check, .unchanged => ""

namespace Options

/-- The config asked for; `--strict-markers` overrides its policy. -/
def loadConfig (options : Options) (files : FileSystem) : Except Error Config := do
  let config ← match options.config with
    | some path => Config.load files path
    | none => .ok {}
  return if options.strictMarkers then { config with endMarkerPolicy := .strict } else config

def request (options : Options) : Request where
  schemaPath := options.declarations
  sourcePath := options.source
  headerPath := options.header
  mode := if options.check then .check else .write

/-- Generates as the options ask. With `--check`, a stale region makes the exit code 1. -/
def execute (options : Options) (files : FileSystem) : Completion :=
  match options.loadConfig files with
  | .error error =>
    let path := (options.config.map (·.text)).getD ""
    { code := 1, err := errorReport ("Failed to load config " ++ path) error, files }
  | .ok config =>
    let request := options.request
    let run := generate files request config
    let out := String.join (run.progress.map (progressLine request.mode))
    match run.result with
    | .error error =>
      { code := 1, out, err := errorReport "Failed to regenerate Lantern bindings" error
        files := run.files }
    | .ok report =>
      let code := if options.check && !report.staleRegions.isEmpty then 1 else 0
      { code, out, files := run.files }

end Options

def Command.execute (command : Command) (files : FileSystem) : Completion :=
  match command with
  | .help => { code := 0, out := helpText, files }
  | .version => { code := 0, out := versionText, files }
  | .misused => { code := 1, out := usage, files }
  | .generate options => options.execute files

end BindingRegions.CommandLine

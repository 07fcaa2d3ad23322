import BindingRegions.Files.Path
import BindingRegions.Text.Quoted

/-! What a run notes down beside its results. -/

namespace BindingRegions

inductive LogLevel where
  | debug | info | warn
  deriving DecidableEq, Repr

inductive LogRecord where
  | parsed (functionCount : Nat)
  | loaded (path : FilePath) (functionCount : Nat)
  | startMarkerMissing (marker : String) (path : FilePath)
  | endMarkerMissing (marker : String) (path : FilePath)
  | upToDate (marker : String) (path : FilePath)
  | replacing (path : FilePath)
  deriving DecidableEq, Repr

def LogLevel.name : LogLevel → String
  | debug => "DEBUG"
  | info => "INFO"
  | warn => "WARN"

namespace LogRecord

def level : LogRecord → LogLevel
  | parsed _ | startMarkerMissing _ _ | upToDate _ _ => .debug
  | loaded _ _ | replacing _ => .info
  | endMarkerMissing _ _ => .warn

def message : LogRecord → String
  | parsed count => "Parsed " ++ toString count ++ " function descriptors"
  | loaded path count => "Loaded " ++ path.text ++ " with " ++ toString count ++ " nodes"
  | startMarkerMissing marker path =>
    "Start marker " ++ Text.quoted marker ++ " not found in " ++ path.text ++ ", skipping"
  | endMarkerMissing marker path =>
    "End marker " ++ Text.quoted marker ++ " not found in " ++ path.text
      ++ ", replacing through end of file"
  | upToDate marker path =>
    "Region " ++ Text.quoted marker ++ " in " ++ path.text ++ " is up to date"
  | replacing path => "Replacing " ++ path.text

end LogRecord

end BindingRegions

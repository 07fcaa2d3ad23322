import BindingRegions.Config.JsonReader
import BindingRegions.Config.YamlReader
import BindingRegions.Error
import BindingRegions.Yaml.ScalarText

/-! Config files. A file whose name ends in `.json`, in lower case, holds JSON, and every
other file YAML; a config is always saved as YAML, with all fields in order and marker
pairs as nested mappings. -/

namespace BindingRegions

open Yaml.ScalarText

def MarkerPair.writeYaml (field : Config.Field) (pair : MarkerPair) : List Char :=
  field.name.toList ++ ':' :: '\n'
    :: writeField 2 Field.start.name pair.start ++ writeField 2 Field.stop.name pair.stop

def Config.toYaml (config : Config) : String :=
  String.ofList <|
    writeField 0 Field.functionPrefix.name config.functionPrefix
      ++ config.bodyMarkers.writeYaml .bodyMarkers
      ++ config.headerMarkers.writeYaml .headerMarkers
      ++ config.symbolMarkers.writeYaml .symbolMarkers
      ++ writeField 0 Field.endMarkerPolicy.name config.endMarkerPolicy.name

namespace Config

def isJsonPath (path : FilePath) : Bool := path.extension? == some "json"

def load (files : FileSystem) (path : FilePath) : Except Error Config :=
  match files.read path with
  | .error fault => .error (.configUnreadable path fault)
  | .ok text =>
    if isJsonPath path then (ofJson text).mapError .json else (ofYaml text).mapError .yaml

def save (config : Config) (files : FileSystem) (path : FilePath) : Except Error FileSystem :=
  (files.write path config.toYaml).mapError .io

end Config

end BindingRegions

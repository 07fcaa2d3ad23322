import BindingRegions.Config.File
import BindingRegions.Proofs.Config.Tokens
import BindingRegions.Proofs.Files.Edits

/-! Saving a config and loading it again. The text that is saved is YAML at every path, and reads
back as YAML; a path with the extension `json` is read as JSON, which that text never is. -/

namespace BindingRegions.Config

variable {files after : FileSystem} {path : FilePath}

/-- The text of a config starts with the bare name of its first field. Of the words of JSON only
`false` starts with that letter, and the next one does not fit. -/
theorem read_toYaml (config : Config) : Json.Document.read config.toYaml = ⟨.broken, false⟩ := by
  obtain ⟨rest, hrest⟩ : ∃ rest, config.toYaml.toList = 'f' :: 'u' :: rest := by
    rw [toList_toYaml]
    exact ⟨_, rfl⟩
  have hread : Json.readTree (2 * config.toYaml.length + 2) ('f' :: 'u' :: rest) = (.broken, none) := rfl
  rw [Json.Document.read, hrest, hread]
  rfl

theorem ofJson_toYaml (config : Config) : ofJson config.toYaml = .error .malformed := by
  rw [ofJson, read_toYaml]
  rfl

/-- What is at the path once a config was saved there is the config's text. -/
theorem read_of_save {config : Config} (h : config.save files path = .ok after) :
    after.read path = .ok config.toYaml :=
  FileSystem.read_of_write (mapError_eq_ok_iff.1 h)

/-- A saved config loads back unless the path asks for JSON; from there no saved config loads. -/
theorem load_of_save {config : Config} (h : config.save files path = .ok after) :
    load after path = if isJsonPath path then .error (.json .malformed) else .ok config := by
  rw [load, read_of_save h]
  simp only [ofJson_toYaml, ofYaml_toYaml, mapError_ok, mapError_error]

/-- Prefix and markers that read as a boolean, as nothing, and as more than one line. -/
def oddConfig : Config where
  functionPrefix := "true"
  bodyMarkers := ⟨"", " \t"⟩
  headerMarkers := ⟨"\n 0x1F \r\n", "- "⟩
  endMarkerPolicy := .strict

theorem load_of_save_odd :
    let saved := (FileSystem.blank "w").set ["c.JSON", "w"] (some (.file (.text oddConfig.toYaml) true))
    oddConfig.save (.blank "w") ⟨"c.JSON"⟩ = .ok saved ∧ isJsonPath ⟨"c.JSON"⟩ = false ∧
      load saved ⟨"c.JSON"⟩ = .ok oddConfig := by
  intro saved
  have hsave : oddConfig.save (.blank "w") ⟨"c.JSON"⟩ = .ok saved := rfl
  have hpath : isJsonPath ⟨"c.JSON"⟩ = false := by decide
  have hload := load_of_save hsave
  rw [hpath] at hload
  exact ⟨hsave, hpath, hload⟩

/-- The stock settings, saved under a name that asks for JSON, do not load back. -/
theorem not_load_of_save :
    ¬ ∀ (config : Config) (files after : FileSystem) (path : FilePath),
      config.save files path = .ok after → load after path = .ok config := by
  intro h
  have hsave : ({} : Config).save (.blank "w") ⟨"c.json"⟩ = .ok
    ((FileSystem.blank "w").set ["c.json", "w"] (some (.file (.text (toYaml {})) true))) := rfl
  have hpath : isJsonPath ⟨"c.json"⟩ = true := by decide
  have hload := h {} _ _ _ hsave
  simp [load, read_of_save hsave, hpath, ofJson_toYaml] at hload

end BindingRegions.Config

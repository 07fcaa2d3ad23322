import BindingRegions.Config.YamlReader
import BindingRegions.Proofs.Failure

/-! Configs decoded from the nodes that are written for them. Every field is there once and has its
value, so the defaults do not count. -/

namespace BindingRegions

open Yaml

namespace MarkerPair

/-- The node of a marker pair. The texts may be plain or not. -/
inductive IsNode (pair : MarkerPair) : Node → Prop
  | mk (plain plain' : Bool) : IsNode pair (.mapping {}
      [(.scalar {} true Field.start.name, .scalar {} plain pair.start),
        (.scalar {} true Field.stop.name, .scalar {} plain' pair.stop)])

theorem ofYaml_node {pair : MarkerPair} {node : Node} (h : pair.IsNode node) (document : Document)
    (path : Yaml.Path) : ofYaml document path node = pure pair := by
  cases h
  rfl

end MarkerPair

theorem EndMarkerPolicy.ofYaml_node (document : Document) (path : Yaml.Path) (plain : Bool)
    (policy : EndMarkerPolicy) :
    ofYaml document path (.scalar {} plain policy.name) = pure policy := by
  cases policy <;> rfl

namespace Config

inductive IsNode (config : Config) : Node → Prop
  | mk (plain plain' : Bool) {body headers symbols : Node} (hbody : config.bodyMarkers.IsNode body)
      (hheaders : config.headerMarkers.IsNode headers) (hsymbols : config.symbolMarkers.IsNode symbols) :
      IsNode config (.mapping {}
        [(.scalar {} true Field.functionPrefix.name, .scalar {} plain config.functionPrefix),
          (.scalar {} true Field.bodyMarkers.name, body),
          (.scalar {} true Field.headerMarkers.name, headers),
          (.scalar {} true Field.symbolMarkers.name, symbols),
          (.scalar {} true Field.endMarkerPolicy.name, .scalar {} plain' config.endMarkerPolicy.name)])

theorem Field.ofName?_name (field : Field) : Field.ofName? field.name = some field := by
  cases field <;> decide

/-- One entry sets its field, which must be new. -/
theorem ofYamlEntries_cons {document : Document} {seen : List Field} {config : Config} {field : Field}
    {node : Node} {entries : List (Node × Node)} (setting : Setting) (hnew : field ∉ seen)
    (h : ∀ path, Setting.ofYaml document path node field = pure setting) :
    ofYamlEntries document seen config ((.scalar {} true field.name, node) :: entries) =
      ofYamlEntries document (field :: seen) (config.set setting) entries := by
  have hname : document.fieldName .root "field identifier" (.scalar {} true field.name) =
      pure field.name := rfl
  rw [ofYamlEntries, hname]
  simp [Field.ofName?_name, hnew, h]

/-- The entries of a config, read one by one, make the config. -/
theorem ofYamlEntries_node {config : Config} {node : Node} (h : config.IsNode node) (document : Document) :
    (do ofYamlEntries document [] {} (← document.entriesOf .root expectation node) : Decoder Config) =
      pure config := by
  obtain ⟨plain, plain', hbody, hheaders, hsymbols⟩ := h
  have hpair : ∀ {pair : MarkerPair} {node : Node}, pair.IsNode node → ∀ path,
      MarkerPair.ofYaml document path node = pure pair := fun h path => MarkerPair.ofYaml_node h document path
  show ofYamlEntries document [] {} _ = _
  rw [ofYamlEntries_cons (.functionPrefix config.functionPrefix) (by decide) fun _ => rfl,
    ofYamlEntries_cons (.bodyMarkers config.bodyMarkers) (by decide) fun path => by
      rw [Setting.ofYaml, hpair hbody]; rfl,
    ofYamlEntries_cons (.headerMarkers config.headerMarkers) (by decide) fun path => by
      rw [Setting.ofYaml, hpair hheaders]; rfl,
    ofYamlEntries_cons (.symbolMarkers config.symbolMarkers) (by decide) fun path => by
      rw [Setting.ofYaml, hpair hsymbols]; rfl,
    ofYamlEntries_cons (.endMarkerPolicy config.endMarkerPolicy) (by decide) fun path => by
      rw [Setting.ofYaml, EndMarkerPolicy.ofYaml_node]; rfl]
  rfl

end Config

end BindingRegions

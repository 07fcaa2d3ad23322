import BindingRegions.Config.File
import BindingRegions.Proofs.Config.Decoding
import BindingRegions.Proofs.Yaml.Fields
import BindingRegions.Proofs.Yaml.Node

/-! The tokens of a written config. The fields are read one by one; those of a marker pair stand
two columns to the right, in a block that the next field ends. -/

namespace BindingRegions

open Yaml Yaml.Layout Yaml.ScalarText

variable {here : Cursor} {tokens : List Token} {s : Layout} {next : List Char}

theorem isName_field (field : Config.Field) : IsName field.name.toList ∧ field.name.toList.length ≤ 1024 := by
  cases field <;> decide

theorem isName_pairField (field : MarkerPair.Field) :
    IsName field.name.toList ∧ field.name.toList.length ≤ 1024 := by
  cases field <;> decide

/-- The tokens of an entry with a text, in order. -/
def entryTokens (name : String) (plain : Bool) (text : String) : List Token :=
  [.key, .scalar true name, .value, .scalar plain text]

/-- The tokens of a marker pair, in order. The texts may be plain or not. -/
inductive PairTokens (pair : MarkerPair) : List Token → Prop
  | mk (plain plain' : Bool) : PairTokens pair (.blockMappingStart ::
      (entryTokens MarkerPair.Field.start.name plain pair.start ++
        entryTokens MarkerPair.Field.stop.name plain' pair.stop ++ [.blockEnd]))

inductive ConfigTokens (config : Config) : List Token → Prop
  | mk (plain plain' : Bool) {body headers symbols : List Token} (hbody : PairTokens config.bodyMarkers body)
      (hheaders : PairTokens config.headerMarkers headers)
      (hsymbols : PairTokens config.symbolMarkers symbols) :
      ConfigTokens config (.blockMappingStart ::
        (entryTokens Config.Field.functionPrefix.name plain config.functionPrefix ++
          (.key :: .scalar true Config.Field.bodyMarkers.name :: .value :: body ++
            (.key :: .scalar true Config.Field.headerMarkers.name :: .value :: headers ++
              (.key :: .scalar true Config.Field.symbolMarkers.name :: .value :: symbols ++
                entryTokens Config.Field.endMarkerPolicy.name plain' config.endMarkerPolicy.name))) ++
          [.blockEnd]))

theorem writeField_eq_textField (field : Config.Field) (text : String) :
    writeField 0 field.name text = textField field.name.toList 0 text 0 := by
  simp [writeField_eq, textField]

theorem writeYaml_eq (field : Config.Field) (pair : MarkerPair) :
    pair.writeYaml field = mappingField field.name.toList 2 ++
      (textField MarkerPair.Field.start.name.toList 2 pair.start 2 ++
        textField MarkerPair.Field.stop.name.toList 2 pair.stop 0) := by
  simp [MarkerPair.writeYaml, writeField_eq, textField, mappingField]

/-- A field of the outermost block with a marker pair. -/
theorem reaches_pair (h : AtKey s here 0 0 [-1] tokens) (field : Config.Field) (pair : MarkerPair)
    (hrest : here.rest = pair.writeYaml field ++ next) (hnext : StartsToken next) :
    ∃ part s', PairTokens pair part ∧ Reaches 8 s s' ∧
      AtKey s' (here.past (pair.writeYaml field)) 0 0 [-1]
        ((Token.key :: .scalar true field.name :: .value :: part).reverse ++ tokens) := by
  obtain ⟨hname, hlength⟩ := isName_field field
  obtain ⟨hstart, hstartLength⟩ := isName_pairField .start
  obtain ⟨hstop, hstopLength⟩ := isName_pairField .stop
  rw [writeYaml_eq] at hrest ⊢
  simp only [List.append_assoc] at hrest
  obtain ⟨s₁, hreaches₁, h₁⟩ := h.reaches_mapping hname hlength hrest (startsToken_textField hstart _ _)
  obtain ⟨plain, s₂, hreaches₂, h₂⟩ := (h₁.atKey (by decide)).reaches_text hstart hstartLength
    (Cursor.rest_past hrest) (Nat.le_refl 2) (startsToken_textField hstop _ _)
  obtain ⟨plain', s₃, hreaches₃, h₃⟩ := (h₂.atKey (by decide)).reaches_text hstop hstopLength
    (Cursor.rest_past (Cursor.rest_past hrest)) (Nat.zero_le 2) hnext
  refine ⟨_, s₃, .mk plain plain', (hreaches₁.trans hreaches₂).trans hreaches₃, ?_⟩
  have hback := h₃.atKey_back (by decide)
  simp only [← Cursor.past_append, List.append_assoc] at hback
  simpa [entryTokens, tokensWithKey, tokensBefore, blocksAround] using hback

theorem toList_toYaml (config : Config) :
    config.toYaml.toList =
      textField Config.Field.functionPrefix.name.toList 0 config.functionPrefix 0 ++
        (config.bodyMarkers.writeYaml .bodyMarkers ++ (config.headerMarkers.writeYaml .headerMarkers ++
          (config.symbolMarkers.writeYaml .symbolMarkers ++
            textField Config.Field.endMarkerPolicy.name.toList 0 config.endMarkerPolicy.name 0))) := by
  rw [Config.toYaml, String.toList_ofList, writeField_eq_textField, writeField_eq_textField]
  simp only [List.append_assoc]

theorem isPrintable_of_mem_writeYaml {field : Config.Field} {pair : MarkerPair} {c : Char}
    (h : c ∈ pair.writeYaml field) : isPrintable c = true := by
  rw [writeYaml_eq, List.mem_append, List.mem_append] at h
  obtain h | h | h := h
  · exact isPrintable_of_mem_mappingField (isName_field field).1 h
  · exact isPrintable_of_mem_textField (isName_pairField .start).1 h
  · exact isPrintable_of_mem_textField (isName_pairField .stop).1 h

theorem isPrintable_of_mem_toYaml {config : Config} {c : Char} (h : c ∈ config.toYaml.toList) :
    isPrintable c = true := by
  simp only [toList_toYaml, List.mem_append] at h
  obtain h | h | h | h | h := h
  · exact isPrintable_of_mem_textField (isName_field _).1 h
  · exact isPrintable_of_mem_writeYaml h
  · exact isPrintable_of_mem_writeYaml h
  · exact isPrintable_of_mem_writeYaml h
  · exact isPrintable_of_mem_textField (isName_field _).1 h

/-- The names of the fields alone make the text longer than there are steps to take. -/
theorem le_length_toYaml (config : Config) : 30 ≤ config.toYaml.length := by
  have hpair : ∀ (field : Config.Field) (pair : MarkerPair),
      field.name.toList.length ≤ (pair.writeYaml field).length := by
    intro field pair
    rw [writeYaml_eq, mappingField]
    simp only [List.length_append]
    omega
  have hbody := hpair .bodyMarkers config.bodyMarkers
  have hheaders := hpair .headerMarkers config.headerMarkers
  have hsymbols := hpair .symbolMarkers config.symbolMarkers
  rw [← String.length_toList, toList_toYaml]
  simp only [List.length_append]
  have : Config.Field.bodyMarkers.name.toList.length = 12 := rfl
  have : Config.Field.headerMarkers.name.toList.length = 14 := rfl
  have : Config.Field.symbolMarkers.name.toList.length = 14 := rfl
  omega

/-- A config's text is read field by field: 27 steps for the first four, three for the last one, and
one for the end. -/
theorem readAll_config (config : Config) (here : Cursor) (hrest : here.rest = config.toYaml.toList)
    (hcolumn : here.column = 0) (hfits : here.rest.length ≤ here.size) (fuel : Nat) :
    ∃ tokens, ConfigTokens config tokens ∧
      (readAll (fuel + 31) { here }).map (·.tokens) = .ok tokens.reverse := by
  rw [toList_toYaml] at hrest
  obtain ⟨hfirst, hfirstLength⟩ := isName_field .functionPrefix
  obtain ⟨hlast, hlastLength⟩ := isName_field .endMarkerPolicy
  have hpair : ∀ (field : Config.Field) (pair : MarkerPair) (tail : List Char),
      StartsToken (pair.writeYaml field ++ tail) := by
    intro field pair tail
    rw [writeYaml_eq, List.append_assoc]
    exact startsToken_mappingField (isName_field field).1
  have hsettle : settle { here } = between here (-1) [] true [] :=
    settle_spaces (s := { here }) (k := 0) hrest (startsToken_textField hfirst _ _)
  have hstart : AtKey { here } here 0 (-1) [] [] := AtLine.atKey ⟨hsettle, hcolumn, hfits⟩ (by decide)
  obtain ⟨plain, s₀, hreaches₀, h₀⟩ := hstart.reaches_text hfirst hfirstLength hrest (Nat.le_refl 0)
    (hpair _ _ _)
  have hrest₀ := Cursor.rest_past hrest
  obtain ⟨body, s₁, hbody, hreaches₁, h₁⟩ := reaches_pair (h₀.atKey (by decide)) .bodyMarkers
    config.bodyMarkers hrest₀ (hpair _ _ _)
  have hrest₁ := Cursor.rest_past hrest₀
  obtain ⟨headers, s₂, hheaders, hreaches₂, h₂⟩ := reaches_pair h₁ .headerMarkers config.headerMarkers hrest₁
    (hpair _ _ _)
  have hrest₂ := Cursor.rest_past hrest₁
  obtain ⟨symbols, s₃, hsymbols, hreaches₃, h₃⟩ := reaches_pair h₂ .symbolMarkers config.symbolMarkers hrest₂
    (startsToken_name hlast)
  have hrest₃ := (Cursor.rest_past hrest₂).trans (List.append_nil _).symm
  obtain ⟨plain', s₄, hreaches₄, h₄⟩ := h₃.reaches_text hlast hlastLength hrest₃ (Nat.le_refl 0)
    (by simp [StartsToken])
  have hreaches : Reaches 30 { here } s₄ :=
    (((hreaches₀.trans hreaches₁).trans hreaches₂).trans hreaches₃).trans hreaches₄
  refine ⟨_, .mk plain plain' hbody hheaders hsymbols, ?_⟩
  rw [show fuel + 31 = (fuel + 1) + 30 by omega, hreaches, h₄.readAll_end (Cursor.rest_past hrest₃)]
  simp [entryTokens, tokensWithKey, tokensBefore]

theorem tokens_toYaml (config : Config) :
    ∃ tokens, ConfigTokens config tokens ∧ Token.ofText config.toYaml = .ok tokens := by
  obtain ⟨fuel, hfuel⟩ : ∃ n, config.toYaml.length + 1 = n + 31 :=
    ⟨config.toYaml.length - 30, by have := le_length_toYaml config; omega⟩
  obtain ⟨tokens, htokens, hread⟩ := readAll_config config (.ofText config.toYaml) (by rw [Cursor.ofText]) rfl
    (by rw [Cursor.ofText, String.length_toList]) fuel
  rw [← hfuel] at hread
  exact ⟨tokens, htokens,
    Token.ofText_eq (fun c hc => isAllowed_of_isPrintable (isPrintable_of_mem_toYaml hc)) hread⟩

theorem PairTokens.exists_node {pair : MarkerPair} {tokens : List Token} (h : PairTokens pair tokens) :
    ∃ node, pair.IsNode node ∧ node.Renders tokens := by
  obtain ⟨plain, plain'⟩ := h
  exact ⟨_, .mk plain plain',
    .mapping (.cons (.scalar _ _) (.scalar _ _) (.cons (.scalar _ _) (.scalar _ _) .nil))⟩

theorem ConfigTokens.exists_node {config : Config} {tokens : List Token} (h : ConfigTokens config tokens) :
    ∃ node, config.IsNode node ∧ node.Renders tokens := by
  obtain ⟨plain, plain', hbody, hheaders, hsymbols⟩ := h
  obtain ⟨body, hbody, hbodyTokens⟩ := hbody.exists_node
  obtain ⟨headers, hheaders, hheaderTokens⟩ := hheaders.exists_node
  obtain ⟨symbols, hsymbols, hsymbolTokens⟩ := hsymbols.exists_node
  have hrenders := Node.Renders.mapping (.cons (.scalar true Config.Field.functionPrefix.name)
    (.scalar plain config.functionPrefix)
    (.cons (.scalar true Config.Field.bodyMarkers.name) hbodyTokens
    (.cons (.scalar true Config.Field.headerMarkers.name) hheaderTokens
    (.cons (.scalar true Config.Field.symbolMarkers.name) hsymbolTokens
    (.cons (.scalar true Config.Field.endMarkerPolicy.name) (.scalar plain' config.endMarkerPolicy.name)
    .nil)))))
  exact ⟨_, .mk plain plain' hbody hheaders hsymbols, by simpa [entryTokens] using hrenders⟩

theorem document_toYaml (config : Config) :
    ∃ node, config.IsNode node ∧ Document.ofText config.toYaml = .ok ⟨some node, []⟩ := by
  obtain ⟨tokens, htokens, hread⟩ := tokens_toYaml config
  obtain ⟨node, hnode, hrenders⟩ := htokens.exists_node
  refine ⟨node, hnode, ?_⟩
  rw [Document.ofText, hread]
  exact Document.ofTokens_renders hrenders

theorem Config.ofYaml_toYaml (config : Config) : ofYaml config.toYaml = .ok config := by
  obtain ⟨node, hnode, hdocument⟩ := document_toYaml config
  rw [ofYaml, hdocument]
  simp only [ofYamlEntries_node hnode]
  rfl

end BindingRegions

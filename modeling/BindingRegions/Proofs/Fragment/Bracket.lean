import BindingRegions.Proofs.Fragment.LineBreaks
import BindingRegions.Proofs.Schema.Document

/-! Whether generated regions are found again. After a fragment is written between its
markers they bracket it, line for line, just when no name in it has a line break
(`brackets_rewritten_iff`): a line of a fragment is no marker, but a name may bring along
lines of its own, and every name is let pass (`Schema.ofValue_document`). -/

namespace BindingRegions

open Text

/-- The first region between the markers has an end and exactly the given body. -/
def Brackets (markers : MarkerPair) (content : String) (body : List String) : Prop :=
  ∃ region, findRegion (splitLines content) markers = some region ∧ region.stop ≠ none ∧
    region.inside (splitLines content) = body

def Config.markers (config : Config) : FragmentKind → MarkerPair
  | .declarations => config.headerMarkers
  | .stubs => config.bodyMarkers
  | .symbols => config.symbolMarkers

namespace Cut

theorem Marks.brackets {l : Cut} {markers : MarkerPair} {content : String} (h : l.Marks markers)
    (hl : splitLines content = l.lines) (hrest : l.rest ≠ []) : Brackets markers content l.body := by
  refine ⟨l.region, ?_, mt l.stop_region_eq_none_iff.1 hrest, ?_⟩
  · rw [hl, findRegion_lines h]
  · rw [hl, l.inside_lines]

end Cut

/-- The lines of a text hold no line breaks, and so neither does what is bracketed in it. -/
theorem Brackets.newline_not_mem {markers : MarkerPair} {content startLine : String}
    {replacement : List String} (h : Brackets markers content (bodyLines startLine replacement)) :
    ∀ line ∈ replacement, '\n' ∉ line.toList := by
  obtain ⟨region, -, -, hinside⟩ := h
  rw [← newline_not_mem_bodyLines_iff startLine, ← hinside]
  intro line hline
  exact newline_not_mem_of_mem_splitLines (List.mem_of_mem_take (List.mem_of_mem_drop hline))

theorem append_ne_of_not_prefix {front text : String} (h : ¬ front.toList <+: text.toList)
    (back : String) : front ++ back ≠ text := by
  rintro rfl
  rw [String.toList_append] at h
  exact h (List.prefix_append _ _)

/-- No line of a fragment is the end marker around it. -/
theorem stop_not_mem_lines (kind : FragmentKind) (schema : Schema) (namePrefix : String) :
    (({} : Config).markers kind).stop ∉ kind.lines schema namePrefix := by
  simp only [FragmentKind.lines, List.cons_append, List.mem_cons, List.mem_append, List.mem_map,
    List.not_mem_nil, or_false, not_or, not_exists, not_and]
  refine ⟨by cases kind <;> decide, fun function _ => ?_, by cases kind <;> decide⟩
  cases kind with
  | declarations =>
    simp only [FragmentKind.line_declarations, String.append_assoc]
    exact append_ne_of_not_prefix (by decide) _
  | stubs =>
    simp only [FragmentKind.line_stubs, String.append_assoc]
    exact append_ne_of_not_prefix (by decide) _
  | symbols =>
    simp only [FragmentKind.line_symbols, String.append_assoc]
    exact append_ne_of_not_prefix (by decide) _

/-- So a fragment of single lines comes out without an end marker line. -/
theorem isMarker_stop_emitted {kind : FragmentKind} {schema : Schema} {namePrefix : String}
    (h : ∀ line ∈ kind.lines schema namePrefix, '\n' ∉ line.toList) (startLine : String) :
    ∀ line ∈ emitted startLine (kind.lines schema namePrefix),
      isMarker (({} : Config).markers kind).stop line = false := by
  refine isMarker_emitted_eq_false h
    (fun text htext => FragmentKind.endsWithReturn_of_mem_lines htext) fun text htext => ?_
  rw [← Bool.not_eq_true, isMarker_iff_of_not_return (FragmentKind.endsWithReturn_of_mem_lines htext)]
  rintro rfl
  exact stop_not_mem_lines kind schema namePrefix htext

/-- Once a fragment is written into its region, the same markers bracket exactly its lines
with the ending of the start marker line, just when no name in it has a line break. -/
theorem brackets_rewritten_iff (schema : Schema) (kind : FragmentKind) (target : TargetFile)
    (policy : EndMarkerPolicy) {region : Region}
    (hfound : findRegion (splitLines target.content) (({} : Config).markers kind) = some region)
    (hstop : region.stop ≠ none) :
    let markers := ({} : Config).markers kind
    let fragment := kind.lines schema ({} : Config).functionPrefix
    ∃ startLine target' outcome,
      (splitLines target.content)[region.start]? = some startLine ∧
      target.rewriteRegion markers fragment policy = .ok (target', outcome) ∧
      (Brackets markers target'.content (bodyLines startLine fragment) ↔
        ∀ function ∈ schema.functions, ∀ name ∈ kind.names function, '\n' ∉ name.toList) := by
  intro markers fragment
  obtain ⟨l, hl, hm, rfl⟩ := Cut.exists_of_findRegion hfound
  have hrest : l.rest ≠ [] := mt l.stop_region_eq_none_iff.2 hstop
  obtain ⟨target', outcome, hat, hr⟩ :=
    TargetFile.exists_rewritesAt hl hm (fun h => hrest h.1 : ¬ (l.rest = [] ∧ policy = .strict))
      fragment
  refine ⟨l.startLine, target', outcome, ?_, hr, ?_⟩
  · rw [← hl]
    simp [Cut.lines, Cut.region]
  · have hprefix : '\n' ∉ ({} : Config).functionPrefix.toList := by decide
    rw [← kind.newline_not_mem_lines_iff hprefix schema]
    constructor
    · exact Brackets.newline_not_mem
    · intro hsingle
      have hemitted := emitted_of_newline_not_mem hsingle l.startLine
      have hclear := isMarker_stop_emitted hsingle l.startLine
      have hbrackets := (hm.rewritten hclear).brackets hat.splitLines_eq hrest
      rwa [Cut.rewritten, hemitted] at hbrackets

/-! ### Names with and without line breaks -/

def endingsTarget : TargetFile :=
  ⟨⟨"lantern.h"⟩, "", "/* Autogen Headers -- Start */\r\nold\n/* Autogen Headers -- End */"⟩

theorem brackets_rewritten_odd :
    ∃ startLine target' outcome,
      (splitLines endingsTarget.content)[0]? = some startLine ∧
      endingsTarget.rewriteRegion .headers
        (FragmentKind.declarations.lines ⟨[⟨"7", ["a b"]⟩]⟩ "lantern_") .strict =
          .ok (target', outcome) ∧
      Brackets .headers target'.content
        (bodyLines startLine (FragmentKind.declarations.lines ⟨[⟨"7", ["a b"]⟩]⟩ "lantern_")) := by
  have hfound : findRegion (splitLines endingsTarget.content)
      (({} : Config).markers .declarations) = some ⟨0, some 2⟩ := by decide +kernel
  obtain ⟨startLine, target', outcome, hstart, hr, hiff⟩ :=
    brackets_rewritten_iff ⟨[⟨"7", ["a b"]⟩]⟩ .declarations endingsTarget .strict hfound (by decide)
  exact ⟨startLine, target', outcome, hstart, hr, hiff.2 (by decide +kernel)⟩

/-- An argument's name with the end marker on a line of its own. -/
def markerName : String := "x\n/* Autogen Headers -- End */\ny"

def emptyTarget : TargetFile :=
  ⟨⟨"lantern.h"⟩, "", "/* Autogen Headers -- Start */\n/* Autogen Headers -- End */\n"⟩

/-- A fragment with that name is not what its markers bracket. -/
theorem not_brackets_markerName :
    ¬ ∀ (document : Value) (schema : Schema) (kind : FragmentKind) (target : TargetFile)
        (policy : EndMarkerPolicy) (region : Region),
      Schema.ofValue document = .ok schema →
      findRegion (splitLines target.content) (({} : Config).markers kind) = some region →
      region.stop ≠ none →
      ∃ startLine target' outcome,
        (splitLines target.content)[region.start]? = some startLine ∧
        target.rewriteRegion (({} : Config).markers kind)
          (kind.lines schema ({} : Config).functionPrefix) policy = .ok (target', outcome) ∧
        Brackets (({} : Config).markers kind) target'.content
          (bodyLines startLine (kind.lines schema ({} : Config).functionPrefix)) := by
  intro h
  have hschema := Schema.ofValue_document ⟨[⟨"Foo", [markerName]⟩]⟩
  obtain ⟨startLine, target', outcome, -, -, hbrackets⟩ :=
    h _ _ .declarations emptyTarget .strict ⟨0, some 1⟩ hschema (by decide +kernel) (by decide)
  have hnames := (FragmentKind.declarations.newline_not_mem_lines_iff (by decide) _).1
    hbrackets.newline_not_mem
  have hbreak : '\n' ∈ markerName.toList := by decide
  exact hnames ⟨"Foo", [markerName]⟩ (by simp) markerName (by simp [FragmentKind.names]) hbreak

end BindingRegions

import BindingRegions.Proofs.Fragment.LineBreaks
import BindingRegions.Proofs.Region.Outside
import BindingRegions.Proofs.Run.OneFile

/-! Runs keep what is outside the regions of the header. A write run leaves every line there
that is not strictly inside a region, whether it succeeds or fails
(`generate_linesOutside_sublist`): the source's step edits another file, and the header's
text is then what some of its two steps made of it. -/

namespace BindingRegions

open Text

section Generate

variable {files : FileSystem} {request : Request} {config : Config}

/-- The header's text after a write run is what some of the header's steps made of it. -/
theorem exists_read_generate {schema : Schema} {content : String}
    (hload : Schema.load files request.schemaPath = .ok schema)
    (hread : files.read request.headerPath = .ok content)
    (hapart : ¬ files.Meet request.sourcePath request.headerPath) (config : Config) :
    ∃ done final, done <+: (request.steps config schema).tail ∧
      done.foldlM (Step.revise config.endMarkerPolicy) content = some final ∧
      (generate files { request with mode := .write } config).files.read request.headerPath =
        .ok final := by
  obtain ⟨a, b, c, hsteps, ha, hb, hc, hspelled⟩ := request.exists_spelled_steps_eq config schema
  rw [(generate_spelled request hload config).1, hspelled, hsteps, List.tail_cons]
  rw [← hb] at hread hapart ⊢
  rw [← ha] at hapart
  cases hr : rewriteFile files a.path a.markers a.lines config.endMarkerPolicy .write with
  | error e =>
    rw [rewriteEach_cons_error hr]
    exact ⟨[], content, List.nil_prefix, rfl, hread⟩
  | ok result =>
    obtain ⟨outcome, mid⟩ := result
    obtain ⟨text, -, -, hsource, -, -, -, -, hedits⟩ := rewriteFile_eq_ok hr
    have hsame : a.path.same b.path = false := by
      rw [← Bool.not_eq_true]
      exact fun h => hapart (FileSystem.meet_of_same h hsource hread)
    have hb' : b.spelled b.path = b := rfl
    have hc' : c.spelled b.path = c := by rw [← hc]; rfl
    have hmid : mid.read b.path = .ok content := by
      rw [hedits.read_eq fun place hplace hat => hapart ⟨place, hat, hplace⟩]
      exact hread
    obtain ⟨hslash, place, writable, hat, hentry⟩ := FileSystem.read_eq_ok_iff.1 hmid
    have hall : AllAt mid place [b, c] := by
      simp [AllAt, hc, hat, hslash]
    obtain ⟨done, final, hdone, hfold, hfinal⟩ :=
      exists_read_rewriteEach hall hentry config.endMarkerPolicy
    refine ⟨done, final, hdone, hfold, ?_⟩
    simp only [hsame, Bool.false_eq_true, if_false, hb', hc']
    rw [rewriteEach_cons_ok hr]
    exact hfinal b.path hat hslash

/-- A write run, successful or not, keeps all lines of the header that are outside its two
regions, unless the second region ends inside the first and may run through the end of the
file. -/
theorem generate_linesOutside_sublist {content : String}
    (hread : files.read request.headerPath = .ok content)
    (hapart : ¬ files.Meet request.sourcePath request.headerPath)
    (hregions : TwoRegions config.headerMarkers config.symbolMarkers (splitLines content))
    (hends : config.endMarkerPolicy = .strict ∨
      ¬ EndsInside config.headerMarkers config.symbolMarkers (splitLines content))
    (hclear : ∀ schema, Schema.load files request.schemaPath = .ok schema →
      ∀ kind ∈ [FragmentKind.declarations, .symbols],
        ∀ line ∈ splitLines (joinLines (kind.lines schema config.functionPrefix)),
          ∀ marker ∈ [config.headerMarkers.start, config.headerMarkers.stop,
            config.symbolMarkers.start, config.symbolMarkers.stop], isMarker marker line = false) :
    ∃ after, (generate files { request with mode := .write } config).files.read
        request.headerPath = .ok after ∧
      (linesOutside [config.headerMarkers, config.symbolMarkers] (splitLines content)).Sublist
        (splitLines after) ∧
      Terminated content after := by
  cases hload : Schema.load files request.schemaPath with
  | error e =>
    have herror : generate files { request with mode := .write } config = _ :=
      generate_of_load_error hload
    rw [herror]
    exact ⟨content, hread, keep_sublist _ _ _, .inl rfl⟩
  | ok schema =>
    obtain ⟨done, final, hdone, hfold, hfinal⟩ := exists_read_generate hload hread hapart config
    let b : Step := ⟨request.headerPath, .declarations, config.headerMarkers,
      FragmentKind.declarations.lines schema config.functionPrefix⟩
    let c : Step := ⟨request.headerPath, .symbols, config.symbolMarkers,
      FragmentKind.symbols.lines schema config.functionPrefix⟩
    have hfree : ∀ startLine, ∀ line ∈ emitted startLine b.lines,
        ∀ marker ∈ [b.markers.stop, c.markers.start, c.markers.stop],
          isMarker marker line = false := by
      intro startLine line hline marker hmarker
      rw [← Bool.not_eq_true]
      intro hmark
      obtain ⟨plain, hplain, hmark'⟩ :=
        isMarker_emitted (fun _ h => FragmentKind.endsWithReturn_of_mem_lines h) hline hmark
      rw [hclear schema hload .declarations (by simp) plain hplain marker
        (List.mem_cons_of_mem _ hmarker)] at hmark'
      cases hmark'
    obtain ⟨houtside, hterminated⟩ :=
      TwoRegions.linesOutside_sublist (s := b) (u := c) hregions hfree hends hdone hfold
    exact ⟨final, hfinal, houtside, hterminated⟩

/-! ### Two orders of the four markers -/

def twoRegionsConfig : Config where
  headerMarkers := ⟨"A", "B"⟩
  symbolMarkers := ⟨"C", "D"⟩

def twoRegionsRequest : Request := ⟨⟨"d.json"⟩, ⟨"s"⟩, ⟨"t"⟩, .write⟩

def headerFiles (header : String) : FileSystem :=
  (((FileSystem.blank "w").put ["d.json", "w"] (some (.file (.text "[]") true))).put ["s", "w"]
    (some (.file (.text "") true))).put ["t", "w"] (some (.file (.text header) true))

/-- The second region starts inside the first and ends behind it; the last line is not
terminated. -/
def interleavedText : String := "top\nA\nC\nB\r\nmid\nD\nlast"

theorem clear_of_no_functions (kind : FragmentKind) :
    ∀ line ∈ splitLines (joinLines (kind.lines ⟨[]⟩ "lantern_")), ∀ marker ∈ ["A", "B", "C", "D"],
      isMarker marker line = false := by
  cases kind <;> decide +kernel

theorem generate_linesOutside_sublist_interleaved :
    ∃ after, (generate (headerFiles interleavedText) { twoRegionsRequest with mode := .write }
        twoRegionsConfig).files.read twoRegionsRequest.headerPath = .ok after ∧
      (linesOutside [⟨"A", "B"⟩, ⟨"C", "D"⟩] (splitLines interleavedText)).Sublist
        (splitLines after) ∧
      Terminated interleavedText after := by
  have hload : Schema.load (headerFiles interleavedText) twoRegionsRequest.schemaPath = .ok ⟨[]⟩ := by
    decide +kernel
  have hread : (headerFiles interleavedText).read twoRegionsRequest.headerPath =
      .ok interleavedText := by
    decide +kernel
  have hregions : TwoRegions ⟨"A", "B"⟩ ⟨"C", "D"⟩ (splitLines interleavedText) :=
    ⟨by decide, by decide +kernel, by decide +kernel, by decide +kernel⟩
  have hends : ¬ EndsInside ⟨"A", "B"⟩ ⟨"C", "D"⟩ (splitLines interleavedText) := by
    rintro ⟨h, -, -⟩
    revert h
    decide +kernel
  refine generate_linesOutside_sublist hread (by decide +kernel) hregions (.inr hends) ?_
  intro schema hschema kind hkind line hline marker hmarker
  rw [hload, Except.ok.injEq] at hschema
  subst hschema
  exact clear_of_no_functions kind line hline marker hmarker

/-- The second region starts in front of the first and ends inside it. -/
def crossedText : String := "C\nA\nD\nB\nlast\n"

/-- Without its end, the second region takes along the end of the first and all that follows. -/
theorem not_linesOutside_sublist_crossed :
    ¬ ∀ (files : FileSystem) (request : Request) (config : Config) (content : String),
      files.read request.headerPath = .ok content →
      ¬ files.Meet request.sourcePath request.headerPath →
      TwoRegions config.headerMarkers config.symbolMarkers (splitLines content) →
      (∀ schema, Schema.load files request.schemaPath = .ok schema →
        ∀ kind : FragmentKind,
          ∀ line ∈ splitLines (joinLines (kind.lines schema config.functionPrefix)),
            ∀ marker ∈ [config.headerMarkers.start, config.headerMarkers.stop,
              config.symbolMarkers.start, config.symbolMarkers.stop],
              isMarker marker line = false) →
      ∃ after, (generate files { request with mode := .write } config).files.read
          request.headerPath = .ok after ∧
        (linesOutside [config.headerMarkers, config.symbolMarkers] (splitLines content)).Sublist
          (splitLines after) ∧
        Terminated content after := by
  intro h
  have hload : Schema.load (headerFiles crossedText) twoRegionsRequest.schemaPath = .ok ⟨[]⟩ := by
    decide +kernel
  have hread : (headerFiles crossedText).read twoRegionsRequest.headerPath = .ok crossedText := by
    decide +kernel
  have hregions : TwoRegions ⟨"A", "B"⟩ ⟨"C", "D"⟩ (splitLines crossedText) :=
    ⟨by decide, by decide +kernel, by decide +kernel, by decide +kernel⟩
  have hafter : (generate (headerFiles crossedText) { twoRegionsRequest with mode := .write }
      twoRegionsConfig).files.read twoRegionsRequest.headerPath = .ok "C\n  /*\n  */\n" := by
    decide +kernel
  obtain ⟨after, hafter', hsublist, -⟩ := h (headerFiles crossedText) twoRegionsRequest
    twoRegionsConfig crossedText hread (by decide +kernel) hregions (by
      intro schema hschema kind line hline marker hmarker
      rw [hload, Except.ok.injEq] at hschema
      subst hschema
      exact clear_of_no_functions kind line hline marker hmarker)
  obtain rfl := Except.ok.inj (hafter.symm.trans hafter')
  have hlast : "last" ∈ linesOutside [⟨"A", "B"⟩, ⟨"C", "D"⟩] (splitLines crossedText) := by
    decide +kernel
  have hgone : "last" ∉ splitLines "C\n  /*\n  */\n" := by
    decide +kernel
  exact hgone (hsublist.subset hlast)

end Generate

end BindingRegions

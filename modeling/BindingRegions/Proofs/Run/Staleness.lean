import BindingRegions.Proofs.Fragment.Recovery
import BindingRegions.Proofs.Region.Shown
import BindingRegions.Proofs.Run.Session
import BindingRegions.Proofs.Schema.Document

/-! Checks with another schema. Where a check finds all three regions up to date, their
texts show the fragments of its schema. A check with another schema then finds all
regions again, and finds a change just where its fragment tells other bindings
(`generate_check_renewed`): the steps before have put their own lines in other regions, or,
where stubs and declarations share one, lines that differ from the new ones just as the old
ones do. -/

namespace BindingRegions

namespace Workspace

variable {w v : Workspace} {files : FileSystem} {policy : EndMarkerPolicy} {s : Step}
  {path : FilePath} {content after : String} {outcome : Outcome} {group : MarkerPair → Prop}

/-- The text that the workspace has for a path, be it held or in a file. -/
def Has (w : Workspace) (path : FilePath) (content : String) : Prop :=
  ∃ t, w.fetch path = .ok t ∧ t.content = content

theorem Has.unique {content' : String} (h : w.Has path content) (h' : w.Has path content') :
    content = content' := by
  obtain ⟨t, hf, rfl⟩ := h
  obtain ⟨t', hf', rfl⟩ := h'
  rw [hf, Except.ok.injEq] at hf'
  rw [hf']

theorem has_start_iff : Has { files } path content ↔ files.read path = .ok content := by
  constructor
  · rintro ⟨t, hf, rfl⟩
    rw [(lacks_start files path).fetch_eq] at hf
    obtain ⟨hpath, hclean, htracks⟩ := TargetFile.load_eq_ok hf
    rw [TargetFile.Tracks, hpath] at htracks
    rw [htracks, hclean]
  · intro hread
    exact ⟨_, (lacks_start files path).fetch_eq.trans (TargetFile.load_of_read hread), rfl⟩

/-- What is left of a workspace in check mode once it has a new text for the step's target. -/
structure Checked (w v : Workspace) (s : Step) (outcome : Outcome) (after : String) : Prop where
  regions_eq : v.regions = w.regions ++ [s.report outcome]
  has : ∀ path, s.path.same path = true → v.Has path after
  elsewhere : ∀ path, s.path.same path = false → v.fetch path = w.fetch path

theorem checked_hold {t : TargetFile} (hp : t.path.same s.path = true) (hc : t.content = after) :
    Checked w { w with targets := w.hold t, regions := w.regions ++ [s.report outcome] } s outcome
      after where
  regions_eq := rfl
  has path hsame := by
    refine ⟨t, ?_, hc⟩
    rw [fetch, find?_hold_same (FilePath.same_trans hp hsame)]
  elsewhere path hdiff := by
    rw [← FilePath.same_congr hp] at hdiff
    rw [fetch, fetch, find?_hold_other hdiff]

/-- A step in check mode goes by the text. -/
theorem Has.step_check (h : w.Has s.path content)
    (hr : ∀ t : TargetFile, t.content = content →
      t.rewriteRegion s.markers s.lines policy = .ok ({ t with content := after }, outcome)) :
    ∃ v, w.step .check policy s = .ok v ∧ Checked w v s outcome after := by
  obtain ⟨t, hf, hc⟩ := h
  have hp : t.path.same s.path = true := (fetch_eq_ok hf).1
  exact ⟨_, Workspace.step_check hf (hr t hc), checked_hold hp rfl⟩

/-- A step that finds its region up to date. -/
theorem exists_shows_of_step_check (hstep : w.step .check policy s = .ok v)
    (hq : ∀ region ∈ v.regions, region.outcome = .unchanged) :
    ∃ content, w.Has s.path content ∧ Shows policy s.markers s.lines content ∧
      Checked w v s .unchanged content := by
  obtain ⟨t, t', outcome, hf, hr, hregions⟩ := step_eq_ok hstep
  obtain rfl : outcome = .unchanged := hq (s.report outcome) (by simp [hregions])
  obtain ⟨rfl, hshows⟩ := shows_of_unchanged hr
  rw [Workspace.step_check hf hr, Except.ok.injEq] at hstep
  exact ⟨t'.content, ⟨t', hf, rfl⟩, hshows, hstep ▸ checked_hold (fetch_eq_ok hf).1 rfl⟩

/-- The texts that the steps of a check find at source and header: one, if they are the
same target. -/
structure Texts (files : FileSystem) (p q : FilePath) (source header : String) : Prop where
  read_source : files.read p = .ok source
  of_same : p.same q = true → header = source
  read_header : p.same q = false → files.read q = .ok header

/-- A check that finds everything up to date has seen texts that show its lines. -/
theorem exists_shows_of_run_check {a b c : Step}
    (hrun : run .check policy { files } [a, b, c] = (w, none)) (hc : c.path = b.path)
    (hq : ∀ region ∈ w.regions, region.outcome = .unchanged) :
    ∃ source header, Texts files a.path b.path source header ∧
      Shows policy a.markers a.lines source ∧ Shows policy b.markers b.lines header ∧
      Shows policy c.markers c.lines header := by
  have hupto {v : Workspace} {steps : List Step} (h : run .check policy v steps = (w, none)) :
      ∀ region ∈ v.regions, region.outcome = .unchanged := by
    have hearlier := regions_prefix_run .check policy v steps
    rw [h] at hearlier
    exact fun region hregion => hq region (hearlier.subset hregion)
  obtain ⟨v₁, hs₁, hrun₁⟩ := run_cons_eq_none hrun
  obtain ⟨v₂, hs₂, hrun₂⟩ := run_cons_eq_none hrun₁
  obtain ⟨v₃, hs₃, hrun₃⟩ := run_cons_eq_none hrun₂
  obtain ⟨source, hhas₁, hshows₁, hmade₁⟩ := exists_shows_of_step_check hs₁ (hupto hrun₁)
  obtain ⟨header, hhas₂, hshows₂, hmade₂⟩ := exists_shows_of_step_check hs₂ (hupto hrun₂)
  obtain ⟨header', hhas₃, hshows₃, -⟩ := exists_shows_of_step_check hs₃ (hupto hrun₃)
  obtain rfl : header' = header :=
    hhas₃.unique (hmade₂.has c.path (by rw [hc]; exact b.path.same_refl))
  refine ⟨source, header', ⟨has_start_iff.1 hhas₁, fun hsame => ?_, fun hdiff => ?_⟩, hshows₁,
    hshows₂, hshows₃⟩
  · exact hhas₂.unique (hmade₁.has b.path hsame)
  · rw [Has, hmade₁.elsewhere b.path hdiff] at hhas₂
    exact has_start_iff.1 hhas₂

/-- Lines that the regions of three steps show, and lines to be written there instead. The
third region is never the same as another, and where the first two are, the second step
cannot tell the lines it comes upon from those that were there before. -/
structure Renews (group : MarkerPair → Prop) (a b c : Step) (olda oldb oldc : List String) :
    Prop where
  markers : ∀ s ∈ [a, b, c], group s.markers
  inert : ∀ lines ∈ [a.lines, b.lines, c.lines, olda, oldb, oldc], Inert group lines
  apart : olda ≠ oldc ∧ oldb ≠ oldc ∧ a.lines ≠ oldc
  alike : olda = oldb → (b.lines = a.lines ↔ b.lines = oldb)

/-- After the source's step, the header's text shows at the first of its regions what is
there as good as its old lines, and at the other one the old lines. -/
theorem Renews.exists_shows_header {a b c : Step} {olda oldb oldc : List String}
    {source header after : String} (h : Renews group a b c olda oldb oldc)
    (htexts : Texts files a.path b.path source header)
    (hb : Shows policy b.markers oldb header) (hcs : Shows policy c.markers oldc header)
    (hmade : Checked { files } v a outcome after)
    (hothers : ∀ other shown, group other → Inert group shown → Shows policy other shown source →
      Shows policy other shown after ∨ olda = shown ∧ Shows policy other a.lines after) :
    ∃ text shown, v.Has b.path text ∧ Shows policy b.markers shown text ∧
      Shows policy c.markers oldc text ∧ Inert group shown ∧ shown ≠ oldc ∧
      (b.lines = shown ↔ b.lines = oldb) := by
  obtain ⟨hac, hbc, hac'⟩ := h.apart
  cases hsame : a.path.same b.path with
  | false =>
    have hhas : v.Has b.path header := by
      rw [Has, hmade.elsewhere b.path hsame]
      exact has_start_iff.2 (htexts.read_header hsame)
    exact ⟨header, oldb, hhas, hb, hcs, h.inert oldb (by simp), hbc, Iff.rfl⟩
  | true =>
    -- the header's steps come upon what the source's step has left
    have hhas : v.Has b.path after := hmade.has b.path hsame
    rw [htexts.of_same hsame] at hb hcs
    have hcs' : Shows policy c.markers oldc after := by
      rcases hothers _ _ (h.markers c (by simp)) (h.inert oldc (by simp)) hcs with hshows | ⟨heq, -⟩
      · exact hshows
      · exact absurd heq hac
    rcases hothers _ _ (h.markers b (by simp)) (h.inert oldb (by simp)) hb with
      hshows | ⟨heq, hshows⟩
    · exact ⟨after, oldb, hhas, hshows, hcs', h.inert oldb (by simp), hbc, Iff.rfl⟩
    · exact ⟨after, a.lines, hhas, hshows, hcs', h.inert a.lines (by simp), hac', h.alike heq⟩

/-- A check with new lines, where the texts show old ones: every step finds its region, and
finds a change if its own lines differ. -/
theorem Renews.run_check {a b c : Step} {olda oldb oldc : List String} {source header : String}
    (h : Renews group a b c olda oldb oldc) (hc : c.path = b.path)
    (htexts : Texts files a.path b.path source header)
    (ha : Shows policy a.markers olda source) (hb : Shows policy b.markers oldb header)
    (hcs : Shows policy c.markers oldc header) :
    ∃ w, run .check policy { files } [a, b, c] = (w, none) ∧
      w.regions = [a.report (if a.lines = olda then .unchanged else .replaced),
        b.report (if b.lines = oldb then .unchanged else .replaced),
        c.report (if c.lines = oldc then .unchanged else .replaced)] := by
  obtain ⟨after, hrewrite, hothers⟩ :=
    ha.exists_rewrite (h.inert olda (by simp)) (h.inert a.lines (by simp)) (h.markers a (by simp))
  obtain ⟨v₁, hs₁, hmade₁⟩ := (has_start_iff.2 htexts.read_source).step_check hrewrite
  obtain ⟨text, shown, hhas, hshows, hshows', hinert, hne, hiff⟩ :=
    h.exists_shows_header htexts hb hcs hmade₁ hothers
  obtain ⟨after', hrewrite', hothers'⟩ :=
    hshows.exists_rewrite hinert (h.inert b.lines (by simp)) (h.markers b (by simp))
  obtain ⟨v₂, hs₂, hmade₂⟩ := hhas.step_check hrewrite'
  have hlast : Shows policy c.markers oldc after' := by
    rcases hothers' _ _ (h.markers c (by simp)) (h.inert oldc (by simp)) hshows' with hc | ⟨heq, -⟩
    · exact hc
    · exact absurd heq hne
  obtain ⟨after'', hrewrite'', -⟩ := hlast.exists_rewrite (h.inert oldc (by simp))
    (h.inert c.lines (by simp)) (h.markers c (by simp))
  have hhas' : v₂.Has c.path after' := hmade₂.has c.path (by rw [hc]; exact b.path.same_refl)
  obtain ⟨v₃, hs₃, hmade₃⟩ := hhas'.step_check hrewrite''
  refine ⟨v₃, by rw [run_cons_ok hs₁, run_cons_ok hs₂, run_cons_ok hs₃, run_nil], ?_⟩
  rw [hmade₃.regions_eq, hmade₂.regions_eq, hmade₁.regions_eq]
  simp only [hiff, List.nil_append, List.cons_append]

end Workspace

section Generate

/-- No line of the schema's fragments is a marker of any region. -/
def Schema.Markerless (schema : Schema) (config : Config) : Prop :=
  ∀ kind : FragmentKind, ∀ line ∈ kind.lines schema config.functionPrefix,
    ∀ other : FragmentKind, isMarker (config.markers other).start line = false ∧
      isMarker (config.markers other).stop line = false

/-- What the schemas' fragments make of each other: a change, unless they tell the same
bindings, one by one. -/
def FragmentKind.outcome (kind : FragmentKind) (old new : Schema) : Outcome :=
  if new.functions.map (kind.binding ·) = old.functions.map (kind.binding ·) then .unchanged
  else .replaced

/-- The step for a kind of fragment. -/
def Config.step (config : Config) (schema : Schema) (path : FilePath) (kind : FragmentKind) :
    Step :=
  ⟨path, kind, config.markers kind, kind.lines schema config.functionPrefix⟩

variable {files later : FileSystem} {request : Request} {config : Config} {old new : Schema}
  {report : Report}

theorem inert_lines {schema : Schema} (hname : '\n' ∉ config.functionPrefix.toList)
    (hplain : ∀ function ∈ schema.functions, function.Plain) (hmarkers : schema.Markerless config)
    (kind : FragmentKind) :
    Inert (fun markers => ∃ kind, markers = config.markers kind)
      (kind.lines schema config.functionPrefix) where
  single := FragmentKind.newline_not_mem_of_plain hplain hname
  plain _ hline := FragmentKind.endsWithReturn_of_mem_lines hline
  clear := by
    rintro line hline _ ⟨other, rfl⟩
    exact hmarkers kind line hline other

theorem Request.steps_eq (request : Request) (config : Config) (schema : Schema) :
    request.steps config schema =
      [config.step schema request.sourcePath .stubs,
        config.step schema request.headerPath .declarations,
        config.step schema request.headerPath .symbols] := rfl

/-- The steps with the new schema's fragments, where the old one's are shown. -/
theorem renews_steps (hname : '\n' ∉ config.functionPrefix.toList)
    (hplain : ∀ schema ∈ [old, new], ∀ function ∈ schema.functions, function.Plain)
    (hmarkers : ∀ schema ∈ [old, new], schema.Markerless config) (p q : FilePath) :
    Workspace.Renews (fun markers => ∃ kind, markers = config.markers kind)
      (config.step new p .stubs) (config.step new q .declarations) (config.step new q .symbols)
      (FragmentKind.stubs.lines old config.functionPrefix)
      (FragmentKind.declarations.lines old config.functionPrefix)
      (FragmentKind.symbols.lines old config.functionPrefix) := by
  have hinert (schema : Schema) (hschema : schema ∈ [old, new]) (kind : FragmentKind) :=
    inert_lines hname (hplain schema hschema) (hmarkers schema hschema) kind
  have hold := hinert old (by simp)
  have hnew := hinert new (by simp)
  refine ⟨?_, ?_, ⟨?_, ?_, ?_⟩, fun heq => ?_⟩
  · simp only [List.mem_cons, List.not_mem_nil, or_false, forall_eq_or_imp, forall_eq]
    exact ⟨⟨.stubs, rfl⟩, ⟨.declarations, rfl⟩, ⟨.symbols, rfl⟩⟩
  · simp only [List.mem_cons, List.not_mem_nil, or_false, forall_eq_or_imp, forall_eq]
    exact ⟨hnew _, hnew _, hnew _, hold _, hold _, hold _⟩
  · exact FragmentKind.lines_ne_symbols (by decide) _
  · exact FragmentKind.lines_ne_symbols (by decide) _
  · exact FragmentKind.lines_ne_symbols (by decide) _
  · -- the old schema has no functions, and both sides say that the new one has none
    have hempty := (FragmentKind.lines_stubs_eq_declarations_iff.1 heq).1
    have hstubs : (config.step new q .declarations).lines = (config.step new p .stubs).lines ↔
        new.functions = [] := by
      rw [eq_comm, Config.step, Config.step, FragmentKind.lines_stubs_eq_declarations_iff, and_self]
    rw [hstubs, Config.step, FragmentKind.lines_eq_iff _ (hplain new (by simp))
      (hplain old (by simp)), hempty]
    simp

theorem report_outcome
    (hplain : ∀ schema ∈ [old, new], ∀ function ∈ schema.functions, function.Plain)
    (path : FilePath) (kind : FragmentKind) :
    (config.step new path kind).report
        (if (config.step new path kind).lines = kind.lines old config.functionPrefix
          then .unchanged else .replaced) = ⟨path, kind, kind.outcome old new⟩ := by
  simp only [Config.step, Step.report, FragmentKind.outcome,
    kind.lines_eq_iff (hplain new (by simp)) (hplain old (by simp))]

/-- After a check that finds all regions up to date, a check with another schema on the same
texts succeeds, and finds a change in each region just where the schemas tell different
bindings there. -/
theorem generate_check_renewed (schemaPath : FilePath)
    (hold : Schema.load files request.schemaPath = .ok old)
    (hnew : Schema.load later schemaPath = .ok new)
    (hsource : later.read request.sourcePath = files.read request.sourcePath)
    (hheader : later.read request.headerPath = files.read request.headerPath)
    (hname : '\n' ∉ config.functionPrefix.toList)
    (hplain : ∀ schema ∈ [old, new], ∀ function ∈ schema.functions, function.Plain)
    (hmarkers : ∀ schema ∈ [old, new], schema.Markerless config)
    (hresult : (generate files { request with mode := .check } config).result = .ok report)
    (hq : ∀ region ∈ report.regions, region.outcome = .unchanged) :
    (generate later { request with schemaPath, mode := .check } config).result =
      .ok ⟨new.functions.length,
        [⟨request.sourcePath, .stubs, FragmentKind.stubs.outcome old new⟩,
          ⟨request.headerPath, .declarations, FragmentKind.declarations.outcome old new⟩,
          ⟨request.headerPath, .symbols, FragmentKind.symbols.outcome old new⟩]⟩ := by
  let request' : Request := { request with schemaPath, mode := .check }
  obtain ⟨schema, w, hload, hrun, rfl, -⟩ := generate_eq_ok hresult
  obtain rfl : old = schema := Except.ok.inj (hold.symm.trans hload)
  rw [Request.steps_eq] at hrun
  obtain ⟨source, header, htexts, ha, hb, hc⟩ :=
    Workspace.exists_shows_of_run_check hrun rfl hq
  have hlater : Workspace.Texts later request.sourcePath request.headerPath source header :=
    ⟨hsource.trans htexts.read_source, htexts.of_same, fun hdiff =>
      hheader.trans (htexts.read_header hdiff)⟩
  obtain ⟨w', hrun', hregions⟩ :=
    (renews_steps hname hplain hmarkers request.sourcePath request.headerPath).run_check rfl
      hlater ha hb hc
  rw [report_outcome hplain, report_outcome hplain, report_outcome hplain] at hregions
  have hgenerate := generate_of_run request' hnew hrun'
  have hresult' : (generate later request' config).result =
      .ok ⟨new.functions.length, w'.regions⟩ := by
    rw [hgenerate]
    rfl
  rw [hresult', hregions]

/-! ### A function more -/

/-- The fragments of no functions, one of them with carriage returns. -/
def currentText : String := "A\n/*\n*/\na\nB\r\n/*\r\n*/\r\nb\nC\n  /*\n  */\nc\n"

def currentConfig : Config where
  bodyMarkers := ⟨"A", "a"⟩
  headerMarkers := ⟨"B", "b"⟩
  symbolMarkers := ⟨"C", "c"⟩

def currentFiles : FileSystem :=
  (((FileSystem.blank "w").put ["d.json", "w"] (some (.file (.text "[]") true))).put
    ["e.json", "w"] (some (.file (.text renewedText) true))).put
    ["t", "w"] (some (.file (.text currentText) true))

def currentRequest : Request := ⟨⟨"d.json"⟩, ⟨"t"⟩, ⟨"t"⟩, .check⟩

theorem plain_current : ∀ schema ∈ [(⟨[]⟩ : Schema), ⟨[⟨"Foo", []⟩]⟩],
    ∀ function ∈ schema.functions, function.Plain := by
  simp only [List.mem_cons, List.not_mem_nil, or_false, forall_eq_or_imp, forall_eq,
    IsEmpty.forall_iff, implies_true, true_and]
  exact ⟨by decide, by decide, by decide⟩

theorem markerless_current : ∀ schema ∈ [(⟨[]⟩ : Schema), ⟨[⟨"Foo", []⟩]⟩],
    schema.Markerless currentConfig := by
  intro schema hschema kind line hline other
  revert line
  revert schema
  cases kind <;> cases other <;> decide +kernel

theorem generate_check_renewed_current :
    (generate currentFiles { currentRequest with schemaPath := ⟨"e.json"⟩, mode := .check }
      currentConfig).result =
      .ok ⟨1, [⟨⟨"t"⟩, .stubs, .replaced⟩, ⟨⟨"t"⟩, .declarations, .replaced⟩,
        ⟨⟨"t"⟩, .symbols, .replaced⟩]⟩ := by
  have hold : Schema.load currentFiles currentRequest.schemaPath = .ok ⟨[]⟩ := by decide +kernel
  have hnew : Schema.load currentFiles ⟨"e.json"⟩ = .ok ⟨[⟨"Foo", []⟩]⟩ :=
    load_of_renewedText (by decide +kernel) (by decide +kernel)
  have hresult : (generate currentFiles { currentRequest with mode := .check }
      currentConfig).result =
      .ok ⟨0, [⟨⟨"t"⟩, .stubs, .unchanged⟩, ⟨⟨"t"⟩, .declarations, .unchanged⟩,
        ⟨⟨"t"⟩, .symbols, .unchanged⟩]⟩ := by
    decide +kernel
  exact generate_check_renewed ⟨"e.json"⟩ hold hnew rfl rfl (by decide) plain_current
    markerless_current hresult (by decide)

end Generate

end BindingRegions

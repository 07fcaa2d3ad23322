import BindingRegions.Proofs.Run.Session

/-! Runs converge. After a successful write run over regions that can be told apart, a
second run in either mode succeeds, reports no region as replaced and writes nothing.
Source and header may be one target under one spelling, one file under two spellings,
or two files; in the first case the steps share one held target, in the others the
header is loaded after the source is saved. -/

namespace BindingRegions

/-- Two paths stand for one target: as spellings of each other, or by leading to one
file. -/
def FileSystem.OneTarget (files : FileSystem) (p q : FilePath) : Prop :=
  p.same q = true ∨ files.Meet p q

/-- In every file, the regions of the steps that go there have different start markers,
none of which stands on two lines, and none of these steps emits a marker line of
another or its own. -/
structure Untangled (files : FileSystem) (steps : List Step) : Prop where
  distinct : steps.Pairwise fun s t =>
    files.OneTarget s.path t.path → s.markers.start ≠ t.markers.start
  tidy : ∀ s ∈ steps, ∀ content, files.read s.path = .ok content →
    Tidy (fun t => t ∈ steps ∧ files.OneTarget s.path t.path) content

theorem Untangled.start_ne {files : FileSystem} {a b c : Step} (h : Untangled files [a, b, c])
    (hc : c.path = b.path) :
    (files.OneTarget a.path b.path → a.markers.start ≠ b.markers.start) ∧
      (files.OneTarget a.path b.path → a.markers.start ≠ c.markers.start) ∧
      b.markers.start ≠ c.markers.start := by
  have hpairs := h.distinct
  simp only [List.pairwise_cons, List.mem_cons, List.not_mem_nil, or_false, forall_eq_or_imp,
    forall_eq, IsEmpty.forall_iff, implies_true, List.Pairwise.nil, and_true, hc] at hpairs
  obtain ⟨⟨hab, hac⟩, hbc⟩ := hpairs
  exact ⟨hab, hac, hbc (.inl b.path.same_refl)⟩

/-- The file of the source and that of the header hold settled regions. -/
structure Leaves (policy : EndMarkerPolicy) (files : FileSystem) (a b c : Step) : Prop where
  source : ∃ content, files.read a.path = .ok content ∧ Settled policy a content ∧
    (a.path.same b.path = true → Settled policy b content ∧ Settled policy c content)
  header : a.path.same b.path = false → ∃ content, files.read b.path = .ok content ∧
    Settled policy b content ∧ Settled policy c content

namespace Workspace

variable {w w' : Workspace} {files : FileSystem} {policy : EndMarkerPolicy} {mode : Mode}
  {a b c s : Step} {rest : List Step}

/-- The workspace with a target that holds the text just read. -/
def opened (w : Workspace) (path : FilePath) (content : String) : Workspace :=
  { w with targets := w.hold ⟨path, content, content⟩ }

theorem inStep_opened {path : FilePath} {content : String} (h : w.files.read path = .ok content) :
    (w.opened path content).InStep ⟨path, content, content⟩ :=
  ⟨find?_hold_same path.same_refl, h, rfl⟩

theorem sameElsewhere_opened (w : Workspace) (path : FilePath) (content : String) :
    w.SameElsewhere (w.opened path content) path :=
  sameElsewhere_hold w ⟨path, content, content⟩ w.files w.regions

theorem run_opened_iff {content : String} (hl : w.Lacks s.path)
    (hread : w.files.read s.path = .ok content) :
    run mode policy (w.opened s.path content) (s :: rest) = (w', none) ↔
      run mode policy w (s :: rest) = (w', none) := by
  apply run_hold_eq_none
  rw [hl.fetch_eq, TargetFile.load_of_read hread]

theorem forall_same_cons (hp : ∀ u ∈ rest, s.path.same u.path = true) :
    ∀ u ∈ s :: rest, s.path.same u.path = true := by
  intro u hu
  rcases List.mem_cons.1 hu with rfl | hu
  · exact u.path.same_refl
  · exact hp u hu

/-- The first step to a target reads its file. -/
theorem exists_read_of_run (hl : w.Lacks s.path)
    (hrun : run mode policy w (s :: rest) = (w', none)) :
    ∃ content, w.files.read s.path = .ok content := by
  obtain ⟨v, hstep, -⟩ := run_cons_eq_none hrun
  obtain ⟨t, -, -, hf, -⟩ := step_eq_ok hstep
  rw [hl.fetch_eq] at hf
  obtain ⟨hpath, -, htracks⟩ := TargetFile.load_eq_ok hf
  rw [TargetFile.Tracks, hpath] at htracks
  exact ⟨_, htracks⟩

/-- Steps to one target, from its loading on. -/
theorem run_settles_of_lacks (group : Step → Prop) (hl : w.Lacks s.path)
    (hp : ∀ u ∈ rest, s.path.same u.path = true) (hgroup : ∀ u ∈ s :: rest, group u)
    (hne : (s :: rest).Pairwise fun u v => u.markers.start ≠ v.markers.start)
    (htidy : ∀ content, w.files.read s.path = .ok content → Tidy group content)
    (hrun : run .write policy w (s :: rest) = (w', none)) :
    ∃ old new, w.files.read s.path = .ok old ∧ w'.files.read s.path = .ok new ∧
      Tidy group new ∧ (∀ u ∈ s :: rest, Settled policy u new) ∧
      (∀ u, group u → Settled policy u old →
        (∀ v ∈ s :: rest, u.markers.start ≠ v.markers.start) → Settled policy u new) ∧
      w.files.Edits w'.files (w.files.At s.path) ∧ w.SameElsewhere w' s.path := by
  obtain ⟨old, hread⟩ := exists_read_of_run hl hrun
  obtain ⟨t, hpath, hin, htidy', hsettled, hkept, hedits, helse⟩ :=
    (inStep_opened hread).run_settles (forall_same_cons hp) (htidy old hread) hgroup hne
      ((run_opened_iff hl hread).2 hrun)
  have hnew : w'.files.read s.path = .ok t.content := by
    have htracks := hin.tracks
    rw [TargetFile.Tracks, hpath, ← hin.clean] at htracks
    exact htracks
  exact ⟨old, t.content, hread, hnew, htidy', hsettled, hkept, hedits,
    (sameElsewhere_opened w s.path old).trans helse⟩

/-- One target for all three steps. -/
theorem run_leaves_of_same (hc : c.path = b.path) (hu : Untangled files [a, b, c])
    (hsame : a.path.same b.path = true)
    (hrun : run .write policy { files } [a, b, c] = (w', none)) :
    Leaves policy w'.files a b c ∧ files.Edits w'.files (files.At a.path) := by
  have hself : files.OneTarget a.path a.path := .inl a.path.same_refl
  have hone : files.OneTarget a.path b.path := .inl hsame
  obtain ⟨hab, hac, hbc⟩ := hu.start_ne hc
  obtain ⟨old, new, -, hnew, -, hsettled, -, hedits, -⟩ := run_settles_of_lacks _
    (lacks_start files a.path) (by simp [hc, hsame]) (by simp [hc, hself, hone])
    (by simp [hab hone, hac hone, hbc]) (hu.tidy a (by simp)) hrun
  refine ⟨⟨⟨new, hnew, hsettled a (by simp), fun _ => ?_⟩, fun h => ?_⟩, hedits⟩
  · exact ⟨hsettled b (by simp), hsettled c (by simp)⟩
  · rw [hsame] at h
    cases h

/-- Two targets: the header is loaded once the source is saved. -/
theorem run_splits (hu : Untangled files [a, b, c]) (hsame : a.path.same b.path = false)
    (hrun : run .write policy { files } [a, b, c] = (w', none)) :
    ∃ v new, run .write policy v [b, c] = (w', none) ∧ v.Lacks b.path ∧
      v.files.read a.path = .ok new ∧ Settled policy a new ∧
      Tidy (fun t => t ∈ [a, b, c] ∧ files.OneTarget a.path t.path) new ∧
      files.Edits v.files (files.At a.path) := by
  have hself : files.OneTarget a.path a.path := .inl a.path.same_refl
  have hrun : run .write policy { files } ([a] ++ [b, c]) = (w', none) := hrun
  obtain ⟨v, hra, hrb⟩ := run_append_eq_none.1 hrun
  obtain ⟨_, new, -, hnew, htidy, hsettled, -, hedits, helse⟩ := run_settles_of_lacks _
    (lacks_start files a.path) (by simp) (by simp [hself]) (by simp) (hu.tidy a (by simp)) hra
  exact ⟨v, new, hrb, helse.lacks hsame (lacks_start files b.path), hnew, hsettled a (by simp),
    htidy, hedits⟩

/-- Two targets in one file: the header is loaded with the source's region rewritten. -/
theorem run_leaves_of_meet (hc : c.path = b.path) (hu : Untangled files [a, b, c])
    (hsame : a.path.same b.path = false) (hmeet : files.Meet a.path b.path)
    (hrun : run .write policy { files } [a, b, c] = (w', none)) :
    Leaves policy w'.files a b c ∧ files.Edits w'.files (files.At a.path) := by
  have hself : files.OneTarget a.path a.path := .inl a.path.same_refl
  have hone : files.OneTarget a.path b.path := .inr hmeet
  obtain ⟨hab, hac, hbc⟩ := hu.start_ne hc
  obtain ⟨v, text, hrb, hlacks, htext, hsettled, htidy, hedits⟩ := run_splits hu hsame hrun
  have hslash := FileSystem.endsWithSlash_of_read htext
  have hread : ∀ content, v.files.read b.path = .ok content → content = text := by
    intro content hcontent
    have hthere := FileSystem.read_of_meet ((hedits.meet_iff _ _).2 hmeet) hslash hcontent
    rw [htext] at hthere
    exact (Except.ok.inj hthere).symm
  obtain ⟨old, new, hold, hnew, -, hsettled', hkept, hedits', -⟩ := run_settles_of_lacks
    (fun t => t ∈ [a, b, c] ∧ files.OneTarget a.path t.path) hlacks
    (by simp [hc, b.path.same_refl]) (by simp [hc, hone]) (by simp [hbc])
    (fun content h => hread content h ▸ htidy) hrb
  have hall : files.Edits w'.files (files.At a.path) := by
    refine hedits.trans (hedits'.mono fun place hplace => ?_)
    obtain ⟨met, hmeta, hmetb⟩ := hmeet
    rw [hedits.at_eq] at hplace
    exact hmetb.unique hplace ▸ hmeta
  have hsource := FileSystem.read_of_meet ((hall.meet_iff _ _).2 hmeet) hslash hnew
  refine ⟨⟨⟨new, hsource, ?_, fun h => ?_⟩, fun _ => ?_⟩, hall⟩
  · refine hkept a (by simp [hself]) ?_ (by simp [hab hone, hac hone])
    rw [hread old hold]
    exact hsettled
  · rw [hsame] at h
    cases h
  · exact ⟨new, hnew, hsettled' b (by simp), hsettled' c (by simp)⟩

/-- Two targets in two files. -/
theorem run_leaves_of_apart (hc : c.path = b.path) (hu : Untangled files [a, b, c])
    (hsame : a.path.same b.path = false) (hapart : ¬ files.Meet a.path b.path)
    (hrun : run .write policy { files } [a, b, c] = (w', none)) :
    Leaves policy w'.files a b c ∧
      files.Edits w'.files (fun place => files.At a.path place ∨ files.At b.path place) := by
  have hself : files.OneTarget b.path b.path := .inl b.path.same_refl
  obtain ⟨-, -, hbc⟩ := hu.start_ne hc
  obtain ⟨v, text, hrb, hlacks, htext, hsettled, -, hedits⟩ := run_splits hu hsame hrun
  have hread : v.files.read b.path = files.read b.path :=
    hedits.read_eq fun place hb ha => hapart ⟨place, ha, hb⟩
  obtain ⟨_, new, -, hnew, -, hsettled', -, hedits', -⟩ := run_settles_of_lacks
    (fun t => t ∈ [a, b, c] ∧ files.OneTarget b.path t.path) hlacks
    (by simp [hc, b.path.same_refl]) (by simp [hc, hself]) (by simp [hbc])
    (fun content h => hu.tidy b (by simp) content (hread ▸ h)) hrb
  have hsource : w'.files.read a.path = .ok text := by
    rw [hedits'.read_eq fun place ha hb => ?_]
    · exact htext
    · rw [hedits.at_eq] at ha hb
      exact hapart ⟨place, ha, hb⟩
  refine ⟨⟨⟨text, hsource, hsettled, fun h => ?_⟩, fun _ => ?_⟩, ?_⟩
  · rw [hsame] at h
    cases h
  · exact ⟨new, hnew, hsettled' b (by simp), hsettled' c (by simp)⟩
  · refine (hedits.mono fun _ => .inl).trans (hedits'.mono fun place hplace => .inr ?_)
    rw [hedits.at_eq] at hplace
    exact hplace

/-- A successful write run leaves all its regions settled. -/
theorem run_leaves (hc : c.path = b.path) (hu : Untangled files [a, b, c])
    (hrun : run .write policy { files } [a, b, c] = (w', none)) :
    Leaves policy w'.files a b c ∧
      files.Edits w'.files (fun place => files.At a.path place ∨ files.At b.path place) := by
  cases hsame : a.path.same b.path with
  | true =>
    obtain ⟨hleaves, hedits⟩ := run_leaves_of_same hc hu hsame hrun
    exact ⟨hleaves, hedits.mono fun _ => .inl⟩
  | false =>
    by_cases hmeet : files.Meet a.path b.path
    · obtain ⟨hleaves, hedits⟩ := run_leaves_of_meet hc hu hsame hmeet hrun
      exact ⟨hleaves, hedits.mono fun _ => .inl⟩
    · exact run_leaves_of_apart hc hu hsame hmeet hrun

/-! ### The second run -/

/-- Steps to a file with settled regions. -/
theorem run_of_settled_file {content : String} (hl : w.Lacks s.path)
    (hread : w.files.read s.path = .ok content) (hp : ∀ u ∈ rest, s.path.same u.path = true)
    (hsettled : ∀ u ∈ s :: rest, Settled policy u content) (mode : Mode) :
    ∃ w' regions, run mode policy w (s :: rest) = (w', none) ∧ w'.files = w.files ∧
      w.SameElsewhere w' s.path ∧ w'.regions = w.regions ++ regions ∧ Quiet regions := by
  obtain ⟨w', regions, hrun, hfiles, -, helse, hregions, hquiet⟩ :=
    run_of_settled (inStep_opened hread).holds rfl (forall_same_cons hp) hsettled mode
  exact ⟨w', regions, (run_opened_iff hl hread).1 hrun, hfiles,
    (sameElsewhere_opened w s.path content).trans helse, hregions, hquiet⟩

/-- Where everything is settled, a run in either mode replaces nothing and writes
nothing. -/
theorem run_of_leaves (hc : c.path = b.path) (h : Leaves policy files a b c) (mode : Mode) :
    ∃ w', run mode policy { files } [a, b, c] = (w', none) ∧ w'.files = files ∧
      Quiet w'.regions := by
  obtain ⟨content, hread, ha, hboth⟩ := h.source
  cases hsame : a.path.same b.path with
  | true =>
    obtain ⟨hb, hc'⟩ := hboth hsame
    have hpaths : ∀ u ∈ [b, c], a.path.same u.path = true := by simp [hc, hsame]
    have hall : ∀ u ∈ [a, b, c], Settled policy u content := by simp [ha, hb, hc']
    obtain ⟨w', regions, hrun, hfiles, -, hregions, hquiet⟩ :=
      run_of_settled_file (lacks_start files a.path) hread hpaths hall mode
    exact ⟨w', hrun, hfiles, by simpa [hregions] using hquiet⟩
  | false =>
    obtain ⟨header, hheader, hb, hc'⟩ := h.header hsame
    have hsource : ∀ u ∈ [a], Settled policy u content := by simp [ha]
    have hpaths : ∀ u ∈ [c], b.path.same u.path = true := by simp [hc, b.path.same_refl]
    have hboth' : ∀ u ∈ [b, c], Settled policy u header := by simp [hb, hc']
    obtain ⟨v, first, hra, hvfiles, helse, hfirst, hquiet⟩ :=
      run_of_settled_file (lacks_start files a.path) hread (by simp) hsource mode
    have hvread : v.files.read b.path = .ok header := by
      rw [hvfiles]
      exact hheader
    obtain ⟨w', second, hrb, hfiles, -, hsecond, hquiet'⟩ := run_of_settled_file
      (helse.lacks hsame (lacks_start files b.path)) hvread hpaths hboth' mode
    refine ⟨w', run_append_eq_none.2 ⟨v, hra, hrb⟩, hfiles.trans hvfiles, ?_⟩
    rw [hsecond, hfirst]
    exact hquiet.append hquiet'

end Workspace

section Generate

variable {files : FileSystem} {request : Request} {config : Config} {report : Report}

/-- After a write run that succeeds, a run in either mode succeeds too, replaces no region
and leaves all files as they are. -/
theorem generate_again (hsource : ¬ files.Meet request.schemaPath request.sourcePath)
    (hheader : ¬ files.Meet request.schemaPath request.headerPath)
    (huntangled : ∀ schema, Schema.load files request.schemaPath = .ok schema →
      Untangled files (request.steps config schema))
    (hfirst : (generate files { request with mode := .write } config).result = .ok report)
    (mode : Mode) :
    let first := generate files { request with mode := .write } config
    let second := generate first.files { request with mode } config
    ∃ again, second.result = .ok again ∧ Quiet again.regions ∧ second.files = first.files := by
  intro first second
  obtain ⟨schema, w, hload, hrun, -, hfiles⟩ := generate_eq_ok hfirst
  have hrun : Workspace.run .write config.endMarkerPolicy { files }
    (request.steps config schema) = (w, none) := hrun
  have hu := huntangled schema hload
  obtain ⟨a, b, c, hsteps, ha, hb, hc⟩ := request.exists_steps_eq config schema
  rw [hsteps] at hrun hu
  obtain ⟨hleaves, hedits⟩ := Workspace.run_leaves hc hu hrun
  have hread : w.files.read request.schemaPath = files.read request.schemaPath := by
    refine hedits.read_eq fun place hschema hplace => ?_
    rw [ha, hb] at hplace
    rcases hplace with hplace | hplace
    · exact hsource ⟨place, hschema, hplace⟩
    · exact hheader ⟨place, hschema, hplace⟩
  have hload' : Schema.load w.files request.schemaPath = .ok schema :=
    (Schema.load_congr hread).trans hload
  obtain ⟨w', hrun', hfiles', hquiet⟩ := Workspace.run_of_leaves hc hleaves mode
  rw [← hsteps] at hrun'
  have hsecond := generate_of_run { request with mode } hload' hrun'
  have hfirst' : first.files = w.files := hfiles
  have hresult : second.result = .ok ⟨schema.functions.length, w'.regions⟩ := by
    simp only [second, hfirst', hsecond, Option.elim_none]
  refine ⟨_, hresult, hquiet, ?_⟩
  simp only [second, hfirst', hsecond, hfiles']

/-! ### Nested regions in one file -/

/-- Three regions, each in the next one, and two end markers missing. -/
def nestedText : String := "C\nB\nA\r\na\n"

def nestedConfig : Config where
  bodyMarkers := ⟨"A", "a"⟩
  headerMarkers := ⟨"B", "b"⟩
  symbolMarkers := ⟨"C", "c"⟩

def nestedFiles : FileSystem :=
  ((FileSystem.blank "w").put ["d.json", "w"] (some (.file (.text "[]") true))).put ["t", "w"]
    (some (.file (.text nestedText) true))

def nestedRequest : Request := ⟨⟨"d.json"⟩, ⟨"t"⟩, ⟨"./t"⟩, .write⟩

theorem load_nested : Schema.load nestedFiles nestedRequest.schemaPath = .ok ⟨[]⟩ := by
  decide +kernel

def nestedSteps : List Step :=
  [⟨⟨"t"⟩, .stubs, ⟨"A", "a"⟩, ["/*", "*/"]⟩, ⟨⟨"./t"⟩, .declarations, ⟨"B", "b"⟩, ["/*", "*/"]⟩,
    ⟨⟨"./t"⟩, .symbols, ⟨"C", "c"⟩, ["  /*", "  */"]⟩]

theorem steps_nested : nestedRequest.steps nestedConfig ⟨[]⟩ = nestedSteps := rfl

/-- Steps of one file are untangled if they are so line by line. -/
theorem untangled_of_lines {steps : List Step} {text : String}
    (hread : ∀ s ∈ steps, files.read s.path = .ok text)
    (hdistinct : steps.Pairwise fun s t => s.markers.start ≠ t.markers.start)
    (honce : ∀ s ∈ steps, (Text.splitLines text).countP (isMarker s.markers.start) ≤ 1)
    (hclear : ∀ s ∈ steps, ∀ startLine ∈ Text.splitLines text,
      isMarker s.markers.start startLine = true → ∀ line ∈ emitted startLine s.lines, ∀ t ∈ steps,
        isMarker t.markers.start line = false ∧ isMarker t.markers.stop line = false) :
    Untangled files steps := by
  refine ⟨hdistinct.imp (by intro s t h _; exact h), fun s hs content hcontent => ?_⟩
  obtain rfl : text = content := Except.ok.inj ((hread s hs).symm.trans hcontent)
  exact ⟨fun t ht => honce t ht.1, fun t ht startLine hline hmark line hmem u hu =>
    hclear t ht.1 startLine hline hmark line hmem u hu.1⟩

theorem untangled_nested : Untangled nestedFiles nestedSteps := by
  have hread : ∀ s ∈ nestedSteps, nestedFiles.read s.path = .ok nestedText := by
    decide +kernel
  exact untangled_of_lines hread (by decide +kernel) (by decide +kernel) (by decide +kernel)

theorem generate_again_nested :
    let first := generate nestedFiles nestedRequest nestedConfig
    let second := generate first.files { nestedRequest with mode := .check } nestedConfig
    ∃ again, second.result = .ok again ∧ Quiet again.regions ∧ second.files = first.files := by
  have hresult : (generate nestedFiles { nestedRequest with mode := .write } nestedConfig).result =
      .ok ⟨0, [⟨⟨"t"⟩, .stubs, .replaced⟩, ⟨⟨"./t"⟩, .declarations, .replaced⟩,
        ⟨⟨"./t"⟩, .symbols, .replaced⟩]⟩ := by
    decide +kernel
  have huntangled (schema : Schema)
      (h : Schema.load nestedFiles nestedRequest.schemaPath = .ok schema) :
      Untangled nestedFiles (nestedRequest.steps nestedConfig schema) := by
    rw [load_nested, Except.ok.injEq] at h
    rw [← h, steps_nested]
    exact untangled_nested
  exact generate_again (by decide +kernel) (by decide +kernel) huntangled hresult .check

end Generate

end BindingRegions

import BindingRegions.Proofs.Files.Spelling
import BindingRegions.Proofs.Run.CheckMode
import BindingRegions.Proofs.Run.Reread

/-! Runs on the same files under other paths. Where two workspaces find the same text
under two paths of a file (`Workspace.Twins`), a step does the same in both, and so do
the steps after it that go there. The header's first step is where two runs can part:
one may hold the file already, as the source under a path that is the same, while the
other has to load it. That makes no difference as long as what is held is what the
file has, so in write mode, and in check mode if the stubs were up to date
(`generate_respelled`); otherwise it does (`not_outline_respelled`). -/

namespace BindingRegions

/-- What a report says, but for the path. -/
def RegionReport.finding (region : RegionReport) : FragmentKind × Outcome :=
  (region.kind, region.outcome)

def Progress.finding? : Progress → Option (FragmentKind × Outcome)
  | .schemaLoaded _ _ => none
  | .region report => some report.finding

/-- What a run has found, step by step. -/
def Run.findings (run : Run) : List (FragmentKind × Outcome) :=
  run.progress.filterMap (·.finding?)

/-- A run without its paths: what it has found on the way, and how it ended, with the
findings of its report or the kind of its error. -/
def Run.outline (run : Run) :
    List (FragmentKind × Outcome) × Except ErrorKind (Nat × List (FragmentKind × Outcome)) :=
  (run.findings, match run.result with
    | .ok report => .ok (report.functionCount, report.regions.map (·.finding))
    | .error e => .error e.kind)

namespace TargetFile

variable {files : FileSystem} {t u : TargetFile}

/-- Two targets with the same texts, under two paths of one file. -/
structure Twin (files : FileSystem) (t u : TargetFile) : Prop where
  content_eq : u.content = t.content
  onDisk_eq : u.onDisk = t.onDisk
  sameFile : files.SameFile t.path u.path
  tracks : t.Tracks files

theorem Twin.symm (h : Twin files t u) : Twin files u t where
  content_eq := h.content_eq.symm
  onDisk_eq := h.onDisk_eq.symm
  sameFile := h.sameFile.symm
  tracks := by
    rw [Tracks, h.sameFile.read_eq, h.onDisk_eq]
    exact h.tracks

theorem Twin.rewriteRegion (h : Twin files t u) (markers : MarkerPair)
    (replacement : List String) (policy : EndMarkerPolicy) :
    (∃ e e', t.rewriteRegion markers replacement policy = .error e ∧
        u.rewriteRegion markers replacement policy = .error e' ∧ e'.kind = e.kind) ∨
      ∃ t' u' outcome, t.rewriteRegion markers replacement policy = .ok (t', outcome) ∧
        u.rewriteRegion markers replacement policy = .ok (u', outcome) ∧ Twin files t' u' ∧
        t'.path = t.path ∧ u'.path = u.path := by
  rcases rewriteRegion_of_content_eq h.content_eq markers replacement policy with
    ⟨ht, hu⟩ | ⟨content, outcome, ht, hu⟩
  · exact .inl ⟨_, _, ht, hu, rfl⟩
  · exact .inr ⟨_, _, outcome, ht, hu, ⟨rfl, h.onDisk_eq, h.sameFile, h.tracks⟩, rfl, rfl⟩

theorem Twin.save (h : Twin files t u) :
    (∃ e e', t.save files = .error e ∧ u.save files = .error e' ∧ e'.kind = e.kind) ∨
      ∃ wrote after, t.save files = .ok (t.saved, wrote, after) ∧
        u.save files = .ok (u.saved, wrote, after) ∧ Twin after t.saved u.saved := by
  have hdirty : u.content = u.onDisk ↔ t.content = t.onDisk := by
    rw [h.content_eq, h.onDisk_eq]
  have hwrite : files.write u.path u.content = files.write t.path t.content := by
    rw [h.content_eq, h.sameFile.write_eq]
  have htwin {wrote : Bool} {after : FileSystem} (hs : t.save files = .ok (t.saved, wrote, after)) :
      Twin after t.saved u.saved := by
    obtain ⟨-, htracks, hedits⟩ := save_eq_ok h.tracks hs
    exact ⟨h.content_eq, h.content_eq, h.sameFile.edits hedits, htracks⟩
  by_cases hc : t.content = t.onDisk
  · have ht : t.save files = .ok (t.saved, false, files) := by
      rw [save_of_clean hc, saved_eq_self hc]
    have hu : u.save files = .ok (u.saved, false, files) := by
      rw [save_of_clean (hdirty.2 hc), saved_eq_self (hdirty.2 hc)]
    exact .inr ⟨false, files, ht, hu, htwin ht⟩
  · have hc' : ¬ u.content = u.onDisk := fun hu => hc (hdirty.1 hu)
    cases hw : files.write t.path t.content with
    | error fault =>
      exact .inl ⟨_, _, save_of_write_error hc hw, save_of_write_error hc' (hwrite.trans hw), rfl⟩
    | ok after =>
      have ht := save_of_write hc hw
      exact .inr ⟨true, after, ht, save_of_write hc' (hwrite.trans hw), htwin ht⟩

end TargetFile

namespace Workspace

open TargetFile (Twin)

variable {v v' w w' : Workspace} {files : FileSystem} {p q path : FilePath} {mode : Mode}
  {policy : EndMarkerPolicy} {s : Step} {steps : List Step} {t u : TargetFile}

/-- Under their paths, the workspaces find the same text of one file, or they both cannot
read it. -/
inductive FetchTwins (w w' : Workspace) (p q : FilePath) : Prop
  | error {e e' : Error} : w.fetch p = .error e → w'.fetch q = .error e' → e'.kind = e.kind →
    FetchTwins w w' p q
  | ok {t u : TargetFile} : w.fetch p = .ok t → w'.fetch q = .ok u → Twin w.files t u →
    FetchTwins w w' p q

/-- The workspaces have come equally far: with the same files and the same findings. -/
structure Level (w w' : Workspace) : Prop where
  files_eq : w'.files = w.files
  findings_eq : w'.regions.map (·.finding) = w.regions.map (·.finding)

theorem FetchTwins.symm (h : FetchTwins w w' p q) (hfiles : w'.files = w.files) :
    FetchTwins w' w q p := by
  cases h with
  | error hp hq hkind => exact .error hq hp hkind.symm
  | ok hp hq htwin => exact .ok hq hp (hfiles ▸ htwin.symm)

theorem fetchTwins_of_lacks (hfiles : w'.files = w.files) (hp : w.Lacks p) (hq : w'.Lacks q)
    (h : w.files.SameFile p q) : FetchTwins w w' p q := by
  have hread : w'.files.read q = w.files.read p := by rw [hfiles, h.read_eq]
  cases hr : w.files.read p with
  | error fault =>
    have hwp : w.fetch p = .error (.targetFile p fault) := by
      rw [hp.fetch_eq, TargetFile.load, hr]
    have hwq : w'.fetch q = .error (.targetFile q fault) := by
      rw [hq.fetch_eq, TargetFile.load, hread, hr]
    exact .error hwp hwq rfl
  | ok text =>
    have hwp : w.fetch p = .ok ⟨p, text, text⟩ := by
      rw [hp.fetch_eq, TargetFile.load_of_read hr]
    have hwq : w'.fetch q = .ok ⟨q, text, text⟩ := by
      rw [hq.fetch_eq, TargetFile.load_of_read (hread.trans hr)]
    exact .ok hwp hwq ⟨rfl, rfl, h, hr⟩

/-- What is held is as good as loaded, as long as it is what the file has. -/
theorem InStep.fetchTwins_of_lacks (h : w.InStep t) (hsame : t.path.same p = true)
    (hfiles : w'.files = w.files) (hq : w'.Lacks q) (hfile : w.files.SameFile p q) :
    FetchTwins w w' p q := by
  have hpath : w.files.SameFile t.path q := hfile.of_same hsame h.tracks
  have hwq : w'.fetch q = .ok ⟨q, t.onDisk, t.onDisk⟩ := by
    rw [hq.fetch_eq, hfiles, TargetFile.load_of_read (hpath.read_eq.trans h.tracks)]
  exact .ok (h.holds.fetch_eq hsame) hwq ⟨h.clean.symm, rfl, hpath, h.tracks⟩

/-- What is left of two workspaces once each has made its step: they are level, and each
holds its target, which is one of two twins. -/
structure Made (w v w' v' : Workspace) (p q : FilePath) (t u : TargetFile) : Prop where
  level : Level v v'
  same : t.path.same p = true
  same' : u.path.same q = true
  holds : v.Holds t
  holds' : v'.Holds u
  twin : Twin v.files t u
  edits : w.files.Edits v.files (w.files.At t.path)
  elsewhere : w.SameElsewhere v t.path
  elsewhere' : w'.SameElsewhere v' u.path

theorem Made.fetchTwins {p' q' : FilePath} (h : Made w v w' v' p q t u) (hp : p.same p' = true)
    (hq : q.same q' = true) : FetchTwins v v' p' q' :=
  .ok (h.holds.fetch_eq (FilePath.same_trans h.same hp))
    (h.holds'.fetch_eq (FilePath.same_trans h.same' hq)) h.twin

theorem made_hold {after after' : FileSystem} {outcome : Outcome} (hlevel : Level w w')
    (hp : t.path.same s.path = true) (hq : u.path.same q = true) (hafter : after' = after)
    (htwin : Twin after t u) (hedits : w.files.Edits after (w.files.At t.path)) :
    Made w { files := after, targets := w.hold t, regions := w.regions ++ [s.report outcome] }
      w' { files := after', targets := w'.hold u,
           regions := w'.regions ++ [(s.spelled q).report outcome] } s.path q t u where
  level := ⟨hafter, by rw [List.map_append, List.map_append, hlevel.findings_eq]; rfl⟩
  same := hp
  same' := hq
  holds := find?_hold_same t.path.same_refl
  holds' := find?_hold_same u.path.same_refl
  twin := htwin
  edits := hedits
  elsewhere := sameElsewhere_hold _ _ _ _
  elsewhere' := sameElsewhere_hold _ _ _ _

/-- A step ends the same way in both workspaces. -/
theorem FetchTwins.step (h : FetchTwins w w' s.path q) (hlevel : Level w w') (mode : Mode)
    (policy : EndMarkerPolicy) :
    (∃ e e', w.step mode policy s = .error e ∧ w'.step mode policy (s.spelled q) = .error e' ∧
        e'.kind = e.kind) ∨
      ∃ v v' t u, w.step mode policy s = .ok v ∧ w'.step mode policy (s.spelled q) = .ok v' ∧
        Made w v w' v' s.path q t u := by
  cases h with
  | error hp hq hkind =>
    exact .inl ⟨_, _, step_of_fetch_error hp, step_of_fetch_error hq, hkind⟩
  | @ok t u hp hq htwin =>
    have hsame : t.path.same s.path = true := (fetch_eq_ok hp).1
    have hsame' : u.path.same q = true := (fetch_eq_ok hq).1
    rcases htwin.rewriteRegion s.markers s.lines policy with
      ⟨e, e', hr, hr', hkind⟩ | ⟨t', u', outcome, hr, hr', htwin', hpath, hpath'⟩
    · exact .inl ⟨e, e', step_of_rewrite_error hp hr, step_of_rewrite_error hq hr', hkind⟩
    · rw [← hpath] at hsame
      rw [← hpath'] at hsame'
      cases mode with
      | check =>
        exact .inr ⟨_, _, t', u', step_check hp hr, step_check hq hr',
          made_hold hlevel hsame hsame' hlevel.files_eq htwin' (.refl _ _)⟩
      | write =>
        rcases htwin'.save with ⟨e, e', hs, hs', hkind⟩ | ⟨wrote, after, hs, hs', hsaved⟩ <;>
          rw [← hlevel.files_eq] at hs'
        · exact .inl ⟨e, e', step_of_save_error hp hr hs, step_of_save_error hq hr' hs', hkind⟩
        · have hedits := (TargetFile.save_eq_ok htwin'.tracks hs).2.2
          exact .inr ⟨_, _, t'.saved, u'.saved, step_write hp hr hs, step_write hq hr' hs',
            made_hold hlevel hsame hsame' rfl hsaved hedits⟩

/-- Two runs that come equally far, and fail with the same kind of error if they fail. -/
structure EndLevel (x y : Workspace × Option Error) : Prop where
  level : Level x.1 y.1
  kind_eq : y.2.map (·.kind) = x.2.map (·.kind)

/-- Steps that go to one target end the same way in both workspaces. -/
theorem FetchTwins.run (h : FetchTwins w w' p q) (hlevel : Level w w')
    (hp : ∀ s ∈ steps, s.path = p) (mode : Mode) (policy : EndMarkerPolicy) :
    EndLevel (run mode policy w steps) (run mode policy w' (steps.map (·.spelled q))) := by
  induction steps generalizing w w' with
  | nil => exact ⟨hlevel, rfl⟩
  | cons s rest ih =>
    obtain rfl : s.path = p := hp s (by simp)
    rw [List.map_cons]
    rcases h.step hlevel mode policy with
      ⟨e, e', hs, hs', hkind⟩ | ⟨v, v', t, u, hs, hs', hmade⟩
    · rw [run_cons_error hs, run_cons_error hs']
      exact ⟨hlevel, by simp [hkind]⟩
    · rw [run_cons_ok hs, run_cons_ok hs']
      exact ih (hmade.fetchTwins s.path.same_refl q.same_refl) hmade.level
        fun x hx => hp x (by simp [hx])

/-- After the source's step, the header's target is the same for both: held by both, or to
be loaded by both, or held by one of them as it is in the file. -/
theorem Made.fetchTwins_header {header header' : FilePath}
    (h : Made { files } v { files } v' p q t u) (hheader : files.SameFile header header')
    (hclean : p.same header = q.same header' ∨ t.content = t.onDisk) :
    FetchTwins v v' header header' := by
  have hfile : v.files.SameFile header header' := hheader.edits h.edits
  have hlacks : p.same header = false → v.Lacks header := fun hp =>
    h.elsewhere.lacks (by rwa [FilePath.same_congr h.same]) (lacks_start files header)
  have hlacks' : q.same header' = false → v'.Lacks header' := fun hq =>
    h.elsewhere'.lacks (by rwa [FilePath.same_congr h.same']) (lacks_start files header')
  -- neither workspace holds the header's target yet, or the second, or the first, or both do
  cases hp : p.same header <;> cases hq : q.same header' <;>
    simp only [hp, hq, reduceCtorEq, false_or, true_or] at hclean
  · exact fetchTwins_of_lacks h.level.files_eq (hlacks hp) (hlacks' hq) hfile
  · have hin : v'.InStep u := ⟨h.holds', h.level.files_eq ▸ h.twin.symm.tracks,
      by rw [h.twin.content_eq, h.twin.onDisk_eq, hclean]⟩
    have hsame : u.path.same header' = true := FilePath.same_trans h.same' hq
    refine FetchTwins.symm ?_ h.level.files_eq.symm
    refine hin.fetchTwins_of_lacks hsame h.level.files_eq.symm (hlacks hp) ?_
    rw [h.level.files_eq]
    exact hfile.symm
  · have hin : v.InStep t := ⟨h.holds, h.twin.tracks, hclean⟩
    have hsame : t.path.same header = true := FilePath.same_trans h.same hp
    exact hin.fetchTwins_of_lacks hsame h.level.files_eq (hlacks' hq) hfile
  · exact h.fetchTwins hp hq

/-- Three steps from the start, the last two for one target. -/
theorem run_respelled {a b c : Step} {source header : FilePath} (hc : c.path = b.path)
    (hsource : files.SameFile a.path source) (hheader : files.SameFile b.path header)
    (h : mode = .write ∨ a.path.same b.path = source.same header ∨
      (a.kind, .replaced) ∉ (run mode policy { files } [a, b, c]).1.regions.map (·.finding)) :
    EndLevel (run mode policy { files } [a, b, c])
      (run mode policy { files } [a.spelled source, b.spelled header, c.spelled header]) := by
  have hstart : FetchTwins { files } { files } a.path source :=
    fetchTwins_of_lacks rfl (lacks_start files _) (lacks_start files _) hsource
  have hlevel : Level { files } { files } := ⟨rfl, rfl⟩
  rcases hstart.step hlevel mode policy with
    ⟨e, e', hs, hs', hkind⟩ | ⟨v, v', t, u, hs, hs', hmade⟩
  · rw [run_cons_error hs, run_cons_error hs']
    exact ⟨hlevel, by simp [hkind]⟩
  · rw [run_cons_ok hs] at h ⊢
    rw [run_cons_ok hs']
    have hclean : a.path.same b.path = source.same header ∨ t.content = t.onDisk := by
      have hheld : v.Clean → t.content = t.onDisk := fun hv =>
        hv t (List.mem_of_find?_eq_some hmade.holds)
      rcases h with rfl | hsame | hquiet
      · exact .inr (hheld ((clean_start files).step_write hs))
      · exact .inl hsame
      · refine .inr (hheld ((clean_start files).step hs ?_ mode).2.1)
        obtain ⟨-, -, outcome, -, -, hregions⟩ := step_eq_ok hs
        have hearlier := regions_prefix_run mode policy v [b, c]
        intro region hregion hreplaced
        refine hquiet (List.mem_map.2 ⟨region, hearlier.subset hregion, ?_⟩)
        rw [hregions] at hregion
        simp only [List.nil_append, List.mem_singleton] at hregion
        rw [RegionReport.finding, hreplaced, hregion]
        rfl
    exact (hmade.fetchTwins_header hheader hclean).run hmade.level (by simp [hc]) mode policy

end Workspace

section Generate

variable {files : FileSystem} {request : Request} {config : Config} {source header : FilePath}

theorem outline_of_run (request : Request) {schema : Schema} {w : Workspace}
    {failure : Option Error} (hl : Schema.load files request.schemaPath = .ok schema)
    (hr : Workspace.run request.mode config.endMarkerPolicy { files }
      (request.steps config schema) = (w, failure)) :
    (generate files request config).findings = w.regions.map (·.finding) ∧
      (generate files request config).outline = (w.regions.map (·.finding),
        (failure.map (·.kind)).elim (.ok (schema.functions.length, w.regions.map (·.finding)))
          .error) := by
  have hfindings : (generate files request config).findings = w.regions.map (·.finding) := by
    rw [generate_of_run request hl hr, Run.findings, List.filterMap_cons_none rfl,
      List.filterMap_map, ← List.filterMap_eq_map]
    rfl
  refine ⟨hfindings, ?_⟩
  rw [Run.outline, hfindings, generate_of_run request hl hr]
  cases failure <;> rfl

/-- Runs whose targets are the same files find and leave the same, if they write, or if
their paths are the same target in both or in neither, or if the stubs are not replaced. -/
theorem generate_respelled_of (hsource : files.SameFile request.sourcePath source)
    (hheader : files.SameFile request.headerPath header)
    (h : request.mode = .write ∨ request.sourcePath.same request.headerPath = source.same header ∨
      (.stubs, .replaced) ∉ (generate files request config).findings) :
    let run' := generate files { request with sourcePath := source, headerPath := header } config
    run'.files = (generate files request config).files ∧
      run'.outline = (generate files request config).outline := by
  let request' : Request := { request with sourcePath := source, headerPath := header }
  cases hload : Schema.load files request.schemaPath with
  | error e =>
    have hrun : generate files request config = ⟨.error e, [], files⟩ :=
      generate_of_load_error hload
    have hrun' : generate files request' config = ⟨.error e, [], files⟩ :=
      generate_of_load_error hload
    rw [hrun, hrun']
    exact ⟨rfl, rfl⟩
  | ok schema =>
    rcases hw : Workspace.run request.mode config.endMarkerPolicy { files }
      (request.steps config schema) with ⟨w, failure⟩
    rcases hw' : Workspace.run request'.mode config.endMarkerPolicy { files }
      (request'.steps config schema) with ⟨w', failure'⟩
    obtain ⟨hfindings, houtline⟩ := outline_of_run request hload hw
    have houtline' := (outline_of_run request' hload hw').2
    have hend : Workspace.EndLevel
        (Workspace.run request.mode config.endMarkerPolicy { files } (request.steps config schema))
        (Workspace.run request'.mode config.endMarkerPolicy { files }
          (request'.steps config schema)) := by
      refine Workspace.run_respelled rfl hsource hheader (h.imp_right fun h => h.imp_right ?_)
      rw [hfindings, ← Request.steps, hw]
      exact id
    rw [hw, hw'] at hend
    obtain ⟨⟨hfiles, hsame⟩, hkind⟩ := hend
    refine ⟨?_, ?_⟩
    · rw [generate_of_run request hload hw, generate_of_run request' hload hw']
      exact hfiles
    · rw [houtline, houtline', hsame, hkind]

/-- Runs whose targets are the same files leave the same files. They find and end the same,
too, if they write, or if their paths are the same target in both or in neither, or if the
stubs are not replaced. -/
theorem generate_respelled (hsource : files.SameFile request.sourcePath source)
    (hheader : files.SameFile request.headerPath header) (config : Config) :
    let run := generate files request config
    let run' := generate files { request with sourcePath := source, headerPath := header } config
    run'.files = run.files ∧
      (request.mode = .write ∨
          request.sourcePath.same request.headerPath = source.same header ∨
          (.stubs, .replaced) ∉ run.findings →
        run'.outline = run.outline) := by
  intro run run'
  refine ⟨?_, fun h => (generate_respelled_of hsource hheader h).2⟩
  cases hmode : request.mode with
  | write => exact (generate_respelled_of hsource hheader (.inl hmode)).1
  | check =>
    have hrun : run.files = files := generate_check_files files request config hmode
    have hrun' : run'.files = files := generate_check_files files _ config hmode
    rw [hrun, hrun']

/-! ### The header as another path of the source -/

/-- Of the chained regions, the first takes the start of the second: for a run that holds
the file under its one path, but not for one that loads it again under the other. -/
def otherPath : FilePath := ⟨"./t"⟩

theorem sameFile_otherPath : chainedFiles.SameFile ⟨"t"⟩ otherPath :=
  ⟨by decide +kernel, by decide +kernel, by decide +kernel⟩

theorem sameFile_self : chainedFiles.SameFile ⟨"t"⟩ ⟨"t"⟩ :=
  ⟨by decide +kernel, by decide +kernel, by decide +kernel⟩

def onePathRequest (mode : Mode) : Request := ⟨⟨"d.json"⟩, ⟨"t"⟩, ⟨"t"⟩, mode⟩

theorem generate_respelled_chained :
    let run := generate chainedFiles (onePathRequest .write) chainedConfig
    let run' := generate chainedFiles
      { onePathRequest .write with sourcePath := ⟨"t"⟩, headerPath := otherPath } chainedConfig
    run'.files = run.files ∧ run'.outline = run.outline := by
  intro run run'
  obtain ⟨hfiles, houtline⟩ :
      run'.files = run.files ∧ (_ → run'.outline = run.outline) :=
    generate_respelled sameFile_self sameFile_otherPath chainedConfig
  exact ⟨hfiles, houtline (.inl rfl)⟩

/-- In check mode, the run that loads the file twice finds the declarations region that the
other one has seen replaced with the stubs. -/
theorem not_outline_respelled :
    ¬ ∀ (files : FileSystem) (request : Request) (source header : FilePath) (config : Config),
      files.SameFile request.sourcePath source → files.SameFile request.headerPath header →
        (generate files { request with sourcePath := source, headerPath := header }
          config).outline = (generate files request config).outline := by
  intro h
  have heq := h chainedFiles (onePathRequest .check) ⟨"t"⟩ otherPath chainedConfig sameFile_self
    sameFile_otherPath
  revert heq
  decide +kernel

end Generate

end BindingRegions

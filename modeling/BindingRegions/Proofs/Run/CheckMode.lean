import BindingRegions.Proofs.Run.Workspace

/-! Check mode predicts write mode. A run in check mode keeps all edits in memory, while a
run in write mode saves a target after each of its rewrites; otherwise both hold the
same targets (`Predicts`). A step finds the same text in both: a target that is held
has the same content, and one that is still to be loaded is in a file of its own, which
no save so far has touched. -/

namespace BindingRegions

namespace Workspace

variable {c w c' w' : Workspace} {files : FileSystem} {policy : EndMarkerPolicy} {s : Step}
  {steps : List Step} {paths : FilePath → Prop} {e : Error}

/-- Different targets among the paths are different files. -/
def Apart (files : FileSystem) (paths : FilePath → Prop) : Prop :=
  ∀ p q, paths p → paths q → p.same q = true ∨ ¬ files.Meet p q

/-- Once its target is rewritten, a step in write mode can save it. -/
def Saves (policy : EndMarkerPolicy) (w : Workspace) (s : Step) : Prop :=
  ∀ t t' outcome, w.fetch s.path = .ok t →
    t.rewriteRegion s.markers s.lines policy = .ok (t', outcome) →
      ∃ saved, t'.save w.files = .ok saved

/-- Every save that a run in write mode comes to succeeds. -/
def AllSave (policy : EndMarkerPolicy) : Workspace → List Step → Prop
  | _, [] => True
  | w, s :: rest =>
    w.Saves policy s ∧ ∀ w', w.step .write policy s = .ok w' → AllSave policy w' rest

/-- The places of the targets held. -/
def Touched (files : FileSystem) (paths : FilePath → Prop) (w : Workspace) (place : Place) : Prop :=
  ∃ path, paths path ∧ ¬ w.Lacks path ∧ files.At path place

/-- The first workspace is that of a run in check mode, the second that of the same run in
write mode. -/
structure Predicts (files : FileSystem) (paths : FilePath → Prop) (c w : Workspace) : Prop where
  files_eq : c.files = files
  regions_eq : w.regions = c.regions
  targets_eq : w.targets = c.targets.map (·.saved)
  known : ∀ t ∈ w.targets, paths t.path
  tracks : ∀ t ∈ w.targets, t.Tracks w.files
  edits : files.Edits w.files (Touched files paths w)

theorem predicts_start (files : FileSystem) (paths : FilePath → Prop) :
    Predicts files paths { files } { files } :=
  ⟨rfl, rfl, rfl, by simp, by simp, .refl _ _⟩

theorem find?_map_saved (targets : List TargetFile) (path : FilePath) :
    (targets.map (·.saved)).find? (·.path.same path) =
      (targets.find? (·.path.same path)).map (·.saved) := by
  rw [List.find?_map]
  rfl

theorem hold_saved {t u : TargetFile} (h : w.targets = c.targets.map (·.saved))
    (hu : u.saved = t.saved) : w.hold u.saved = (c.hold t).map (·.saved) := by
  rw [hold, hold, h, hu, List.map_cons, List.filter_map]
  rfl

theorem Lacks.of_hold {t : TargetFile} {path : FilePath} {regions : List RegionReport}
    (h : Lacks { files, targets := w.hold t, regions } path) : w.Lacks path := by
  cases hp : t.path.same path with
  | true =>
    rw [Lacks, find?_hold_same hp] at h
    cases h
  | false =>
    rw [Lacks, find?_hold_other hp] at h
    exact h

namespace Predicts

/-- A target that is still to be loaded reads as it did in the beginning. -/
theorem read_eq (h : Predicts files paths c w) (hsep : Apart files paths) {path : FilePath}
    (hpath : paths path) (hl : w.Lacks path) : w.files.read path = files.read path := by
  refine h.edits.read_eq ?_
  rintro place hplace ⟨p, hp, hheld, hat⟩
  rcases hsep p path hp hpath with hsame | hapart
  · apply hheld
    rw [Lacks, find?_congr hsame]
    exact hl
  · exact hapart ⟨place, hat, hplace⟩

theorem fetch_eq (h : Predicts files paths c w) (hsep : Apart files paths) {path : FilePath}
    (hpath : paths path) : w.fetch path = (c.fetch path).map (·.saved) := by
  have hfind := find?_map_saved c.targets path
  rw [← h.targets_eq] at hfind
  cases hc : c.targets.find? (·.path.same path) with
  | some t =>
    rw [hc] at hfind
    rw [fetch, fetch, hc, hfind]
    rfl
  | none =>
    rw [hc] at hfind
    have hl : w.Lacks path := hfind
    rw [hl.fetch_eq, Lacks.fetch_eq hc, TargetFile.load, TargetFile.load, h.read_eq hsep hpath hl,
      h.files_eq]
    cases files.read path <;> rfl

/-- Once both runs have rewritten the text and the second has saved it, they agree again. -/
theorem hold (h : Predicts files paths c w) (hsep : Apart files paths) {t u : TargetFile}
    {after : FileSystem} (hu : u.saved = t.saved) (hpath : paths u.path)
    (htracks : u.saved.Tracks after) (hedits : w.files.Edits after (w.files.At u.path))
    (regions : List RegionReport) :
    Predicts files paths { c with targets := c.hold t, regions }
      { files := after, targets := w.hold u.saved, regions } := by
  rw [h.edits.at_eq] at hedits
  refine ⟨h.files_eq, rfl, hold_saved h.targets_eq hu, ?_, ?_, ?_⟩
  · intro x hx
    rcases mem_hold hx with rfl | ⟨hx, -⟩
    · exact hpath
    · exact h.known x hx
  · intro x hx
    rcases mem_hold hx with rfl | ⟨hx, hne⟩
    · exact htracks
    · -- the save went to another file
      have hother : after.read x.path = w.files.read x.path := by
        refine hedits.read_eq fun place hplace hsaved => ?_
        rw [h.edits.at_eq] at hplace
        rcases hsep x.path u.path (h.known x hx) hpath with hsame | hapart
        · rw [TargetFile.saved_path, hsame] at hne
          cases hne
        · exact hapart ⟨place, hplace, hsaved⟩
      rw [TargetFile.Tracks, hother]
      exact h.tracks x hx
  · refine (h.edits.mono ?_).trans (hedits.mono ?_)
    · rintro place ⟨path, hp, hheld, hplace⟩
      exact ⟨path, hp, fun hl => hheld hl.of_hold, hplace⟩
    · intro place hplace
      have hfind : (w.hold u.saved).find? (·.path.same u.path) = some u.saved :=
        find?_hold_same u.path.same_refl
      refine ⟨u.path, hpath, fun hl => ?_, hplace⟩
      rw [Lacks, hfind] at hl
      cases hl

/-- What a step fetches in write mode is in its file. -/
theorem tracks_of_fetch (h : Predicts files paths c w) {path : FilePath} (hpath : paths path)
    {t : TargetFile} (hf : w.fetch path = .ok t) : t.Tracks w.files ∧ paths t.path := by
  rcases fetch_eq_ok hf with ⟨-, hholds | ⟨-, hload⟩⟩
  · have hmem : t ∈ w.targets := List.mem_of_find?_eq_some hholds
    exact ⟨h.tracks t hmem, h.known t hmem⟩
  · obtain ⟨hp, -, htracks⟩ := TargetFile.load_eq_ok hload
    exact ⟨htracks, hp ▸ hpath⟩

/-- A step ends the same way in both runs. -/
theorem step (h : Predicts files paths c w) (hsep : Apart files paths) (hs : paths s.path)
    (hsaves : w.Saves policy s) :
    (∃ e, c.step .check policy s = .error e ∧ w.step .write policy s = .error e) ∨
      ∃ c' w', c.step .check policy s = .ok c' ∧ w.step .write policy s = .ok w' ∧
        Predicts files paths c' w' := by
  have hfetch := h.fetch_eq hsep hs
  cases hc : c.fetch s.path with
  | error e =>
    rw [hc] at hfetch
    exact .inl ⟨e, step_of_fetch_error hc, step_of_fetch_error hfetch⟩
  | ok t =>
    rw [hc] at hfetch
    have hw : w.fetch s.path = .ok t.saved := hfetch
    obtain ⟨htracks, hknown⟩ := h.tracks_of_fetch hs hw
    cases hr : t.rewriteRegion s.markers s.lines policy with
    | error e =>
      exact .inl ⟨e, step_of_rewrite_error hc hr,
        step_of_rewrite_error hw (TargetFile.rewriteRegion_saved_eq_error hr)⟩
    | ok rewritten =>
      obtain ⟨t', outcome⟩ := rewritten
      obtain ⟨u, hru, hu⟩ := TargetFile.rewriteRegion_saved_eq_ok hr
      obtain ⟨hpath, -, -⟩ := TargetFile.rewriteRegion_keeps hru
      have huknown : paths u.path := hpath ▸ hknown
      obtain ⟨⟨saved, wrote, after⟩, hsave⟩ := hsaves _ _ _ hw hru
      obtain ⟨rfl, hatracks, hedits⟩ := TargetFile.save_eq_ok (htracks.rewriteRegion hru) hsave
      refine .inr ⟨_, _, step_check hc hr, step_write hw hru hsave, ?_⟩
      rw [h.regions_eq]
      exact h.hold hsep hu huknown hatracks hedits _

theorem run (h : Predicts files paths c w) (hsep : Apart files paths)
    (hs : ∀ s ∈ steps, paths s.path) (hsave : AllSave policy w steps) :
    ∃ c' w' failure, Workspace.run .check policy c steps = (c', failure) ∧
      Workspace.run .write policy w steps = (w', failure) ∧ Predicts files paths c' w' := by
  induction steps generalizing c w with
  | nil => exact ⟨c, w, none, rfl, rfl, h⟩
  | cons s rest ih =>
    obtain ⟨hsaves, hlater⟩ := hsave
    rcases h.step hsep (hs s (by simp)) hsaves with ⟨e, hc, hw⟩ | ⟨c₁, w₁, hc, hw, h₁⟩
    · exact ⟨c, w, some e, run_cons_error hc rest, run_cons_error hw rest, h⟩
    · rw [run_cons_ok hc, run_cons_ok hw]
      exact ih h₁ (fun u hu => hs u (by simp [hu])) (hlater _ hw)

theorem saves_of_overwritable (h : Predicts files paths c w) (hs : paths s.path)
    (ho : ∀ p, paths p → files.Overwritable p) : w.Saves policy s := by
  intro t t' outcome hf hr
  obtain ⟨htracks, hknown⟩ := h.tracks_of_fetch hs hf
  obtain ⟨hpath, -, -⟩ := TargetFile.rewriteRegion_keeps hr
  have ho' : w.files.Overwritable t'.path := h.edits.overwritable (ho _ (hpath ▸ hknown))
  obtain ⟨wrote, after, hsave⟩ := TargetFile.exists_save (htracks.rewriteRegion hr) ho'
  exact ⟨_, hsave⟩

/-- Every save succeeds where all targets may be written over. -/
theorem allSave_of_overwritable (h : Predicts files paths c w) (hsep : Apart files paths)
    (hs : ∀ s ∈ steps, paths s.path) (ho : ∀ p, paths p → files.Overwritable p) :
    AllSave policy w steps := by
  induction steps generalizing c w with
  | nil => trivial
  | cons s rest ih =>
    have hpath := hs s (by simp)
    have hsaves : w.Saves policy s := h.saves_of_overwritable hpath ho
    refine ⟨hsaves, fun w' hw' => ?_⟩
    rcases h.step hsep hpath hsaves with ⟨e, -, hw⟩ | ⟨c₁, w₁, -, hw, h₁⟩
    · rw [hw] at hw'
      cases hw'
    · rw [hw, Except.ok.injEq] at hw'
      exact ih (hw' ▸ h₁) fun u hu => hs u (by simp [hu])

end Predicts

end Workspace

section Generate

variable {files : FileSystem} {request : Request}

theorem apart_targets (hpaths : request.sourcePath.same request.headerPath = true ∨
      ¬ files.Meet request.sourcePath request.headerPath) :
    Workspace.Apart files fun p => p = request.sourcePath ∨ p = request.headerPath := by
  rintro p q (rfl | rfl) (rfl | rfl)
  · exact .inl (FilePath.same_refl _)
  · exact hpaths
  · rw [FilePath.same_comm]
    exact hpaths.imp_right fun h hmeet => h hmeet.symm
  · exact .inl (FilePath.same_refl _)

theorem path_of_mem_steps {config : Config} {schema : Schema} {s : Step}
    (h : s ∈ request.steps config schema) :
    s.path = request.sourcePath ∨ s.path = request.headerPath := by
  simp only [Request.steps, List.mem_cons, List.not_mem_nil, or_false] at h
  rcases h with rfl | rfl | rfl
  · exact .inl rfl
  · exact .inr rfl
  · exact .inr rfl

/-- The saves of a whole run in write mode. -/
def SavesSucceed (files : FileSystem) (request : Request) (config : Config) : Prop :=
  ∀ schema, Schema.load files request.schemaPath = .ok schema →
    Workspace.AllSave config.endMarkerPolicy { files } (request.steps config schema)

theorem savesSucceed_of_overwritable (config : Config)
    (hpaths : request.sourcePath.same request.headerPath = true ∨
      ¬ files.Meet request.sourcePath request.headerPath)
    (hsource : files.Overwritable request.sourcePath)
    (hheader : files.Overwritable request.headerPath) :
    SavesSucceed files request config := by
  intro schema _
  have hsteps : ∀ s ∈ request.steps config schema,
      s.path = request.sourcePath ∨ s.path = request.headerPath := fun _ => path_of_mem_steps
  refine (Workspace.predicts_start files _).allSave_of_overwritable (apart_targets hpaths) hsteps ?_
  rintro p (rfl | rfl)
  · exact hsource
  · exact hheader

/-- A run in check mode answers like the run in write mode, and leaves all files as they
are. -/
theorem generate_check_eq_write (config : Config)
    (hpaths : request.sourcePath.same request.headerPath = true ∨
      ¬ files.Meet request.sourcePath request.headerPath)
    (hsaves : SavesSucceed files request config) :
    let check := generate files { request with mode := .check } config
    let write := generate files { request with mode := .write } config
    check.result = write.result ∧ check.progress = write.progress ∧ check.files = files := by
  intro check write
  have hfiles : check.files = files := generate_check_files _ _ _ rfl
  refine and_assoc.1 ⟨?_, hfiles⟩
  cases hl : Schema.load files request.schemaPath with
  | error e =>
    have hc : check = ⟨.error e, [], files⟩ := generate_of_load_error hl
    have hw : write = ⟨.error e, [], files⟩ := generate_of_load_error hl
    rw [hc, hw]
    exact ⟨rfl, rfl⟩
  | ok schema =>
    have hsteps : ∀ s ∈ request.steps config schema,
        s.path = request.sourcePath ∨ s.path = request.headerPath := fun _ => path_of_mem_steps
    obtain ⟨c, w, failure, hcheck, hwrite, hpredicts⟩ :=
      (Workspace.predicts_start files _).run (apart_targets hpaths) hsteps (hsaves schema hl)
    have hc := generate_of_run { request with mode := .check } hl hcheck
    have hw := generate_of_run { request with mode := .write } hl hwrite
    simp only [check, write, hc, hw, hpredicts.regions_eq, and_self]

/-! ### One target under two spellings -/

/-- The first region reaches to the end of the file and takes the start of the second. -/
def chainedFiles : FileSystem :=
  ((FileSystem.blank "w").put ["d.json", "w"] (some (.file (.text "[]") true))).put ["t", "w"]
    (some (.file (.text "A\nB\n") true))

def chainedRequest : Request := ⟨⟨"d.json"⟩, ⟨"t"⟩, ⟨"t//"⟩, .write⟩

def chainedConfig : Config where
  bodyMarkers := ⟨"A", "a"⟩
  headerMarkers := ⟨"B", "b"⟩

theorem generate_check_chained :
    let check := generate chainedFiles { chainedRequest with mode := .check } chainedConfig
    let write := generate chainedFiles { chainedRequest with mode := .write } chainedConfig
    check.result = write.result ∧ check.progress = write.progress ∧
      check.files = chainedFiles := by
  have hsource : chainedFiles.At chainedRequest.sourcePath ["t", "w"] := by decide +kernel
  have hheader : chainedFiles.At chainedRequest.headerPath ["t", "w"] := by decide +kernel
  have hentry : chainedFiles.entry? ["t", "w"] = some (.file (.text "A\nB\n") true) := by
    decide +kernel
  have hsame : chainedRequest.sourcePath.same chainedRequest.headerPath = true := by
    decide +kernel
  exact generate_check_eq_write chainedConfig (.inl hsame) (savesSucceed_of_overwritable _
    (.inl hsame) (FileSystem.overwritable_of_entry hsource hentry)
    (FileSystem.overwritable_of_entry hheader hentry))

end Generate

end BindingRegions

import BindingRegions.Proofs.Run.Workspace

/-! Writes and the records of them. `replacing` is noted down exactly when a save goes to
the file, whether the file then takes the text or refuses it: for a save
(`replacing_mem_saveLog_iff`), for a step, along a run, and for the generator. What goes to
no file leaves the files as they are. -/

namespace BindingRegions

variable {files : FileSystem} {path : FilePath} {mode : Mode} {policy : EndMarkerPolicy}

namespace TargetFile

variable {target : TargetFile}

/-- The save goes to the file, which takes the content or refuses it. -/
inductive SaveWrites (target : TargetFile) (files : FileSystem) : Prop
  | refused {fault : IoFault} : files.write target.path target.content = .error fault →
      target.save files = .error (.targetFile target.path fault) → SaveWrites target files
  | done {after : FileSystem} : files.write target.path target.content = .ok after →
      target.save files = .ok (target.saved, true, after) → SaveWrites target files

theorem saveWrites_iff : target.SaveWrites files ↔ target.content ≠ target.onDisk := by
  constructor
  · intro h hc
    have hsave := save_of_clean hc files
    cases h with
    | refused _ hs => simp [hs] at hsave
    | done _ hs => simp [hs] at hsave
  · intro hc
    cases hw : files.write target.path target.content with
    | error fault => exact .refused hw (save_of_write_error hc hw)
    | ok after => exact .done hw (save_of_write hc hw)

/-- A save notes down just the write that it makes. -/
theorem replacing_mem_saveLog_iff (files : FileSystem) :
    .replacing path ∈ target.saveLog ↔ path = target.path ∧ target.SaveWrites files := by
  rw [saveWrites_iff, saveLog]
  split_ifs with hc <;> simp [hc]

theorem replacing_not_mem_rewriteLog (t : TargetFile) (markers : MarkerPair)
    (replacement : List String) (policy : EndMarkerPolicy) (path : FilePath) :
    .replacing path ∉ t.rewriteLog markers replacement policy := by
  unfold rewriteLog
  intro h
  split at h
  · simp at h
  · simp at h
  · rw [List.mem_append] at h
    rcases h with h | h <;> split at h <;> simp at h

end TargetFile

theorem Schema.replacing_not_mem_loadLog (files : FileSystem) (schemaPath path : FilePath) :
    .replacing path ∉ Schema.loadLog files schemaPath := by
  unfold loadLog valueLog
  intro h
  split at h
  · simp at h
  · split at h
    · simp at h
    · split at h <;> simp at h

namespace Workspace

variable {w v w' : Workspace} {t t' : TargetFile} {s : Step} {rest steps : List Step}
  {outcome : Outcome}

/-! ### A step -/

/-- The step rewrites its target and saves it, and the save goes to the file at the path. -/
def StepWrites (mode : Mode) (policy : EndMarkerPolicy) (w : Workspace) (s : Step)
    (path : FilePath) : Prop :=
  mode = .write ∧ ∃ t t' outcome, w.fetch s.path = .ok t ∧
    t.rewriteRegion s.markers s.lines policy = .ok (t', outcome) ∧
    path = t'.path ∧ t'.SaveWrites w.files

theorem stepWrites_iff (hf : w.fetch s.path = .ok t)
    (hr : t.rewriteRegion s.markers s.lines policy = .ok (t', outcome)) :
    w.StepWrites mode policy s path ↔
      mode = .write ∧ path = t'.path ∧ t'.SaveWrites w.files := by
  constructor
  · rintro ⟨hmode, u, u', o, hf', hr', hpath, hwrites⟩
    obtain rfl : t = u := Except.ok.inj (hf.symm.trans hf')
    obtain ⟨rfl, -⟩ : t' = u' ∧ outcome = o := by simpa using hr.symm.trans hr'
    exact ⟨hmode, hpath, hwrites⟩
  · rintro ⟨hmode, hpath, hwrites⟩
    exact ⟨hmode, t, t', outcome, hf, hr, hpath, hwrites⟩

/-- A step notes down just the write that it makes. -/
theorem replacing_mem_stepLog_iff :
    .replacing path ∈ w.stepLog mode policy s ↔ w.StepWrites mode policy s path := by
  cases hf : w.fetch s.path with
  | error e => simp [stepLog, StepWrites, hf]
  | ok t =>
    have hno := t.replacing_not_mem_rewriteLog s.markers s.lines policy path
    cases hr : t.rewriteRegion s.markers s.lines policy with
    | error e => cases mode <;> simp [stepLog, StepWrites, hf, hr, hno]
    | ok rewritten =>
      obtain ⟨t', outcome⟩ := rewritten
      rw [stepWrites_iff hf hr]
      cases mode with
      | check => simp [stepLog, hf, hno]
      | write =>
        rw [← TargetFile.replacing_mem_saveLog_iff]
        simp [stepLog, hf, hr, hno]

/-- A step that goes to no file leaves the files as they are. -/
theorem step_files_of_not_writes (h : w.step mode policy s = .ok w')
    (hno : ∀ path, ¬ w.StepWrites mode policy s path) : w'.files = w.files := by
  cases mode with
  | check => exact step_check_files h
  | write =>
    obtain ⟨t, t', u, outcome, wrote, files, hf, hr, hs, rfl⟩ := step_write_eq_ok h
    have hclean : t'.content = t'.onDisk := by
      by_contra hc
      refine hno t'.path ((stepWrites_iff hf hr).2 ⟨rfl, rfl, ?_⟩)
      exact TargetFile.saveWrites_iff.2 hc
    rw [TargetFile.save_of_clean hclean, Except.ok.injEq, Prod.mk.injEq, Prod.mk.injEq] at hs
    exact hs.2.2.symm

/-! ### A run -/

/-- Some step of the run, made after those in front of it, goes to the file at the path. -/
def RunWrites (mode : Mode) (policy : EndMarkerPolicy) (w : Workspace) (steps : List Step)
    (path : FilePath) : Prop :=
  ∃ before s after v, steps = before ++ s :: after ∧ run mode policy w before = (v, none) ∧
    v.StepWrites mode policy s path

theorem not_runWrites_nil : ¬ w.RunWrites mode policy [] path := by
  rintro ⟨before, s, after, v, hsteps, -⟩
  simp at hsteps

theorem runWrites_cons_iff : w.RunWrites mode policy (s :: rest) path ↔
    w.StepWrites mode policy s path ∨
      ∃ v, w.step mode policy s = .ok v ∧ v.RunWrites mode policy rest path := by
  constructor
  · rintro ⟨_ | ⟨first, before⟩, t, after, u, hsteps, hbefore, hwrites⟩
    · cases hsteps
      cases hbefore
      exact .inl hwrites
    · obtain ⟨rfl, rfl⟩ : s = first ∧ rest = before ++ t :: after := by simpa using hsteps
      obtain ⟨v, hstep, hrun⟩ := run_cons_eq_none hbefore
      exact .inr ⟨v, hstep, before, t, after, u, rfl, hrun, hwrites⟩
  · rintro (hwrites | ⟨v, hstep, before, t, after, u, rfl, hrun, hwrites⟩)
    · exact ⟨[], s, rest, w, rfl, rfl, hwrites⟩
    · refine ⟨s :: before, t, after, u, rfl, ?_, hwrites⟩
      rw [run_cons_ok hstep, hrun]

/-- A run notes down just the writes that it makes. -/
theorem replacing_mem_runLog_iff :
    .replacing path ∈ runLog mode policy w steps ↔ w.RunWrites mode policy steps path := by
  induction steps generalizing w with
  | nil => simp [runLog, not_runWrites_nil]
  | cons s rest ih =>
    rw [runWrites_cons_iff, runLog, List.mem_append, replacing_mem_stepLog_iff]
    cases hstep : w.step mode policy s with
    | error e => simp
    | ok v => simp [ih]

/-- A run that goes to no file leaves the files as they are, whether it fails or not. -/
theorem run_files_of_not_writes (hno : ∀ path, ¬ w.RunWrites mode policy steps path) :
    (run mode policy w steps).1.files = w.files := by
  induction steps generalizing w with
  | nil => rfl
  | cons s rest ih =>
    cases hstep : w.step mode policy s with
    | error e => rw [run_cons_error hstep]
    | ok v =>
      have hrest : ∀ path, ¬ v.RunWrites mode policy rest path := fun path hwrites =>
        hno path (runWrites_cons_iff.2 (.inr ⟨v, hstep, hwrites⟩))
      have hfirst : ∀ path, ¬ w.StepWrites mode policy s path := fun path hwrites =>
        hno path (runWrites_cons_iff.2 (.inl hwrites))
      rw [run_cons_ok hstep, ih hrest, step_files_of_not_writes hstep hfirst]

end Workspace

/-! ### The generator -/

variable {request : Request} {config : Config}

/-- The schema loads, and the run behind it goes to the file at the path. -/
def GenerateWrites (files : FileSystem) (request : Request) (config : Config)
    (path : FilePath) : Prop :=
  ∃ schema, Schema.load files request.schemaPath = .ok schema ∧
    Workspace.RunWrites request.mode config.endMarkerPolicy { files }
      (request.steps config schema) path

theorem replacing_mem_generateLog_iff :
    .replacing path ∈ generateLog files request config ↔
      GenerateWrites files request config path := by
  have hno := Schema.replacing_not_mem_loadLog files request.schemaPath path
  cases hload : Schema.load files request.schemaPath with
  | error e => simp [generateLog, GenerateWrites, hload, hno]
  | ok schema =>
    simp [generateLog, GenerateWrites, hload, hno, Workspace.replacing_mem_runLog_iff]

theorem generate_files_of_not_writes (hno : ∀ path, ¬ GenerateWrites files request config path) :
    (generate files request config).files = files := by
  cases hload : Schema.load files request.schemaPath with
  | error e => rw [generate_of_load_error hload]
  | ok schema =>
    have hfiles : (Workspace.run request.mode config.endMarkerPolicy { files }
        (request.steps config schema)).1.files = files :=
      Workspace.run_files_of_not_writes fun path hwrites => hno path ⟨schema, hload, hwrites⟩
    rw [generate_of_run request hload rfl]
    exact hfiles

end BindingRegions

import BindingRegions.Generate
import BindingRegions.Proofs.Run.Target

/-! Steps and runs. The targets held by a workspace are looked up by path under any
spelling (`Holds`); a step fetches its target, rewrites it, and holds the result in its
place. The equations of a step, one for each way it can end, are what the theory of runs
builds on. -/

namespace BindingRegions

namespace FilePath

theorem same_congr {p q : FilePath} (h : p.same q = true) (path : FilePath) :
    p.same path = q.same path := by
  simp only [same, beq_iff_eq] at h ⊢
  rw [h]

end FilePath

def Step.report (s : Step) (outcome : Outcome) : RegionReport := ⟨s.path, s.kind, outcome⟩

namespace Workspace

variable {w : Workspace} {t t' u : TargetFile} {path : FilePath} {mode : Mode}
  {policy : EndMarkerPolicy} {s : Step} {e : Error} {outcome : Outcome} {wrote : Bool}
  {files : FileSystem}

/-- The workspace holds the target, to be found under any spelling of its path. -/
def Holds (w : Workspace) (t : TargetFile) : Prop :=
  w.targets.find? (·.path.same t.path) = some t

/-- The workspace holds no target under any spelling of the path. -/
def Lacks (w : Workspace) (path : FilePath) : Prop :=
  w.targets.find? (·.path.same path) = none

theorem find?_congr {p q : FilePath} (h : p.same q = true) (targets : List TargetFile) :
    targets.find? (·.path.same p) = targets.find? (·.path.same q) := by
  congr 1
  funext t
  rw [FilePath.same_comm, FilePath.same_congr h, FilePath.same_comm]

theorem Holds.fetch_eq (h : w.Holds t) (hp : t.path.same path = true) : w.fetch path = .ok t := by
  rw [Holds, find?_congr hp] at h
  rw [fetch, h]

theorem Lacks.fetch_eq (h : w.Lacks path) : w.fetch path = TargetFile.load w.files path := by
  rw [Lacks] at h
  rw [fetch, h]

theorem fetch_eq_ok (h : w.fetch path = .ok t) :
    t.path.same path = true ∧
      (w.Holds t ∨ w.Lacks path ∧ TargetFile.load w.files path = .ok t) := by
  unfold fetch at h
  split at h
  · rename_i held hfind
    cases h
    have hsame : t.path.same path = true := by simpa using List.find?_some hfind
    refine ⟨hsame, .inl ?_⟩
    rw [Holds, find?_congr hsame]
    exact hfind
  · rename_i hfind
    have hpath := (TargetFile.load_eq_ok h).1
    exact ⟨by rw [hpath]; exact path.same_refl, .inr ⟨hfind, h⟩⟩

theorem fetch_eq_error (h : w.fetch path = .error e) :
    w.Lacks path ∧ TargetFile.load w.files path = .error e := by
  unfold fetch at h
  split at h
  · cases h
  · rename_i hfind
    exact ⟨hfind, h⟩

/-! ### Holding -/

theorem find?_hold_same (hp : t.path.same path = true) :
    (w.hold t).find? (·.path.same path) = some t := by
  rw [hold, List.find?_cons_of_pos (by simpa using hp)]

theorem find?_hold_other (hp : t.path.same path = false) :
    (w.hold t).find? (·.path.same path) = w.targets.find? (·.path.same path) := by
  rw [hold, List.find?_cons_of_neg (by simp [hp]), List.find?_filter]
  congr 1
  funext held
  cases hh : held.path.same path with
  | false => simp
  | true =>
    have hne : held.path.same t.path = false := by
      rw [FilePath.same_comm, ← Bool.not_eq_true]
      intro hs
      rw [FilePath.same_trans hs hh] at hp
      cases hp
    simp [hne]

theorem hold_hold (hp : t.path.same t'.path = true) :
    hold { w with targets := w.hold t } t' = w.hold t' := by
  have hfilter (x : TargetFile) : x.path.same t.path = x.path.same t'.path := by
    rw [FilePath.same_comm, FilePath.same_congr hp, FilePath.same_comm]
  simp [hold, hp, hfilter]

theorem mem_hold (h : u ∈ w.hold t) : u = t ∨ u ∈ w.targets ∧ u.path.same t.path = false := by
  simpa [hold] using h

/-! ### Steps -/

theorem step_of_fetch_error (hf : w.fetch s.path = .error e) :
    w.step mode policy s = .error e := by
  rw [step, hf]
  rfl

theorem step_of_rewrite_error (hf : w.fetch s.path = .ok t)
    (hr : t.rewriteRegion s.markers s.lines policy = .error e) :
    w.step mode policy s = .error e := by
  simp only [step, hf, hr, ok_bind, error_bind]

theorem step_check (hf : w.fetch s.path = .ok t)
    (hr : t.rewriteRegion s.markers s.lines policy = .ok (t', outcome)) :
    w.step .check policy s =
      .ok { w with targets := w.hold t', regions := w.regions ++ [s.report outcome] } := by
  simp only [step, hf, hr, ok_bind, pure_eq_ok, Step.report]

theorem step_of_save_error (hf : w.fetch s.path = .ok t)
    (hr : t.rewriteRegion s.markers s.lines policy = .ok (t', outcome))
    (hs : t'.save w.files = .error e) : w.step .write policy s = .error e := by
  simp only [step, hf, hr, hs, ok_bind, error_bind]

theorem step_write (hf : w.fetch s.path = .ok t)
    (hr : t.rewriteRegion s.markers s.lines policy = .ok (t', outcome))
    (hs : t'.save w.files = .ok (u, wrote, files)) :
    w.step .write policy s =
      .ok { files, targets := w.hold u, regions := w.regions ++ [s.report outcome] } := by
  simp only [step, hf, hr, hs, ok_bind, pure_eq_ok, Step.report]

/-- A step that leaves its target alone writes nothing in either mode. -/
theorem step_of_clean (hf : w.fetch s.path = .ok t)
    (hr : t.rewriteRegion s.markers s.lines policy = .ok (t, outcome))
    (hc : t.content = t.onDisk) (mode : Mode) :
    w.step mode policy s =
      .ok { w with targets := w.hold t, regions := w.regions ++ [s.report outcome] } := by
  cases mode with
  | check => exact step_check hf hr
  | write => exact step_write hf hr (TargetFile.save_of_clean hc w.files)

/-- A step that succeeds has fetched and rewritten its target, and reports on it. -/
theorem step_eq_ok {w' : Workspace} (h : w.step mode policy s = .ok w') :
    ∃ t t' outcome, w.fetch s.path = .ok t ∧
      t.rewriteRegion s.markers s.lines policy = .ok (t', outcome) ∧
      w'.regions = w.regions ++ [s.report outcome] := by
  have hstep := h
  unfold step at hstep
  obtain ⟨t, hf, hstep⟩ := bind_eq_ok hstep
  obtain ⟨⟨t', outcome⟩, hr, -⟩ := bind_eq_ok hstep
  refine ⟨t, t', outcome, hf, hr, ?_⟩
  cases mode with
  | check =>
    rw [step_check hf hr, Except.ok.injEq] at h
    rw [← h]
  | write =>
    cases hs : t'.save w.files with
    | error e =>
      rw [step_of_save_error hf hr hs] at h
      cases h
    | ok saved =>
      rw [step_write hf hr hs, Except.ok.injEq] at h
      rw [← h]

theorem step_write_eq_ok {w' : Workspace} (h : w.step .write policy s = .ok w') :
    ∃ t t' u outcome wrote files, w.fetch s.path = .ok t ∧
      t.rewriteRegion s.markers s.lines policy = .ok (t', outcome) ∧
      t'.save w.files = .ok (u, wrote, files) ∧
      w' = { files, targets := w.hold u, regions := w.regions ++ [s.report outcome] } := by
  obtain ⟨t, t', outcome, hf, hr, -⟩ := step_eq_ok h
  cases hs : t'.save w.files with
  | error e =>
    rw [step_of_save_error hf hr hs] at h
    cases h
  | ok saved =>
    obtain ⟨u, wrote, files⟩ := saved
    rw [step_write hf hr hs, Except.ok.injEq] at h
    exact ⟨t, t', u, outcome, wrote, files, hf, hr, hs, h.symm⟩

/-- A step that fails could not load its target, was refused, or could not save. -/
theorem step_eq_error (h : w.step mode policy s = .error e) :
    w.fetch s.path = .error e ∨ ∃ t, w.fetch s.path = .ok t ∧
      (t.rewriteRegion s.markers s.lines policy = .error e ∨
        ∃ t' outcome, t.rewriteRegion s.markers s.lines policy = .ok (t', outcome) ∧
          t'.save w.files = .error e) := by
  cases hf : w.fetch s.path with
  | error e' =>
    rw [step_of_fetch_error hf, Except.error.injEq] at h
    exact .inl (congrArg Except.error h)
  | ok t =>
    refine .inr ⟨t, rfl, ?_⟩
    cases hr : t.rewriteRegion s.markers s.lines policy with
    | error e' =>
      rw [step_of_rewrite_error hf hr, Except.error.injEq] at h
      exact .inl (congrArg Except.error h)
    | ok rewritten =>
      obtain ⟨t', outcome⟩ := rewritten
      refine .inr ⟨t', outcome, rfl, ?_⟩
      cases mode with
      | check =>
        rw [step_check hf hr] at h
        cases h
      | write =>
        cases hs : t'.save w.files with
        | error e' =>
          rw [step_of_save_error hf hr hs, Except.error.injEq] at h
          exact congrArg Except.error h
        | ok saved =>
          rw [step_write hf hr hs] at h
          cases h

/-- The error of a step names its target, as one that could not be read or written or, under
the strict policy, as one that lacks the end marker. -/
theorem error_of_step (h : w.step mode policy s = .error e) :
    ∃ path : FilePath, path.same s.path = true ∧ ((∃ fault, e = .targetFile path fault) ∨
      policy = .strict ∧ e = .missingEndMarker path s.markers.stop) := by
  rcases step_eq_error h with hf | ⟨t, hf, hr | ⟨t', outcome, hr, hs⟩⟩
  · obtain ⟨-, hload⟩ := fetch_eq_error hf
    obtain ⟨fault, -, he⟩ := TargetFile.load_eq_error hload
    exact ⟨s.path, s.path.same_refl, .inl ⟨fault, he⟩⟩
  · exact ⟨t.path, (fetch_eq_ok hf).1, .inr (TargetFile.rewriteRegion_eq_error hr)⟩
  · obtain ⟨fault, -, he⟩ := TargetFile.save_eq_error hs
    obtain ⟨hpath, -, -⟩ := TargetFile.rewriteRegion_keeps hr
    rw [hpath] at he
    exact ⟨t.path, (fetch_eq_ok hf).1, .inl ⟨fault, he⟩⟩

theorem step_check_files {w' : Workspace} (h : w.step .check policy s = .ok w') :
    w'.files = w.files := by
  obtain ⟨t, t', outcome, hf, hr, -⟩ := step_eq_ok h
  rw [step_check hf hr, Except.ok.injEq] at h
  rw [← h]

/-- A step does not care whether its target is held already or still to be loaded. -/
theorem step_hold (hf : w.fetch s.path = .ok t) :
    step mode policy { w with targets := w.hold t } s = w.step mode policy s := by
  have hp := (fetch_eq_ok hf).1
  have hf' : fetch { w with targets := w.hold t } s.path = .ok t := by
    rw [fetch, find?_hold_same hp]
  cases hr : t.rewriteRegion s.markers s.lines policy with
  | error e => rw [step_of_rewrite_error hf hr, step_of_rewrite_error hf' hr]
  | ok rewritten =>
    obtain ⟨t', outcome⟩ := rewritten
    have hpath := (TargetFile.rewriteRegion_keeps hr).1
    cases mode with
    | check =>
      rw [step_check hf hr, step_check hf' hr, hold_hold (by rw [hpath]; exact t.path.same_refl)]
    | write =>
      cases hs : t'.save w.files with
      | error e => rw [step_of_save_error hf hr hs, step_of_save_error hf' hr hs]
      | ok saved =>
        obtain ⟨u, wrote, files⟩ := saved
        have hu : u.path = t'.path := TargetFile.save_path hs
        rw [step_write hf hr hs, step_write hf' hr hs]
        rw [hold_hold (by rw [hu, hpath]; exact t.path.same_refl)]

/-! ### Runs -/

@[simp] theorem run_nil (mode : Mode) (policy : EndMarkerPolicy) (w : Workspace) :
    run mode policy w [] = (w, none) := rfl

theorem run_cons_error (h : w.step mode policy s = .error e) (rest : List Step) :
    run mode policy w (s :: rest) = (w, some e) := by
  rw [run, h]

theorem run_cons_ok {w' : Workspace} (h : w.step mode policy s = .ok w') (rest : List Step) :
    run mode policy w (s :: rest) = run mode policy w' rest := by
  rw [run, h]

/-- A run that succeeds has made its first step, and then run the rest. -/
theorem run_cons_eq_none {w' : Workspace} {rest : List Step}
    (h : run mode policy w (s :: rest) = (w', none)) :
    ∃ v, w.step mode policy s = .ok v ∧ run mode policy v rest = (w', none) := by
  cases hs : w.step mode policy s with
  | error e =>
    rw [run_cons_error hs] at h
    cases h
  | ok v =>
    rw [run_cons_ok hs] at h
    exact ⟨v, rfl, h⟩

theorem run_append_eq_none {w' : Workspace} {xs ys : List Step} :
    run mode policy w (xs ++ ys) = (w', none) ↔
      ∃ v, run mode policy w xs = (v, none) ∧ run mode policy v ys = (w', none) := by
  induction xs generalizing w with
  | nil => simp
  | cons s xs ih =>
    cases hs : w.step mode policy s with
    | error e => simp [run_cons_error hs]
    | ok v => simp only [List.cons_append, run_cons_ok hs, ih]

theorem run_append_of_eq_none {w' : Workspace} {xs : List Step}
    (h : run mode policy w xs = (w', none)) (ys : List Step) :
    run mode policy w (xs ++ ys) = run mode policy w' ys := by
  induction xs generalizing w with
  | nil =>
    cases h
    rfl
  | cons s xs ih =>
    obtain ⟨v, hs, hrest⟩ := run_cons_eq_none h
    rw [List.cons_append, run_cons_ok hs]
    exact ih hrest

/-- A run fails with its first failing step, and is left as the steps before it have made
it. -/
theorem run_eq_some_iff {w' : Workspace} {steps : List Step} :
    run mode policy w steps = (w', some e) ↔
      ∃ before s after, steps = before ++ s :: after ∧
        run mode policy w before = (w', none) ∧ w'.step mode policy s = .error e := by
  constructor
  · intro h
    induction steps generalizing w with
    | nil => cases h
    | cons s rest ih =>
      cases hs : w.step mode policy s with
      | error e' =>
        rw [run_cons_error hs, Prod.mk.injEq, Option.some.injEq] at h
        obtain ⟨rfl, rfl⟩ := h
        exact ⟨[], s, rest, rfl, rfl, hs⟩
      | ok v =>
        rw [run_cons_ok hs] at h
        obtain ⟨before, t, after, rfl, hbefore, ht⟩ := ih h
        exact ⟨s :: before, t, after, rfl, by rw [run_cons_ok hs, hbefore], ht⟩
  · rintro ⟨before, s, after, rfl, hbefore, hs⟩
    rw [run_append_of_eq_none hbefore, run_cons_error hs]

theorem regions_prefix_run (mode : Mode) (policy : EndMarkerPolicy) (w : Workspace)
    (steps : List Step) : w.regions <+: (run mode policy w steps).1.regions := by
  induction steps generalizing w with
  | nil => exact List.prefix_rfl
  | cons s rest ih =>
    cases hs : w.step mode policy s with
    | error e => simp [run_cons_error hs]
    | ok v =>
      obtain ⟨-, -, outcome, -, -, hregions⟩ := step_eq_ok hs
      rw [run_cons_ok hs]
      have hprefix := ih v
      rw [hregions] at hprefix
      exact (List.prefix_append _ _).trans hprefix

/-- A run in check mode writes nothing, whether it fails or not. -/
theorem run_check_files (policy : EndMarkerPolicy) (w : Workspace) (steps : List Step) :
    (run .check policy w steps).1.files = w.files := by
  induction steps generalizing w with
  | nil => rfl
  | cons s rest ih =>
    cases hs : w.step .check policy s with
    | error e => rw [run_cons_error hs]
    | ok v => rw [run_cons_ok hs, ih, step_check_files hs]

/-- A run that succeeds does not care whether its first target is held already. -/
theorem run_hold_eq_none {w' : Workspace} {rest : List Step} (hf : w.fetch s.path = .ok t) :
    run mode policy { w with targets := w.hold t } (s :: rest) = (w', none) ↔
      run mode policy w (s :: rest) = (w', none) := by
  have hstep : step mode policy { w with targets := w.hold t } s = w.step mode policy s :=
    step_hold hf
  cases hs : w.step mode policy s with
  | error e =>
    rw [hs] at hstep
    simp [run_cons_error hs, run_cons_error hstep]
  | ok v =>
    rw [hs] at hstep
    rw [run_cons_ok hs, run_cons_ok hstep]

end Workspace

/-! ### Whole runs -/

section Generate

variable {files : FileSystem} {request : Request} {config : Config}

theorem Request.exists_steps_eq (request : Request) (config : Config) (schema : Schema) :
    ∃ a b c, request.steps config schema = [a, b, c] ∧ a.path = request.sourcePath ∧
      b.path = request.headerPath ∧ c.path = b.path :=
  ⟨_, _, _, rfl, rfl, rfl, rfl⟩

theorem generate_of_load_error {e : Error} (h : Schema.load files request.schemaPath = .error e) :
    generate files request config = ⟨.error e, [], files⟩ := by
  simp only [generate, h]

theorem generate_of_run (request : Request) {schema : Schema} {w : Workspace}
    {failure : Option Error} (hl : Schema.load files request.schemaPath = .ok schema)
    (hr : Workspace.run request.mode config.endMarkerPolicy { files }
      (request.steps config schema) = (w, failure)) :
    generate files request config =
      { result := failure.elim (.ok ⟨schema.functions.length, w.regions⟩) .error
        progress := .schemaLoaded request.schemaPath schema.functions.length ::
          w.regions.map .region
        files := w.files } := by
  simp only [generate, hl, hr]
  cases failure <;> rfl

theorem generate_check_files (files : FileSystem) (request : Request) (config : Config)
    (h : request.mode = .check) : (generate files request config).files = files := by
  cases hl : Schema.load files request.schemaPath with
  | error e => rw [generate_of_load_error hl]
  | ok schema =>
    have hfiles := Workspace.run_check_files config.endMarkerPolicy { files }
      (request.steps config schema)
    rcases hr : Workspace.run .check config.endMarkerPolicy { files }
      (request.steps config schema) with ⟨w, failure⟩
    rw [hr] at hfiles
    rw [← h] at hr
    rw [generate_of_run request hl hr]
    exact hfiles

/-- A run that succeeds has loaded its schema and made all its steps. -/
theorem generate_eq_ok {report : Report} (h : (generate files request config).result = .ok report) :
    ∃ schema w, Schema.load files request.schemaPath = .ok schema ∧
      Workspace.run request.mode config.endMarkerPolicy { files } (request.steps config schema) =
        (w, none) ∧
      report = ⟨schema.functions.length, w.regions⟩ ∧
      (generate files request config).files = w.files := by
  cases hl : Schema.load files request.schemaPath with
  | error e =>
    rw [generate_of_load_error hl] at h
    cases h
  | ok schema =>
    rcases hr : Workspace.run request.mode config.endMarkerPolicy { files }
      (request.steps config schema) with ⟨w, _ | e⟩ <;> rw [generate_of_run request hl hr] at h ⊢
    · exact ⟨schema, w, rfl, hr, (Except.ok.inj h).symm, rfl⟩
    · cases h

theorem Schema.kind_of_load_error {path : FilePath} {e : Error}
    (h : Schema.load files path = .error e) : e.kind = .schema := by
  unfold Schema.load at h
  split at h
  · rw [← Except.error.inj h]
    rfl
  · rename_i text _
    cases ht : Schema.ofText (Schema.formatOf path) text with
    | error fault =>
      rw [ht] at h
      rw [← Except.error.inj h]
      rfl
    | ok schema =>
      rw [ht] at h
      cases h

theorem Schema.load_congr {a b : FileSystem} {path : FilePath} (h : b.read path = a.read path) :
    Schema.load b path = Schema.load a path := by
  simp only [Schema.load, h]

end Generate

end BindingRegions

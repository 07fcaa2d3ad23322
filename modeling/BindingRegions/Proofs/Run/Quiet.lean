import BindingRegions.Proofs.Run.Writes

/-! Runs that replace nothing. While every region is as it should be, the targets held are
as their files (`Clean`), so there is nothing to save, and a run that ends without a
replaced region goes the same way in both modes. -/

namespace BindingRegions

variable {files : FileSystem} {request : Request} {config : Config} {report : Report}

/-- No region is reported as replaced. -/
def Quiet (regions : List RegionReport) : Prop :=
  ∀ region ∈ regions, region.outcome ≠ .replaced

theorem quiet_nil : Quiet [] := by
  intro region hregion
  cases hregion

theorem Quiet.cons {region : RegionReport} {regions : List RegionReport} (h : Quiet regions)
    (hr : region.outcome ≠ .replaced) : Quiet (region :: regions) := by
  intro r hmem
  rcases List.mem_cons.1 hmem with rfl | hmem
  · exact hr
  · exact h r hmem

theorem Quiet.append {front back : List RegionReport} (hf : Quiet front) (hb : Quiet back) :
    Quiet (front ++ back) :=
  fun region hregion => (List.mem_append.1 hregion).elim (hf region) (hb region)

theorem Quiet.of_prefix {front all : List RegionReport} (h : Quiet all) (hle : front <+: all) :
    Quiet front :=
  fun region hregion => h region (hle.subset hregion)

theorem Report.staleRegions_eq_nil_iff : report.staleRegions = [] ↔ Quiet report.regions := by
  simp [staleRegions, Quiet]

namespace Workspace

variable {w w' : Workspace} {t : TargetFile} {path : FilePath} {mode : Mode}
  {policy : EndMarkerPolicy} {s : Step} {steps : List Step}

/-- All targets held are as their files. -/
def Clean (w : Workspace) : Prop := ∀ t ∈ w.targets, t.content = t.onDisk

theorem clean_start (files : FileSystem) : Clean { files } := by
  intro t ht
  cases ht

theorem Clean.fetch (h : w.Clean) (hf : w.fetch path = .ok t) : t.content = t.onDisk := by
  rcases fetch_eq_ok hf with ⟨-, hholds | ⟨-, hload⟩⟩
  · exact h t (List.mem_of_find?_eq_some hholds)
  · exact (TargetFile.load_eq_ok hload).2.1

theorem Clean.hold {files : FileSystem} (h : w.Clean) (ht : t.content = t.onDisk)
    (regions : List RegionReport) : Clean { files, targets := w.hold t, regions } := by
  intro u hu
  rcases mem_hold hu with rfl | ⟨hu, -⟩
  · exact ht
  · exact h u hu

/-- Every step in write mode saves its target. -/
theorem Clean.step_write (h : w.Clean) (hstep : w.step .write policy s = .ok w') : w'.Clean := by
  obtain ⟨t, t', u, outcome, wrote, files, -, -, hs, rfl⟩ := step_write_eq_ok hstep
  exact h.hold (TargetFile.save_clean hs) _

/-- A step that replaces nothing is the same step in any mode, and writes nothing. -/
theorem Clean.step (h : w.Clean) (hstep : w.step mode policy s = .ok w') (hq : Quiet w'.regions)
    (other : Mode) :
    w.step other policy s = .ok w' ∧ w'.Clean ∧ ∀ path, ¬ w.StepWrites other policy s path := by
  obtain ⟨t, t', outcome, hf, hr, hregions⟩ := step_eq_ok hstep
  have hne : outcome ≠ .replaced := hq (s.report outcome) (by simp [hregions])
  obtain rfl : t' = t := (TargetFile.rewriteRegion_keeps hr).2.2 hne
  have hc : t'.content = t'.onDisk := h.fetch hf
  rw [step_of_clean hf hr hc mode, Except.ok.injEq] at hstep
  rw [step_of_clean hf hr hc other, hstep]
  refine ⟨rfl, hstep ▸ h.hold hc _, fun path hwrites => ?_⟩
  obtain ⟨-, -, hsave⟩ := (stepWrites_iff hf hr).1 hwrites
  exact TargetFile.saveWrites_iff.1 hsave hc

/-- A run that replaces nothing is the same run in any mode, and writes nothing. -/
theorem Clean.run (h : w.Clean) (hrun : run mode policy w steps = (w', none))
    (hq : Quiet w'.regions) (other : Mode) :
    Workspace.run other policy w steps = (w', none) ∧
      ∀ path, ¬ w.RunWrites other policy steps path := by
  induction steps generalizing w with
  | nil =>
    cases hrun
    exact ⟨rfl, fun path => not_runWrites_nil⟩
  | cons s rest ih =>
    obtain ⟨v, hstep, hrest⟩ := run_cons_eq_none hrun
    have hprefix := regions_prefix_run mode policy v rest
    rw [hrest] at hprefix
    obtain ⟨hother, hclean, hno⟩ := h.step hstep (hq.of_prefix hprefix) other
    obtain ⟨hrun', hno'⟩ := ih hclean hrest
    refine ⟨?_, fun path hwrites => ?_⟩
    · rw [run_cons_ok hother]
      exact hrun'
    · rcases runWrites_cons_iff.1 hwrites with hfirst | ⟨v', hstep', hlater⟩
      · exact hno path hfirst
      · obtain rfl : v = v' := Except.ok.inj (hother.symm.trans hstep')
        exact hno' path hlater

end Workspace

theorem quiet_iff_progress (h : (generate files request config).result = .ok report) :
    Quiet report.regions ↔ ∀ region,
      .region region ∈ (generate files request config).progress → region.outcome ≠ .replaced := by
  obtain ⟨schema, w, hload, hrun, rfl, -⟩ := generate_eq_ok h
  rw [generate_of_run request hload hrun]
  simp [Quiet]

/-- A run that ends well and replaces nothing is the same in any mode, and writes nothing. -/
theorem generate_of_quiet (h : (generate files request config).result = .ok report)
    (hq : Quiet report.regions) (mode : Mode) :
    (generate files { request with mode } config).result = .ok report ∧
      ∀ path, ¬ GenerateWrites files { request with mode } config path := by
  obtain ⟨schema, w, hload, hrun, rfl, -⟩ := generate_eq_ok h
  obtain ⟨hrun', hno⟩ := (Workspace.clean_start files).run hrun hq mode
  refine ⟨?_, ?_⟩
  · rw [generate_of_run { request with mode } hload hrun']
    rfl
  · rintro path ⟨schema', hload', hwrites⟩
    obtain rfl : schema = schema' := Except.ok.inj (hload.symm.trans hload')
    exact hno path hwrites

end BindingRegions

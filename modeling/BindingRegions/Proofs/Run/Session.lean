import BindingRegions.Proofs.Region.Settled
import BindingRegions.Proofs.Run.Quiet

/-! Runs whose steps all go to one target, under any spellings of its path. In write mode
the held target and its file carry the same text between the steps (`InStep`), and such
a run settles every region that it rewrites (`run_settles`); where all its regions are
settled already, a run in either mode reports none as replaced and writes nothing
(`run_of_settled`). -/

namespace BindingRegions.Workspace

variable {w w' : Workspace} {t : TargetFile} {mode : Mode} {policy : EndMarkerPolicy}
  {s : Step} {steps : List Step} {group : Step → Prop}

/-- The workspace holds the target, and the target's file has the target's content. -/
structure InStep (w : Workspace) (t : TargetFile) : Prop where
  holds : w.Holds t
  tracks : t.Tracks w.files
  clean : t.content = t.onDisk

/-- Targets under other paths are held as before. -/
def SameElsewhere (w w' : Workspace) (path : FilePath) : Prop :=
  ∀ other : FilePath, path.same other = false →
    w'.targets.find? (·.path.same other) = w.targets.find? (·.path.same other)

theorem SameElsewhere.refl (w : Workspace) (path : FilePath) : w.SameElsewhere w path :=
  fun _ _ => rfl

theorem SameElsewhere.trans {v : Workspace} {path : FilePath} (h : w.SameElsewhere v path)
    (h' : v.SameElsewhere w' path) : w.SameElsewhere w' path :=
  fun other ho => (h' other ho).trans (h other ho)

theorem sameElsewhere_hold (w : Workspace) (t : TargetFile) (files : FileSystem)
    (regions : List RegionReport) :
    w.SameElsewhere { files, targets := w.hold t, regions } t.path :=
  fun _ ho => find?_hold_other ho

theorem SameElsewhere.lacks {path other : FilePath} (h : w.SameElsewhere w' path)
    (ho : path.same other = false) (hl : w.Lacks other) : w'.Lacks other :=
  (h other ho).trans hl

theorem lacks_start (files : FileSystem) (path : FilePath) : Lacks { files } path := rfl

theorem inStep_hold {files : FileSystem} (hclean : t.content = t.onDisk) (htracks : t.Tracks files)
    (w : Workspace) (regions : List RegionReport) :
    InStep { files, targets := w.hold t, regions } t :=
  ⟨find?_hold_same t.path.same_refl, htracks, hclean⟩

/-- A step in write mode rewrites the text that target and file share. -/
theorem InStep.step (h : w.InStep t) (hp : t.path.same s.path = true)
    (hstep : w.step .write policy s = .ok w') :
    ∃ t' r outcome, t.rewriteRegion s.markers s.lines policy = .ok (r, outcome) ∧
      t'.content = r.content ∧ t'.path = t.path ∧ w'.InStep t' ∧
      w.files.Edits w'.files (w.files.At t.path) ∧ w.SameElsewhere w' t.path := by
  obtain ⟨t₀, r, u, outcome, wrote, files, hf, hr, hs, rfl⟩ := step_write_eq_ok hstep
  rw [h.holds.fetch_eq hp, Except.ok.injEq] at hf
  subst hf
  obtain ⟨hpath, -, -⟩ := TargetFile.rewriteRegion_keeps hr
  obtain ⟨rfl, htracks', hedits⟩ := TargetFile.save_eq_ok (h.tracks.rewriteRegion hr) hs
  have hsaved : r.saved.path = t.path := hpath
  refine ⟨r.saved, r, outcome, hr, rfl, hpath, ⟨find?_hold_same r.saved.path.same_refl, htracks',
    rfl⟩, hpath ▸ hedits, ?_⟩
  rw [← hsaved]
  exact sameElsewhere_hold w r.saved files _

/-- A run that rewrites regions of one target settles all of them, and keeps those
settled that are so already. -/
theorem InStep.run_settles (h : w.InStep t) (hp : ∀ s ∈ steps, t.path.same s.path = true)
    (htidy : Tidy group t.content) (hgroup : ∀ s ∈ steps, group s)
    (hne : steps.Pairwise fun s u => s.markers.start ≠ u.markers.start)
    (hrun : run .write policy w steps = (w', none)) :
    ∃ t', t'.path = t.path ∧ w'.InStep t' ∧ Tidy group t'.content ∧
      (∀ s ∈ steps, Settled policy s t'.content) ∧
      (∀ u, group u → Settled policy u t.content →
        (∀ s ∈ steps, u.markers.start ≠ s.markers.start) → Settled policy u t'.content) ∧
      w.files.Edits w'.files (w.files.At t.path) ∧ w.SameElsewhere w' t.path := by
  induction steps generalizing w t with
  | nil =>
    cases hrun
    exact ⟨t, rfl, h, htidy, by simp, fun _ _ hu _ => hu, .refl _ _, .refl _ _⟩
  | cons s rest ih =>
    obtain ⟨v, hstep, hrest⟩ := run_cons_eq_none hrun
    obtain ⟨t₁, r, outcome, hr, hcontent, hpath, hin, hedits, helse⟩ :=
      h.step (hp s (by simp)) hstep
    have hs : group s := hgroup s (by simp)
    rw [List.pairwise_cons] at hne
    obtain ⟨t', hpath', hin', htidy', hsettled, hkept, hedits', helse'⟩ :=
      ih hin (fun u hu => hpath ▸ hp u (by simp [hu])) (hcontent ▸ htidy.rewriteRegion hs hr)
        (fun u hu => hgroup u (by simp [hu])) hne.2 hrest
    have hat : v.files.At t₁.path = w.files.At t.path := by
      rw [hpath, hedits.at_eq]
    refine ⟨t', hpath'.trans hpath, hin', htidy', ?_, ?_, hedits.trans (hat ▸ hedits'),
      helse.trans (hpath ▸ helse')⟩
    · intro u hu
      rcases List.mem_cons.1 hu with rfl | hu
      · exact hkept u hs (hcontent ▸ settled_of_rewriteRegion htidy hs hr) hne.1
      · exact hsettled u hu
    · intro u hgu hu hdiff
      refine hkept u hgu ?_ fun x hx => hdiff x (by simp [hx])
      exact hcontent ▸ hu.rewriteRegion htidy hgu hs (hdiff s (by simp)) hr

/-- Over settled regions a run in either mode changes nothing but its report. -/
theorem run_of_settled (h : w.Holds t) (hclean : t.content = t.onDisk)
    (hp : ∀ s ∈ steps, t.path.same s.path = true)
    (hsettled : ∀ s ∈ steps, Settled policy s t.content) (mode : Mode) :
    ∃ w' regions, run mode policy w steps = (w', none) ∧ w'.files = w.files ∧ w'.Holds t ∧
      w.SameElsewhere w' t.path ∧ w'.regions = w.regions ++ regions ∧ Quiet regions := by
  induction steps generalizing w with
  | nil => exact ⟨w, [], rfl, rfl, h, .refl _ _, by simp, quiet_nil⟩
  | cons s rest ih =>
    obtain ⟨outcome, ho, hr⟩ := (hsettled s (by simp)).rewriteRegion_eq
    have hstep := step_of_clean (h.fetch_eq (hp s (by simp))) hr hclean mode
    obtain ⟨w', regions, hrun, hfiles, hholds, helse, hregions, hquiet⟩ :=
      ih (w := { w with targets := w.hold t, regions := w.regions ++ [s.report outcome] })
        (find?_hold_same t.path.same_refl) (fun u hu => hp u (by simp [hu]))
        (fun u hu => hsettled u (by simp [hu]))
    refine ⟨w', s.report outcome :: regions, ?_, hfiles, hholds,
      (sameElsewhere_hold w t w.files _).trans helse, by simp [hregions], hquiet.cons ho⟩
    rw [run_cons_ok hstep]
    exact hrun

end BindingRegions.Workspace

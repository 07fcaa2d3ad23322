import BindingRegions.Proofs.Region.Revision
import BindingRegions.Proofs.Run.Reread

/-! Rewrites made one by one, as seen from one file. The steps that lead to one place are
together a fold over the text there (`after?_rewriteEach_at`), and nothing else changes. A file that
must not be written is in order as long as every step leaves its text alone. -/

namespace BindingRegions

open Text

/-- What a step makes of the text of a file, unless it is refused or had to write a file
that is not writable. -/
def Step.reviseFile (policy : EndMarkerPolicy) (writable : Bool) (content : String) (s : Step) :
    Option String :=
  (s.revise policy content).filter fun revised => writable || revised = content

/-- The files that the rewrites left, if all of them succeeded. -/
def Passes.after? (each : Passes) : Option FileSystem :=
  match each.failure with
  | none => some each.files
  | some _ => none

def AllAt (files : FileSystem) (place : Place) (steps : List Step) : Prop :=
  ∀ s ∈ steps, files.At s.path place ∧ s.path.endsWithSlash = false

section OneFile

variable {files after : FileSystem} {policy : EndMarkerPolicy} {place : Place} {writable : Bool}
  {content revised : String} {s : Step} {steps rest : List Step} {e : Error} {outcome : Outcome}

theorem after?_rewriteEach_cons_error
    (h : rewriteFile files s.path s.markers s.lines policy .write = .error e) (rest : List Step) :
    (rewriteEach policy files (s :: rest)).after? = none := by
  rw [rewriteEach_cons_error h, Passes.after?]

theorem after?_rewriteEach_cons_ok
    (h : rewriteFile files s.path s.markers s.lines policy .write = .ok (outcome, after))
    (rest : List Step) :
    (rewriteEach policy files (s :: rest)).after? = (rewriteEach policy after rest).after? := by
  rw [rewriteEach_cons_ok h, Passes.after?, Passes.after?]

theorem after?_rewriteEach_append (policy : EndMarkerPolicy) (files : FileSystem)
    (xs ys : List Step) :
    (rewriteEach policy files (xs ++ ys)).after? =
      (rewriteEach policy files xs).after?.bind fun mid => (rewriteEach policy mid ys).after? := by
  induction xs generalizing files with
  | nil => rfl
  | cons s xs ih =>
    cases hr : rewriteFile files s.path s.markers s.lines policy .write with
    | error e =>
      rw [List.cons_append, after?_rewriteEach_cons_error hr, after?_rewriteEach_cons_error hr,
        Option.bind_none]
    | ok result =>
      obtain ⟨outcome, after⟩ := result
      rw [List.cons_append, after?_rewriteEach_cons_ok hr, after?_rewriteEach_cons_ok hr, ih]

/-- Also where a rewrite fails, the files are those that some of the rewrites left. -/
theorem exists_prefix_after? (policy : EndMarkerPolicy) (files : FileSystem) (steps : List Step) :
    ∃ done, done <+: steps ∧
      (rewriteEach policy files done).after? = some (rewriteEach policy files steps).files := by
  induction steps generalizing files with
  | nil => exact ⟨[], List.prefix_rfl, rfl⟩
  | cons s rest ih =>
    cases hr : rewriteFile files s.path s.markers s.lines policy .write with
    | error e =>
      rw [rewriteEach_cons_error hr]
      exact ⟨[], List.nil_prefix, rfl⟩
    | ok result =>
      obtain ⟨outcome, after⟩ := result
      obtain ⟨done, hdone, hafter⟩ := ih after
      refine ⟨s :: done, (List.prefix_cons_inj s).2 hdone, ?_⟩
      rw [after?_rewriteEach_cons_ok hr, hafter, rewriteEach_cons_ok hr]

/-- Rewrites edit the files that their steps go to, whether they all succeed or not. -/
theorem edits_rewriteEach (policy : EndMarkerPolicy) (files : FileSystem) (steps : List Step) :
    files.Edits (rewriteEach policy files steps).files
      fun place => ∃ s ∈ steps, files.At s.path place := by
  induction steps generalizing files with
  | nil => exact .refl _ _
  | cons s rest ih =>
    cases hr : rewriteFile files s.path s.markers s.lines policy .write with
    | error e =>
      rw [rewriteEach_cons_error hr]
      exact .refl _ _
    | ok result =>
      obtain ⟨outcome, after⟩ := result
      obtain ⟨-, -, -, -, -, -, -, -, hedits⟩ := rewriteFile_eq_ok hr
      rw [rewriteEach_cons_ok hr]
      refine (hedits.mono fun place hplace => ⟨s, by simp, hplace⟩).trans
        ((ih after).mono fun place hplace => ?_)
      obtain ⟨t, ht, hplace⟩ := hplace
      rw [hedits.at_eq] at hplace
      exact ⟨t, by simp [ht], hplace⟩

/-- A file stays as it is, byte for byte, as long as no rewrite that goes there finds its start
marker. -/
theorem entry_rewriteEach_of_absent
    (h : ∀ s ∈ steps, files.At s.path place → ∀ content writable,
      files.entry? place = some (.file (.text content) writable) →
        ∀ line ∈ splitLines content, isMarker s.markers.start line = false)
    (policy : EndMarkerPolicy) :
    (rewriteEach policy files steps).files.entry? place = files.entry? place := by
  induction steps generalizing files with
  | nil => rfl
  | cons s rest ih =>
    cases hr : rewriteFile files s.path s.markers s.lines policy .write with
    | error e => rw [rewriteEach_cons_error hr]
    | ok result =>
      obtain ⟨outcome, after⟩ := result
      obtain ⟨text, t, wrote, hread, hrewrite, hsave, -, -, hedits⟩ := rewriteFile_eq_ok hr
      have hentry : after.entry? place = files.entry? place := by
        rcases hedits.entry place with he | ⟨hat, -⟩
        · exact he
        · obtain ⟨-, other, writable, hother, hfile⟩ := FileSystem.read_eq_ok_iff.1 hread
          obtain rfl := hat.unique hother
          have habsent : ∀ line ∈ splitLines (⟨s.path, text, text⟩ : TargetFile).content,
              isMarker s.markers.start line = false := h s (by simp) hat text writable hfile
          rw [TargetFile.rewriteRegion_of_absent habsent, Except.ok.injEq, Prod.mk.injEq] at hrewrite
          obtain ⟨rfl, -⟩ := hrewrite
          rw [TargetFile.save_of_clean rfl, Except.ok.injEq, Prod.mk.injEq, Prod.mk.injEq] at hsave
          rw [hsave.2.2]
      rw [rewriteEach_cons_ok hr, ← hentry]
      refine ih fun u hu hat content writable hfile => ?_
      rw [hedits.at_eq] at hat
      rw [hentry] at hfile
      exact h u (by simp [hu]) hat content writable hfile

theorem Passes.files_of_after? {each : Passes} (h : each.after? = some after) :
    each.files = after := by
  unfold after? at h
  split at h
  · exact Option.some.inj h
  · cases h

theorem at_eq_of_after? (h : (rewriteEach policy files steps).after? = some after)
    (path : FilePath) : after.At path = files.At path := by
  rw [← Passes.files_of_after? h]
  exact (edits_rewriteEach policy files steps).at_eq path

/-! ### The text of the file -/

theorem AllAt.congr (h : AllAt files place steps) (hat : ∀ path, after.At path = files.At path) :
    AllAt after place steps := by
  intro s hs
  rw [hat]
  exact h s hs

theorem AllAt.read_eq (h : AllAt files place steps)
    (hentry : files.entry? place = some (.file (.text content) writable)) {s : Step}
    (hs : s ∈ steps) : files.read s.path = .ok content := by
  obtain ⟨hat, hslash⟩ := h s hs
  exact FileSystem.read_eq_ok_iff.2 ⟨hslash, place, writable, hat, hentry⟩

theorem Step.reviseFile_eq_some_iff :
    s.reviseFile policy writable content = some revised ↔
      s.revise policy content = some revised ∧ (writable = true ∨ revised = content) := by
  rw [reviseFile, Option.filter_eq_some_iff]
  simp

theorem Step.reviseFile_true (policy : EndMarkerPolicy) :
    Step.reviseFile policy true = Step.revise policy := by
  funext content s
  rw [reviseFile]
  cases s.revise policy content <;> simp

/-- A file that must not be written keeps its text. -/
theorem foldlM_reviseFile_false
    (h : steps.foldlM (Step.reviseFile policy false) content = some revised) :
    revised = content := by
  induction steps generalizing content with
  | nil => exact (Option.some.inj h).symm
  | cons s rest ih =>
    obtain ⟨next, hs, hrest⟩ := Option.bind_eq_some_iff.1 h
    obtain ⟨-, hcase⟩ := Step.reviseFile_eq_some_iff.1 hs
    have hnext : next = content := by simpa using hcase
    rw [ih hrest, hnext]

/-- A rewrite of a file sets its text to what the step makes of it. -/
theorem rewriteFile_at (hat : files.At s.path place) (hslash : s.path.endsWithSlash = false)
    (hentry : files.entry? place = some (.file (.text content) writable))
    (policy : EndMarkerPolicy) :
    (s.reviseFile policy writable content = none ∧
      ∃ e, rewriteFile files s.path s.markers s.lines policy .write = .error e) ∨
    ∃ revised outcome, s.reviseFile policy writable content = some revised ∧
      rewriteFile files s.path s.markers s.lines policy .write =
        .ok (outcome, files.set place (some (.file (.text revised) writable))) := by
  have hread : files.read s.path = .ok content :=
    FileSystem.read_eq_ok_iff.2 ⟨hslash, place, writable, hat, hentry⟩
  have hload : TargetFile.load files s.path = .ok (s.target content) :=
    TargetFile.load_of_read hread
  cases hr : (s.target content).rewriteRegion s.markers s.lines policy with
  | error e =>
    refine .inl ⟨?_, e, ?_⟩
    · rw [Step.reviseFile, Step.revise, hr]
      rfl
    · simp only [rewriteFile, hload, hr, ok_bind, error_bind]
  | ok rewritten =>
    obtain ⟨⟨path, onDisk, revised⟩, outcome⟩ := rewritten
    obtain ⟨hpath, hdisk, -⟩ := TargetFile.rewriteRegion_keeps hr
    obtain rfl : path = s.path := hpath
    obtain rfl : onDisk = content := hdisk
    have hrevise : s.revise policy onDisk = some revised := by rw [Step.revise, hr]
    rcases TargetFile.save_at ⟨s.path, onDisk, revised⟩ hat hslash hentry with
      ⟨hkept, e, hsave⟩ | ⟨hkept, wrote, hsave⟩
    · refine .inl ⟨?_, e, ?_⟩
      · rw [Option.eq_none_iff_forall_ne_some]
        intro other hother
        obtain ⟨hother, hcan⟩ := Step.reviseFile_eq_some_iff.1 hother
        obtain rfl := Option.some.inj (hrevise.symm.trans hother)
        exact hkept hcan
      · simp only [rewriteFile, hload, hr, hsave, ok_bind, error_bind]
    · refine .inr ⟨revised, outcome, Step.reviseFile_eq_some_iff.2 ⟨hrevise, hkept⟩, ?_⟩
      simp only [rewriteFile, hload, hr, hsave, ok_bind, pure_eq_ok]

/-- Rewrites of one file that all succeed are a fold over its text. -/
theorem after?_rewriteEach_at (hsteps : AllAt files place steps)
    (hentry : files.entry? place = some (.file (.text content) writable))
    (policy : EndMarkerPolicy) :
    (rewriteEach policy files steps).after? =
      (steps.foldlM (Step.reviseFile policy writable) content).map fun final =>
        files.set place (some (.file (.text final) writable)) := by
  induction steps generalizing files content with
  | nil =>
    have hself := FileSystem.set_self hentry
    rw [rewriteEach, Passes.after?, List.foldlM_nil]
    exact congrArg some hself.symm
  | cons s rest ih =>
    obtain ⟨hat, hslash⟩ := hsteps s (by simp)
    rw [List.foldlM_cons]
    rcases rewriteFile_at hat hslash hentry policy with ⟨hnone, e, hr⟩ | ⟨revised, outcome, hsome, hr⟩
    · rw [after?_rewriteEach_cons_error hr, hnone]
      rfl
    · obtain ⟨-, -, -, -, -, -, -, -, hedits⟩ := rewriteFile_eq_ok hr
      rw [after?_rewriteEach_cons_ok hr, hsome, ih ?_ (FileSystem.entry_set files place _)]
      · simp only [FileSystem.set_set]
        rfl
      · intro t ht
        rw [hedits.at_eq]
        exact hsteps t (by simp [ht])

/-- Whether rewrites of one file all succeed or not, its text is what some of the steps made
of it. -/
theorem exists_read_rewriteEach (hsteps : AllAt files place steps)
    (hentry : files.entry? place = some (.file (.text content) writable))
    (policy : EndMarkerPolicy) :
    ∃ done final, done <+: steps ∧ done.foldlM (Step.revise policy) content = some final ∧
      ∀ path, files.At path place → path.endsWithSlash = false →
        (rewriteEach policy files steps).files.read path = .ok final := by
  obtain ⟨done, hdone, hafter⟩ := exists_prefix_after? policy files steps
  have hedits := edits_rewriteEach policy files steps
  rw [after?_rewriteEach_at (fun s hs => hsteps s (hdone.subset hs)) hentry,
    Option.map_eq_some_iff] at hafter
  obtain ⟨final, hfold, hset⟩ := hafter
  have hread : ∀ path, files.At path place → path.endsWithSlash = false →
      (rewriteEach policy files steps).files.read path = .ok final := by
    intro path hat hslash
    rw [← hedits.at_eq path, ← hset] at hat
    rw [← hset]
    exact FileSystem.read_eq_ok_iff.2 ⟨hslash, place, writable, hat, FileSystem.entry_set _ _ _⟩
  cases writable with
  | true =>
    rw [Step.reviseFile_true] at hfold
    exact ⟨done, final, hdone, hfold, hread⟩
  | false => exact ⟨[], final, List.nil_prefix, by rw [foldlM_reviseFile_false hfold]; rfl, hread⟩

end OneFile

end BindingRegions

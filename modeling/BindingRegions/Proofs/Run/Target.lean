import BindingRegions.Proofs.Files.Edits
import BindingRegions.Proofs.Region.Cut

/-! Targets and the files they stand for. A rewrite touches nothing but the content in
memory, and a save leaves the file with that content; in between a target tracks its
file: the file holds the text that the target remembers as being on disk. -/

namespace BindingRegions

open Text

namespace TargetFile

variable {files after : FileSystem} {target target' : TargetFile} {path : FilePath}
  {markers : MarkerPair} {replacement : List String} {policy : EndMarkerPolicy}
  {outcome : Outcome} {wrote : Bool} {e : Error}

/-- The file holds what the target remembers of it. -/
def Tracks (files : FileSystem) (target : TargetFile) : Prop :=
  files.read target.path = .ok target.onDisk

theorem load_eq_ok (h : load files path = .ok target) :
    target.path = path ∧ target.content = target.onDisk ∧ target.Tracks files := by
  unfold load at h
  split at h
  · rename_i text hread
    cases h
    exact ⟨rfl, rfl, hread⟩
  · cases h

theorem load_of_read {text : String} (h : files.read path = .ok text) :
    load files path = .ok ⟨path, text, text⟩ := by
  simp only [load, h]

theorem load_eq_error (h : load files path = .error e) :
    ∃ fault, files.read path = .error fault ∧ e = .targetFile path fault := by
  unfold load at h
  split at h
  · cases h
  · rename_i fault hread
    exact ⟨fault, hread, (Except.error.inj h).symm⟩

/-- Only the strict policy refuses a rewrite, and only for want of the end marker. -/
theorem rewriteRegion_eq_error (h : target.rewriteRegion markers replacement policy = .error e) :
    policy = .strict ∧ e = .missingEndMarker target.path markers.stop := by
  rcases rewriteRegion_cases target markers replacement policy with ⟨-, hr⟩ | ⟨hstrict, hr⟩ |
    ⟨l, t, o, -, -, hr⟩ <;> rw [h] at hr
  · cases hr
  · exact ⟨hstrict, Except.error.inj hr⟩
  · cases hr

theorem rewriteRegion_keeps
    (h : target.rewriteRegion markers replacement policy = .ok (target', outcome)) :
    target'.path = target.path ∧ target'.onDisk = target.onDisk ∧
      (outcome ≠ .replaced → target' = target) := by
  rcases rewriteRegion_eq_ok h with ⟨-, rfl, -⟩ | ⟨l, hat, -⟩
  · exact ⟨rfl, rfl, fun _ => rfl⟩
  · have hpath : target'.path = target.path := by rw [hat.target_eq]
    have hdisk : target'.onDisk = target.onDisk := by rw [hat.target_eq]
    refine ⟨hpath, hdisk, fun hne => ?_⟩
    have hcontent : target'.content = target.content := by
      by_contra hc
      exact hne (by rw [hat.outcome_eq, if_neg hc])
    cases target
    cases target'
    simp_all

theorem Tracks.rewriteRegion (h : target.Tracks files)
    (hr : target.rewriteRegion markers replacement policy = .ok (target', outcome)) :
    target'.Tracks files := by
  obtain ⟨hpath, hdisk, -⟩ := rewriteRegion_keeps hr
  rw [Tracks, hpath, hdisk]
  exact h

/-! ### Saving -/

/-- The target after its content is written. -/
def saved (target : TargetFile) : TargetFile := { target with onDisk := target.content }

@[simp] theorem saved_path (target : TargetFile) : target.saved.path = target.path := rfl

theorem saved_eq_self (h : target.content = target.onDisk) : target.saved = target := by
  cases target
  simp_all [saved]

/-- What a rewrite does depends on the content alone; the path is only for the error. -/
theorem rewriteRegion_of_content_eq {t u : TargetFile} (h : u.content = t.content)
    (markers : MarkerPair) (replacement : List String) (policy : EndMarkerPolicy) :
    (t.rewriteRegion markers replacement policy =
        .error (.missingEndMarker t.path markers.stop) ∧
      u.rewriteRegion markers replacement policy =
        .error (.missingEndMarker u.path markers.stop)) ∨
    ∃ content outcome,
      t.rewriteRegion markers replacement policy = .ok ({ t with content }, outcome) ∧
      u.rewriteRegion markers replacement policy = .ok ({ u with content }, outcome) := by
  rcases Cut.exists_marks (splitLines t.content) markers with hnone | ⟨l, hl, hm⟩
  · have hnone' : ∀ line ∈ splitLines u.content, isMarker markers.start line = false := by
      rwa [h]
    rw [rewriteRegion_of_absent hnone, rewriteRegion_of_absent hnone']
    exact .inr ⟨t.content, .markerNotFound, rfl, by rw [← h]⟩
  · have hl' : l.lines = splitLines u.content := by rw [hl, h]
    rw [rewriteRegion_of_marks hl hm, rewriteRegion_of_marks hl' hm, h]
    by_cases hs : l.rest = [] ∧ policy = .strict
    · simp only [if_pos hs]
      exact .inl ⟨trivial, trivial⟩
    · simp only [if_neg hs]
      by_cases hc : joinLines (l.spliced replacement) = t.content
      · simp only [if_pos hc]
        exact .inr ⟨t.content, .unchanged, rfl, by rw [← h]⟩
      · simp only [if_neg hc]
        exact .inr ⟨_, .replaced, rfl, rfl⟩

theorem rewriteRegion_saved_eq_ok
    (h : target.rewriteRegion markers replacement policy = .ok (target', outcome)) :
    ∃ rewritten, target.saved.rewriteRegion markers replacement policy = .ok (rewritten, outcome) ∧
      rewritten.saved = target'.saved := by
  have hcontent : target.saved.content = target.content := rfl
  rcases rewriteRegion_of_content_eq hcontent markers replacement policy with
    ⟨hr, -⟩ | ⟨content, o, hr, hsaved⟩ <;> rw [h] at hr
  · cases hr
  · rw [Except.ok.injEq, Prod.mk.injEq] at hr
    obtain ⟨rfl, rfl⟩ := hr
    exact ⟨_, hsaved, rfl⟩

theorem rewriteRegion_saved_eq_error
    (h : target.rewriteRegion markers replacement policy = .error e) :
    target.saved.rewriteRegion markers replacement policy = .error e := by
  have hcontent : target.saved.content = target.content := rfl
  rcases rewriteRegion_of_content_eq hcontent markers replacement policy with
    ⟨hr, hsaved⟩ | ⟨content, o, hr, -⟩ <;> rw [h] at hr
  · rw [hsaved, hr, saved_path]
  · cases hr

theorem save_of_clean (h : target.content = target.onDisk) (files : FileSystem) :
    target.save files = .ok (target, false, files) := if_pos h

theorem save_of_write (h : target.content ≠ target.onDisk)
    (hw : files.write target.path target.content = .ok after) :
    target.save files = .ok (target.saved, true, after) := by
  rw [save, if_neg h, hw, saved]

theorem save_of_write_error {fault : IoFault} (h : target.content ≠ target.onDisk)
    (hw : files.write target.path target.content = .error fault) :
    target.save files = .error (.targetFile target.path fault) := by
  rw [save, if_neg h, hw]

theorem save_path (h : target.save files = .ok (target', wrote, after)) :
    target'.path = target.path := by
  unfold save at h
  split at h
  · cases h
    rfl
  · split at h <;> cases h
    rfl

/-- A save leaves nothing in memory that the file does not have. -/
theorem save_clean (h : target.save files = .ok (target', wrote, after)) :
    target'.content = target'.onDisk := by
  unfold save at h
  split at h
  · rename_i hclean
    cases h
    exact hclean
  · split at h <;> cases h
    rfl

theorem save_eq_error (h : target.save files = .error e) :
    ∃ fault, files.write target.path target.content = .error fault ∧
      e = .targetFile target.path fault := by
  unfold save at h
  split at h
  · cases h
  · split at h
    · rename_i fault hwrite
      exact ⟨fault, hwrite, (Except.error.inj h).symm⟩
    · cases h

/-- A save leaves the file with the content, and no other file changes. -/
theorem save_eq_ok (htracks : target.Tracks files)
    (h : target.save files = .ok (target', wrote, after)) :
    target' = target.saved ∧ target'.Tracks after ∧
      files.Edits after (files.At target.path) := by
  by_cases hc : target.content = target.onDisk
  · rw [save_of_clean hc] at h
    obtain ⟨rfl, -, rfl⟩ : target = target' ∧ false = wrote ∧ files = after := by simpa using h
    exact ⟨(saved_eq_self hc).symm, htracks, .refl _ _⟩
  · cases hw : files.write target.path target.content with
    | error fault =>
      rw [save_of_write_error hc hw] at h
      cases h
    | ok written =>
      rw [save_of_write hc hw] at h
      obtain ⟨rfl, -, rfl⟩ : target.saved = target' ∧ true = wrote ∧ written = after := by
        simpa using h
      exact ⟨rfl, FileSystem.read_of_write hw, FileSystem.edits_of_write htracks hw⟩

/-- Where the file may be written over, a save succeeds. -/
theorem exists_save (htracks : target.Tracks files) (ho : files.Overwritable target.path) :
    ∃ wrote after, target.save files = .ok (target.saved, wrote, after) := by
  by_cases hc : target.content = target.onDisk
  · exact ⟨false, files, by rw [save_of_clean hc, saved_eq_self hc]⟩
  · obtain ⟨after, hw⟩ := ho _ target.content htracks
    exact ⟨true, after, save_of_write hc hw⟩

/-- A save sets the text of the file to the content, unless that is another text and the
file must not be written. -/
theorem save_at {place : Place} {writable : Bool} (target : TargetFile)
    (hat : files.At target.path place) (hslash : target.path.endsWithSlash = false)
    (hentry : files.entry? place = some (.file (.text target.onDisk) writable)) :
    (¬ (writable = true ∨ target.content = target.onDisk) ∧ ∃ e, target.save files = .error e) ∨
    (writable = true ∨ target.content = target.onDisk) ∧ ∃ wrote, target.save files =
      .ok (target.saved, wrote, files.set place (some (.file (.text target.content) writable))) := by
  by_cases hc : target.content = target.onDisk
  · have hself : files.set place (some (.file (.text target.content) writable)) = files := by
      rw [hc, FileSystem.set_self hentry]
    exact .inr ⟨.inr hc, false, by rw [hself, save_of_clean hc, saved_eq_self hc]⟩
  cases hw : files.write target.path target.content with
  | error fault =>
    refine .inl ⟨?_, .targetFile target.path fault, save_of_write_error hc hw⟩
    rintro (rfl | h)
    · have hwritten : files.write target.path target.content = .ok _ :=
        FileSystem.write_eq_ok_iff.2 ⟨hslash, place, hat, .inr ⟨_, hentry⟩, rfl⟩
      rw [hwritten] at hw
      cases hw
    · exact hc h
  | ok written =>
    obtain ⟨-, other, hother, hcan, hset⟩ := FileSystem.write_eq_ok_iff.1 hw
    obtain rfl := hat.unique hother
    obtain rfl : writable = true := by simpa [hentry] using hcan
    exact .inr ⟨.inl rfl, true, by rw [save_of_write hc hw, hset]⟩

end TargetFile

/-! ### Rewrites that are asked for -/

structure Rewrite where
  markers : MarkerPair
  replacement : List String
  policy : EndMarkerPolicy

namespace TargetFile

variable {target target' t u : TargetFile} {r : Rewrite} {outcome : Outcome} {e : Error}

/-- The target after a rewrite is asked for, and the answer. A rewrite that is refused leaves the
target as it is. -/
def attempt (target : TargetFile) (r : Rewrite) : TargetFile × Except Error Outcome :=
  match target.rewriteRegion r.markers r.replacement r.policy with
  | .ok (target', outcome) => (target', .ok outcome)
  | .error e => (target, .error e)

/-- The target after rewrites are asked for one after the other, and the answers. -/
def attemptAll (target : TargetFile) :
    List Rewrite → TargetFile × List (Except Error Outcome)
  | [] => (target, [])
  | r :: rest =>
    let last := (target.attempt r).1.attemptAll rest
    (last.1, (target.attempt r).2 :: last.2)

theorem attempt_of_ok
    (h : target.rewriteRegion r.markers r.replacement r.policy = .ok (target', outcome)) :
    target.attempt r = (target', .ok outcome) := by
  rw [attempt, h]

theorem attempt_of_error (h : target.rewriteRegion r.markers r.replacement r.policy = .error e) :
    target.attempt r = (target, .error e) := by
  rw [attempt, h]

theorem attempt_keeps (target : TargetFile) (r : Rewrite) :
    (target.attempt r).1.path = target.path ∧ (target.attempt r).1.onDisk = target.onDisk := by
  cases h : target.rewriteRegion r.markers r.replacement r.policy with
  | error e =>
    rw [attempt_of_error h]
    exact ⟨rfl, rfl⟩
  | ok rewritten =>
    obtain ⟨hpath, hdisk, -⟩ := rewriteRegion_keeps h
    rw [attempt_of_ok h]
    exact ⟨hpath, hdisk⟩

/-- The content changes just when the answer is that it was replaced. -/
theorem content_attempt_ne_iff (target : TargetFile) (r : Rewrite) :
    (target.attempt r).1.content ≠ target.content ↔ (target.attempt r).2 = .ok .replaced := by
  cases h : target.rewriteRegion r.markers r.replacement r.policy with
  | error e => simp [attempt_of_error h]
  | ok rewritten =>
    rw [attempt_of_ok h]
    rcases rewriteRegion_eq_ok h with ⟨-, hsame, hout⟩ | ⟨l, hat, -⟩
    · simp [hsame, hout]
    · rw [hat.outcome_eq]
      split_ifs with hc <;> simp [hc]

/-- Targets with one path and one content answer alike, whatever they remember of the file. -/
theorem attempt_congr (hpath : u.path = t.path) (hcontent : u.content = t.content) (r : Rewrite) :
    (u.attempt r).2 = (t.attempt r).2 ∧ (u.attempt r).1.content = (t.attempt r).1.content := by
  rcases rewriteRegion_of_content_eq hcontent r.markers r.replacement r.policy with
    ⟨ht, hu⟩ | ⟨content, outcome, ht, hu⟩
  · rw [attempt_of_error ht, attempt_of_error hu, hpath]
    exact ⟨rfl, hcontent⟩
  · rw [attempt_of_ok ht, attempt_of_ok hu]
    exact ⟨rfl, rfl⟩

end TargetFile

end BindingRegions

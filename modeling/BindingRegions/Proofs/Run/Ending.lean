import BindingRegions.Proofs.Run.Convergence
import BindingRegions.Proofs.Run.OneFile

/-! What a run leaves behind. It fails before its first step, or at one of them, or not at
all (`Run.Ends`), and then it has told of the steps before that and has left the files as
they were after these. Whatever happens, it only edits the files of source and header, and
not even those of them that hold no start marker (`generate_ends`). -/

namespace BindingRegions

open Text

/-- What a report is on: the path and the fragment. -/
def RegionReport.subject (region : RegionReport) : FilePath × FragmentKind :=
  (region.path, region.kind)

def Step.subject (s : Step) : FilePath × FragmentKind := (s.path, s.kind)

/-- The error is one that the step may end with: it names the step's target, and the end
marker if that is what was missing. -/
inductive Error.Blames (s : Step) : Error → Prop
  | target {path : FilePath} : path.same s.path = true → ∀ fault : IoFault,
    Blames s (.targetFile path fault)
  | endMarker {path : FilePath} : path.same s.path = true →
    Blames s (.missingEndMarker path s.markers.stop)

/-- How a run on the files may end. -/
inductive Run.Ends (files : FileSystem) (request : Request) (config : Config) : Run → Prop
  /-- Without a schema there is nothing to tell, and no file changes. -/
  | unread {e : Error} : Schema.load files request.schemaPath = .error e → e.kind = .schema →
    Ends files request config ⟨.error e, [], files⟩
  /-- A step fails: the run has told of the steps before it and has left their files. -/
  | stopped {schema : Schema} {before after : List Step} {s : Step} {w : Workspace} {e : Error} :
    Schema.load files request.schemaPath = .ok schema →
    request.steps config schema = before ++ s :: after →
    Workspace.run request.mode config.endMarkerPolicy { files } before = (w, none) →
    w.regions.map RegionReport.subject = before.map Step.subject →
    w.step request.mode config.endMarkerPolicy s = .error e → e.Blames s →
    Ends files request config ⟨.error e,
      .schemaLoaded request.schemaPath schema.functions.length :: w.regions.map .region, w.files⟩
  /-- All steps are made: the run has told of each what its report has. -/
  | finished {schema : Schema} {w : Workspace} :
    Schema.load files request.schemaPath = .ok schema →
    Workspace.run request.mode config.endMarkerPolicy { files } (request.steps config schema) =
      (w, none) →
    w.regions.map RegionReport.subject = [(request.sourcePath, .stubs),
      (request.headerPath, .declarations), (request.headerPath, .symbols)] →
    Ends files request config ⟨.ok ⟨schema.functions.length, w.regions⟩,
      .schemaLoaded request.schemaPath schema.functions.length :: w.regions.map .region, w.files⟩

/-- The regions that a run rewrites, each with the path of its file. -/
def Request.regions (request : Request) (config : Config) : List (FilePath × MarkerPair) :=
  [(request.sourcePath, config.bodyMarkers), (request.headerPath, config.headerMarkers),
    (request.headerPath, config.symbolMarkers)]

/-- The text at the place, if there is one, has no start marker line of a region that is
rewritten in the path's target. -/
def Unmarked (files : FileSystem) (request : Request) (config : Config) (path : FilePath)
    (place : Place) : Prop :=
  ∀ region ∈ request.regions config, files.OneTarget path region.1 → ∀ content writable,
    files.entry? place = some (.file (.text content) writable) →
      ∀ line ∈ splitLines content, isMarker region.2.start line = false

namespace Workspace

variable {w w' : Workspace} {mode : Mode} {policy : EndMarkerPolicy} {s : Step}
  {steps : List Step} {e : Error}

theorem blames_of_step (h : w.step mode policy s = .error e) : e.Blames s := by
  obtain ⟨path, hpath, ⟨fault, rfl⟩ | ⟨-, rfl⟩⟩ := error_of_step h
  · exact .target hpath fault
  · exact .endMarker hpath

/-- A run that is through has added one report a step. -/
theorem subjects_of_run (h : run mode policy w steps = (w', none)) :
    w'.regions.map RegionReport.subject =
      w.regions.map RegionReport.subject ++ steps.map Step.subject := by
  induction steps generalizing w with
  | nil =>
    cases h
    simp
  | cons s rest ih =>
    obtain ⟨v, hs, hrest⟩ := run_cons_eq_none h
    obtain ⟨-, -, outcome, -, -, hregions⟩ := step_eq_ok hs
    rw [ih hrest, hregions, List.map_append, List.append_assoc]
    rfl

end Workspace

section Generate

variable {files : FileSystem} {request : Request} {config : Config}

theorem ends_of_run (files : FileSystem) (request : Request) (config : Config) :
    (generate files request config).Ends files request config := by
  cases hload : Schema.load files request.schemaPath with
  | error e =>
    rw [generate_of_load_error hload]
    exact .unread hload (Schema.kind_of_load_error hload)
  | ok schema =>
    rcases hrun : Workspace.run request.mode config.endMarkerPolicy { files }
      (request.steps config schema) with ⟨w, _ | e⟩ <;> rw [generate_of_run request hload hrun]
    · exact .finished hload hrun (Workspace.subjects_of_run hrun)
    · obtain ⟨before, s, after, hsteps, hbefore, hs⟩ := Workspace.run_eq_some_iff.1 hrun
      exact .stopped hload hsteps hbefore (Workspace.subjects_of_run hbefore) hs
        (Workspace.blames_of_step hs)

/-- The header's steps go to the header, or to the source if that is the same target. -/
theorem exists_region_of_mem_spelled_steps {schema : Schema} {s : Step}
    (h : s ∈ request.spelled.steps config schema) :
    ∃ region ∈ request.regions config, s.markers = region.2 ∧ (s.path = region.1 ∨
      request.sourcePath.same request.headerPath = true ∧ s.path = request.sourcePath ∧
        region.1 = request.headerPath) := by
  have hspelled : request.spelled.headerPath = request.headerPath ∨
      request.sourcePath.same request.headerPath = true ∧
        request.spelled.headerPath = request.sourcePath := by
    unfold Request.spelled
    split_ifs with hsame
    · exact .inr ⟨hsame, rfl⟩
    · exact .inl rfl
  simp only [Request.steps, List.mem_cons, List.not_mem_nil, or_false] at h
  rcases h with rfl | rfl | rfl
  · exact ⟨_, List.mem_cons_self, rfl, .inl rfl⟩
  · exact ⟨(request.headerPath, config.headerMarkers), by simp [Request.regions], rfl,
      hspelled.imp_right fun ⟨hsame, hpath⟩ => ⟨hsame, hpath, rfl⟩⟩
  · exact ⟨(request.headerPath, config.symbolMarkers), by simp [Request.regions], rfl,
      hspelled.imp_right fun ⟨hsame, hpath⟩ => ⟨hsame, hpath, rfl⟩⟩

/-- Where a target holds no start marker, no step finds one there. -/
theorem Unmarked.absent {path : FilePath} {place : Place}
    (h : Unmarked files request config path place)
    (hpath : path = request.sourcePath ∨ path = request.headerPath) (hat : files.At path place)
    {schema : Schema} {s : Step} (hs : s ∈ request.spelled.steps config schema)
    (hplace : files.At s.path place) {content : String} {writable : Bool}
    (hentry : files.entry? place = some (.file (.text content) writable)) :
    ∀ line ∈ splitLines content, isMarker s.markers.start line = false := by
  obtain ⟨region, hregion, hmarkers, hgoes⟩ := exists_region_of_mem_spelled_steps hs
  rw [hmarkers]
  refine h region hregion ?_ content writable hentry
  rcases hgoes with hgoes | ⟨hsame, -, hheader⟩
  · exact .inr ⟨place, hat, hgoes ▸ hplace⟩
  · rw [hheader]
    rcases hpath with rfl | rfl
    · exact .inl hsame
    · exact .inl (FilePath.same_refl _)

/-- A write run edits no file but those of its targets, and none without a start marker. -/
theorem edits_generate_write (files : FileSystem) (request : Request) (config : Config) :
    let run := generate files { request with mode := .write } config
    files.Edits run.files (fun place => files.At request.sourcePath place ∨
        files.At request.headerPath place) ∧
      ∀ path place, path = request.sourcePath ∨ path = request.headerPath → files.At path place →
        Unmarked files request config path place → run.files.entry? place = files.entry? place := by
  intro run
  cases hload : Schema.load files request.schemaPath with
  | error e =>
    have hrun : run = ⟨.error e, [], files⟩ := generate_of_load_error hload
    rw [hrun]
    exact ⟨.refl _ _, fun _ _ _ _ _ => rfl⟩
  | ok schema =>
    rw [show run.files = _ from (generate_spelled request hload config).1]
    refine ⟨(edits_rewriteEach _ _ _).mono ?_, fun path place hpath hat hunmarked => ?_⟩
    · rintro place ⟨s, hs, hat⟩
      rcases Request.path_of_mem_spelled_steps hs with hpath | hpath <;> rw [hpath] at hat
      · exact .inl hat
      · exact .inr hat
    · exact entry_rewriteEach_of_absent
        (fun s hs hplace _ _ hentry => hunmarked.absent hpath hat hs hplace hentry) _

/-- A run ends in one of three ways, and is left as the steps that it made have left it. In
check mode no file changes, in write mode none but those of source and header, and of
these none that holds no start marker of its regions. -/
theorem generate_ends (files : FileSystem) (request : Request) (config : Config) :
    let run := generate files request config
    run.Ends files request config ∧ (request.mode = .check → run.files = files) ∧
      files.Edits run.files (fun place => files.At request.sourcePath place ∨
        files.At request.headerPath place) ∧
      ∀ path place, path = request.sourcePath ∨ path = request.headerPath → files.At path place →
        Unmarked files request config path place → run.files.entry? place = files.entry? place := by
  intro run
  have hcheck : request.mode = .check → run.files = files :=
    generate_check_files files request config
  refine ⟨ends_of_run files request config, hcheck, ?_⟩
  cases hmode : request.mode with
  | check =>
    rw [hcheck hmode]
    exact ⟨.refl _ _, fun _ _ _ _ _ => rfl⟩
  | write =>
    have hrequest : run = generate files { request with mode := .write } config := by
      rw [← hmode]
    rw [hrequest]
    exact edits_generate_write files request config

end Generate

end BindingRegions

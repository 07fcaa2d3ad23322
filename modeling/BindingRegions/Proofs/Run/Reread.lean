import BindingRegions.Proofs.Files.Spelling
import BindingRegions.Proofs.Run.Session

/-! Runs against rewrites made one by one. A run in write mode reads each target once and
holds it; `rewriteEach` reads the file anew for every rewrite. Between the steps the
target held has the text of its file (`Current`), so each step is a rewrite of the file
under the spelling by which its target is held (`step_write_eq`), and a whole run is the
rewrites one by one, the header spelled as the source where the two are one target
(`follows_spelled`). With the header spelled as it was given the run ends the same way if
that spelling leads to the file (`generate_endsAs_rewriteEach`), and need not if it does
not. -/

namespace BindingRegions

/-- What came of rewrites made one by one. -/
structure Passes where
  files : FileSystem
  outcomes : List Outcome
  failure : Option Error

/-- Makes rewrites in order, each of which reads its file and writes it back, up to the
first that fails. -/
def rewriteEach (policy : EndMarkerPolicy) : FileSystem → List Step → Passes
  | files, [] => ⟨files, [], none⟩
  | files, s :: rest =>
    match rewriteFile files s.path s.markers s.lines policy .write with
    | .error e => ⟨files, [], some e⟩
    | .ok (outcome, files) =>
      let later := rewriteEach policy files rest
      { later with outcomes := outcome :: later.outcomes }

def Step.spelled (s : Step) (path : FilePath) : Step := { s with path }

section RewriteEach

variable {files after : FileSystem} {policy : EndMarkerPolicy} {s : Step} {rest : List Step}
  {outcome : Outcome} {e : Error}

theorem rewriteEach_cons_error
    (h : rewriteFile files s.path s.markers s.lines policy .write = .error e) (rest : List Step) :
    rewriteEach policy files (s :: rest) = ⟨files, [], some e⟩ := by
  rw [rewriteEach, h]

theorem rewriteEach_cons_ok
    (h : rewriteFile files s.path s.markers s.lines policy .write = .ok (outcome, after))
    (rest : List Step) :
    rewriteEach policy files (s :: rest) =
      ⟨(rewriteEach policy after rest).files, outcome :: (rewriteEach policy after rest).outcomes,
        (rewriteEach policy after rest).failure⟩ := by
  rw [rewriteEach, h]

/-- A rewrite of a file that succeeds has read it, and written it back if need be. -/
theorem rewriteFile_eq_ok {path : FilePath} {markers : MarkerPair} {replacement : List String}
    (h : rewriteFile files path markers replacement policy .write = .ok (outcome, after)) :
    ∃ text t wrote, files.read path = .ok text ∧
      (⟨path, text, text⟩ : TargetFile).rewriteRegion markers replacement policy =
        .ok (t, outcome) ∧
      t.save files = .ok (t.saved, wrote, after) ∧ t.path = path ∧
      t.saved.Tracks after ∧ files.Edits after (files.At path) := by
  unfold rewriteFile at h
  obtain ⟨loaded, hload, h⟩ := bind_eq_ok h
  obtain ⟨⟨t, o⟩, hr, h⟩ := bind_eq_ok h
  obtain ⟨⟨u, wrote, written⟩, hs, h⟩ := bind_eq_ok h
  obtain ⟨rfl, rfl⟩ : o = outcome ∧ written = after := by simpa using h
  obtain ⟨hpath, hclean, htracks⟩ := TargetFile.load_eq_ok hload
  obtain ⟨path', text, content⟩ := loaded
  simp only at hpath hclean
  subst hpath hclean
  obtain ⟨hkeep, -, -⟩ := TargetFile.rewriteRegion_keeps hr
  obtain ⟨rfl, htracks', hedits⟩ := TargetFile.save_eq_ok (htracks.rewriteRegion hr) hs
  have hkeep : t.path = path' := hkeep
  rw [hkeep] at hedits
  exact ⟨_, t, wrote, htracks, hr, hs, hkeep, htracks', hedits⟩

end RewriteEach

namespace Workspace

variable {w : Workspace} {policy : EndMarkerPolicy} {s : Step} {path : FilePath}

/-- A target that is held for the path has the text of its file. -/
def Current (w : Workspace) (path : FilePath) : Prop :=
  ∀ t, w.targets.find? (·.path.same path) = some t → t.content = t.onDisk ∧ t.Tracks w.files

/-- The spelling under which the path's target is held, or else the path itself. -/
def spelling (w : Workspace) (path : FilePath) : FilePath :=
  ((w.targets.find? (·.path.same path)).map (·.path)).getD path

theorem Lacks.current (h : w.Lacks path) : w.Current path := by
  intro t ht
  rw [Lacks] at h
  rw [h] at ht
  cases ht

theorem Lacks.spelling_eq (h : w.Lacks path) : w.spelling path = path := by
  rw [Lacks] at h
  rw [spelling, h]
  rfl

theorem InStep.current {t : TargetFile} (h : w.InStep t) (hp : t.path.same path = true) :
    w.Current path ∧ w.spelling path = t.path := by
  have hholds : w.targets.find? (·.path.same path) = some t := by
    rw [← find?_congr hp]
    exact h.holds
  refine ⟨fun u hu => ?_, by rw [spelling, hholds]; rfl⟩
  rw [hholds, Option.some.injEq] at hu
  exact hu ▸ ⟨h.clean, h.tracks⟩

/-- Fetching a current target is reading its file anew. -/
theorem Current.fetch_eq (h : w.Current path) :
    w.fetch path = TargetFile.load w.files (w.spelling path) := by
  cases hfind : w.targets.find? (·.path.same path) with
  | none =>
    have hl : w.Lacks path := hfind
    rw [hl.fetch_eq, hl.spelling_eq]
  | some t =>
    obtain ⟨hclean, htracks⟩ := h t hfind
    have hspelling : w.spelling path = t.path := by rw [spelling, hfind]; rfl
    rw [fetch, hfind, hspelling, TargetFile.load_of_read htracks]
    cases t
    simp_all

/-- A step in write mode is a rewrite of its file. -/
theorem step_write_eq (h : w.Current s.path) (policy : EndMarkerPolicy) :
    (∃ e, w.step .write policy s = .error e ∧
      rewriteFile w.files (w.spelling s.path) s.markers s.lines policy .write = .error e) ∨
    ∃ u outcome after, rewriteFile w.files (w.spelling s.path) s.markers s.lines policy .write =
        .ok (outcome, after) ∧
      w.step .write policy s =
        .ok ⟨after, w.hold u, w.regions ++ [s.report outcome]⟩ ∧
      u.path = w.spelling s.path ∧ u.content = u.onDisk ∧ u.Tracks after := by
  have hfetch := h.fetch_eq
  cases hload : TargetFile.load w.files (w.spelling s.path) with
  | error e =>
    rw [hload] at hfetch
    exact .inl ⟨e, step_of_fetch_error hfetch, by simp only [rewriteFile, hload, error_bind]⟩
  | ok t =>
    rw [hload] at hfetch
    obtain ⟨hpath, -, htracks⟩ := TargetFile.load_eq_ok hload
    cases hr : t.rewriteRegion s.markers s.lines policy with
    | error e =>
      exact .inl ⟨e, step_of_rewrite_error hfetch hr,
        by simp only [rewriteFile, hload, hr, ok_bind, error_bind]⟩
    | ok rewritten =>
      obtain ⟨t', outcome⟩ := rewritten
      obtain ⟨hkeep, -, -⟩ := TargetFile.rewriteRegion_keeps hr
      cases hs : t'.save w.files with
      | error e =>
        exact .inl ⟨e, step_of_save_error hfetch hr hs,
          by simp only [rewriteFile, hload, hr, hs, ok_bind, error_bind]⟩
      | ok saved =>
        obtain ⟨u, wrote, after⟩ := saved
        obtain ⟨rfl, htracks', -⟩ := TargetFile.save_eq_ok (htracks.rewriteRegion hr) hs
        refine .inr ⟨_, outcome, after, ?_, step_write hfetch hr hs, hkeep.trans hpath, rfl,
          htracks'⟩
        simp only [rewriteFile, hload, hr, hs, ok_bind, pure_eq_ok]

/-- A run went as rewrites made one by one did, and reports on each. -/
structure Follows (w : Workspace) (steps : List Step) (run : Workspace × Option Error)
    (each : Passes) : Prop where
  files_eq : run.1.files = each.files
  failure_eq : run.2 = each.failure
  regions_eq : run.1.regions = w.regions ++ List.zipWith Step.report steps each.outcomes

theorem follows_nil (policy : EndMarkerPolicy) (w : Workspace) :
    w.Follows [] (run .write policy w []) (rewriteEach policy w.files []) :=
  ⟨rfl, rfl, by simp⟩

/-- A run follows if it does so after its first step. -/
theorem Current.follows_cons {rest rest' : List Step} (h : w.Current s.path)
    (hthen : ∀ v u, v.InStep u → u.path = w.spelling s.path → w.SameElsewhere v u.path →
      v.Follows rest (run .write policy v rest) (rewriteEach policy v.files rest')) :
    w.Follows (s :: rest) (run .write policy w (s :: rest))
      (rewriteEach policy w.files (s.spelled (w.spelling s.path) :: rest')) := by
  rcases step_write_eq h policy with ⟨e, hstep, hr⟩ |
    ⟨u, outcome, after, hr, hstep, hpath, hclean, htracks⟩
  · rw [run_cons_error hstep, rewriteEach_cons_error (s := s.spelled (w.spelling s.path)) hr]
    exact ⟨rfl, rfl, by simp⟩
  · have hlater := hthen _ u (inStep_hold hclean htracks w (w.regions ++ [s.report outcome])) hpath
      (sameElsewhere_hold w u after _)
    rw [run_cons_ok hstep, rewriteEach_cons_ok (s := s.spelled (w.spelling s.path)) hr]
    refine ⟨hlater.files_eq, hlater.failure_eq, ?_⟩
    rw [hlater.regions_eq, List.zipWith_cons_cons, List.append_assoc, List.singleton_append]

/-- Steps to a target that is held follow the rewrites under its spelling. -/
theorem InStep.follows {t : TargetFile} {steps : List Step} (h : w.InStep t)
    (hp : ∀ s ∈ steps, t.path.same s.path = true) :
    w.Follows steps (run .write policy w steps)
      (rewriteEach policy w.files (steps.map (·.spelled t.path))) := by
  induction steps generalizing w t with
  | nil => exact follows_nil policy w
  | cons s rest ih =>
    obtain ⟨hcurrent, hspelling⟩ := h.current (hp s (by simp))
    rw [List.map_cons, ← hspelling]
    refine hcurrent.follows_cons fun v u hu hpath _ => ?_
    rw [← hpath]
    refine ih hu fun x hx => ?_
    rw [hpath, hspelling]
    exact hp x (by simp [hx])

/-- A run follows the rewrites with the header spelled as the source if the two are one
target. -/
theorem follows_spelled {a b c : Step} (hc : c.path = b.path) (files : FileSystem) :
    let path := if a.path.same b.path then a.path else b.path
    Follows { files } [a, b, c] (run .write policy { files } [a, b, c])
      (rewriteEach policy files [a, b.spelled path, c.spelled path]) := by
  intro path
  have ha : Lacks { files } a.path := lacks_start files a.path
  have hfirst : a = a.spelled (spelling { files } a.path) := by rw [ha.spelling_eq]; rfl
  rw [hfirst]
  refine ha.current.follows_cons fun v u hu hpath helse => ?_
  have hua : u.path = a.path := hpath.trans ha.spelling_eq
  cases hsame : a.path.same b.path with
  | true =>
    have hspelled : path = u.path := by simp [path, hsame, hua]
    rw [hspelled]
    exact hu.follows (by simp [hc, hua, hsame])
  | false =>
    have hspelled : path = b.path := by simp [path, hsame]
    have hb : v.Lacks b.path := helse.lacks (hua ▸ hsame) (lacks_start files b.path)
    have hsecond : b.spelled path = b.spelled (v.spelling b.path) := by
      rw [hspelled, hb.spelling_eq]
    rw [hsecond]
    refine hb.current.follows_cons fun v' u' hu' hpath' _ => ?_
    have hub : u'.path = b.path := hpath'.trans hb.spelling_eq
    rw [hspelled, ← hub]
    exact hu'.follows (by simp [hc, hub, b.path.same_refl])

end Workspace

/-! ### Spellings that can be read -/

/-- Two errors are one, but for the spelling of the target's path. -/
inductive Error.Alike : Error → Error → Prop
  | refl (e : Error) : Alike e e
  | targetFile {p q : FilePath} : p.same q = true → ∀ fault : IoFault,
    Alike (.targetFile p fault) (.targetFile q fault)
  | missingEndMarker {p q : FilePath} : p.same q = true → ∀ marker : String,
    Alike (.missingEndMarker p marker) (.missingEndMarker q marker)

/-- The same came of them, but for the spelling of a path in the error. -/
structure Passes.Alike (x y : Passes) : Prop where
  files_eq : x.files = y.files
  outcomes_eq : x.outcomes = y.outcomes
  failure : Option.Rel Error.Alike x.failure y.failure

theorem Passes.alike_refl (x : Passes) : x.Alike x where
  files_eq := rfl
  outcomes_eq := rfl
  failure := by
    cases x.failure with
    | none => exact .none
    | some e => exact .some (.refl e)

section Spelling

variable {files : FileSystem} {policy : EndMarkerPolicy} {p q : FilePath}

/-- Under two spellings that can both be read, a file is rewritten the same way. -/
theorem rewriteFile_alike (h : p.same q = true) {text text' : String}
    (hp : files.read p = .ok text) (hq : files.read q = .ok text') (markers : MarkerPair)
    (replacement : List String) (policy : EndMarkerPolicy) :
    (∃ e e', rewriteFile files p markers replacement policy .write = .error e ∧
      rewriteFile files q markers replacement policy .write = .error e' ∧ e.Alike e') ∨
    ∃ result, rewriteFile files p markers replacement policy .write = .ok result ∧
      rewriteFile files q markers replacement policy .write = .ok result := by
  have hmeet := FileSystem.meet_of_same h hp hq
  have hslashp := FileSystem.endsWithSlash_of_read hp
  have hslashq := FileSystem.endsWithSlash_of_read hq
  have htext := FileSystem.read_of_meet hmeet hslashp hq
  rw [hp, Except.ok.injEq] at htext
  subst htext
  have hwrite := FileSystem.write_of_meet hmeet hslashp hslashq
  simp only [rewriteFile, TargetFile.load_of_read hp, TargetFile.load_of_read hq, ok_bind]
  have hcontent : (⟨q, text, text⟩ : TargetFile).content = (⟨p, text, text⟩ : TargetFile).content :=
    rfl
  rcases TargetFile.rewriteRegion_of_content_eq hcontent markers replacement policy with
    ⟨hrp, hrq⟩ | ⟨content, outcome, hrp, hrq⟩
  · simp only [hrp, hrq, error_bind]
    exact .inl ⟨_, _, rfl, rfl, .missingEndMarker h _⟩
  · simp only [hrp, hrq, ok_bind, TargetFile.save]
    by_cases hc : content = text
    · simp only [if_pos hc, ok_bind]
      exact .inr ⟨_, rfl, rfl⟩
    · simp only [if_neg hc, hwrite]
      cases hw : files.write q content with
      | error fault => exact .inl ⟨_, _, rfl, rfl, .targetFile h _⟩
      | ok after => exact .inr ⟨_, rfl, rfl⟩

theorem exists_read_of_rewriteFile {path : FilePath} {markers : MarkerPair}
    {replacement : List String} {outcome : Outcome} {after : FileSystem}
    (h : rewriteFile files path markers replacement policy .write = .ok (outcome, after)) :
    ∃ text, after.read path = .ok text := by
  obtain ⟨-, t, -, -, -, -, hpath, htracks, -⟩ := rewriteFile_eq_ok h
  rw [TargetFile.Tracks, TargetFile.saved_path, hpath] at htracks
  exact ⟨_, htracks⟩

theorem rewriteEach_alike (h : p.same q = true) (steps : List Step)
    (hsteps : ∀ s ∈ steps, s.path = q) (hp : ∃ text, files.read p = .ok text)
    (hq : ∃ text, files.read q = .ok text) (policy : EndMarkerPolicy) :
    (rewriteEach policy files (steps.map (·.spelled p))).Alike (rewriteEach policy files steps) := by
  induction steps generalizing files with
  | nil => exact Passes.alike_refl _
  | cons s rest ih =>
    obtain ⟨textp, hp⟩ := hp
    obtain ⟨textq, hq⟩ := hq
    have hpath : s.path = q := hsteps s (by simp)
    rw [List.map_cons]
    rcases rewriteFile_alike h hp hq s.markers s.lines policy with
      ⟨e, e', hrp, hrq, halike⟩ | ⟨⟨outcome, after⟩, hrp, hrq⟩
    · rw [← hpath] at hrq
      rw [rewriteEach_cons_error (s := s.spelled p) hrp, rewriteEach_cons_error hrq]
      exact ⟨rfl, rfl, .some halike⟩
    · have hafterp := exists_read_of_rewriteFile hrp
      have hafterq := exists_read_of_rewriteFile hrq
      rw [← hpath] at hrq
      rw [rewriteEach_cons_ok (s := s.spelled p) hrp, rewriteEach_cons_ok hrq]
      obtain ⟨hfiles, houtcomes, hfailure⟩ := ih (fun x hx => hsteps x (by simp [hx])) hafterp hafterq
      exact ⟨hfiles, congrArg (outcome :: ·) houtcomes, hfailure⟩

end Spelling

section Generate

variable {files : FileSystem} {request : Request} {config : Config} {schema : Schema}

/-- What the rewrites of some steps have to report. -/
def Passes.reports (each : Passes) (steps : List Step) : List RegionReport :=
  List.zipWith Step.report steps each.outcomes

/-- The run ended as the rewrites of its steps one by one did: with the same files, the
same outcomes in order and the same first error, but for the spelling of its path. -/
structure Run.EndsAs (run : Run) (request : Request) (config : Config) (schema : Schema)
    (each : Passes) : Prop where
  files_eq : run.files = each.files
  progress_eq : run.progress = .schemaLoaded request.schemaPath schema.functions.length ::
    (each.reports (request.steps config schema)).map .region
  result : match each.failure with
    | none => run.result = .ok ⟨schema.functions.length, each.reports (request.steps config schema)⟩
    | some e => ∃ e', run.result = .error e' ∧ e'.Alike e

/-- The rewrites with the header spelled as the source, where the two are one target that
either spelling leads to, are those with the header as it is given. -/
theorem rewriteEach_spelled_alike {a b c : Step} (hc : c.path = b.path)
    (hspelled : a.path.same b.path = true → (∃ text, files.read a.path = .ok text) →
      ∃ text, files.read b.path = .ok text) (policy : EndMarkerPolicy) :
    let path := if a.path.same b.path then a.path else b.path
    (rewriteEach policy files [a, b.spelled path, c.spelled path]).Alike
      (rewriteEach policy files [a, b, c]) := by
  intro path
  cases hsame : a.path.same b.path with
  | false =>
    have hpath : path = b.path := by simp [path, hsame]
    have hb : b.spelled path = b := by rw [hpath]; rfl
    have hc' : c.spelled path = c := by rw [hpath, ← hc]; rfl
    rw [hb, hc']
    exact Passes.alike_refl _
  | true =>
    have hpath : path = a.path := by simp [path, hsame]
    rw [hpath]
    cases hr : rewriteFile files a.path a.markers a.lines policy .write with
    | error e =>
      rw [rewriteEach_cons_error hr, rewriteEach_cons_error hr]
      exact Passes.alike_refl _
    | ok rewritten =>
      obtain ⟨outcome, after⟩ := rewritten
      obtain ⟨text, -, -, hread, -, -, -, -, hedits⟩ := rewriteFile_eq_ok hr
      obtain ⟨texta, hafter⟩ := exists_read_of_rewriteFile hr
      obtain ⟨header, hheader⟩ := hspelled hsame ⟨text, hread⟩
      have hmeet : after.Meet b.path a.path :=
        ((hedits.meet_iff _ _).2 (FileSystem.meet_of_same hsame hread hheader)).symm
      have hafter' := FileSystem.read_of_meet hmeet (FileSystem.endsWithSlash_of_read hheader) hafter
      rw [rewriteEach_cons_ok hr, rewriteEach_cons_ok hr]
      obtain ⟨hfiles, houtcomes, hfailure⟩ := rewriteEach_alike hsame [b, c] (by simp [hc])
        ⟨texta, hafter⟩ ⟨texta, hafter'⟩ policy
      exact ⟨hfiles, congrArg (outcome :: ·) houtcomes, hfailure⟩

/-- The request with the header spelled as the source, if the two are one target. -/
def Request.spelled (request : Request) : Request :=
  { request with
    headerPath :=
      if request.sourcePath.same request.headerPath then request.sourcePath
      else request.headerPath }

theorem Request.exists_spelled_steps_eq (request : Request) (config : Config) (schema : Schema) :
    ∃ a b c, request.steps config schema = [a, b, c] ∧ a.path = request.sourcePath ∧
      b.path = request.headerPath ∧ c.path = b.path ∧
      request.spelled.steps config schema =
        let path := if a.path.same b.path then a.path else b.path
        [a, b.spelled path, c.spelled path] :=
  ⟨_, _, _, rfl, rfl, rfl, rfl, rfl⟩

theorem Request.path_of_mem_spelled_steps {s : Step} (h : s ∈ request.spelled.steps config schema) :
    s.path = request.sourcePath ∨ s.path = request.headerPath := by
  obtain ⟨a, b, c, hsteps, ha, hb, hc, hspelled⟩ := request.exists_spelled_steps_eq config schema
  rw [hspelled] at h
  simp only [List.mem_cons, List.not_mem_nil, or_false] at h
  rcases h with rfl | rfl | rfl
  · exact .inl ha
  · rw [Step.spelled, ← ha, ← hb]
    exact ite_eq_or_eq _ _ _
  · rw [Step.spelled, ← ha, ← hb]
    exact ite_eq_or_eq _ _ _

theorem Request.follows_spelled (request : Request) (config : Config) (schema : Schema)
    (policy : EndMarkerPolicy) (files : FileSystem) :
    Workspace.Follows { files } (request.steps config schema)
      (Workspace.run .write policy { files } (request.steps config schema))
      (rewriteEach policy files (request.spelled.steps config schema)) := by
  obtain ⟨a, b, c, hsteps, -, -, hc, hspelled⟩ := request.exists_spelled_steps_eq config schema
  rw [hsteps, hspelled]
  exact Workspace.follows_spelled hc files

/-- What a write run leaves is what the rewrites one by one leave, and it succeeds if they all
do, with the header spelled as the source where the two are one target. -/
theorem generate_spelled (request : Request)
    (hload : Schema.load files request.schemaPath = .ok schema) (config : Config) :
    let run := generate files { request with mode := .write } config
    let each := rewriteEach config.endMarkerPolicy files (request.spelled.steps config schema)
    run.files = each.files ∧ ((∃ report, run.result = .ok report) ↔ each.failure = none) := by
  intro run each
  obtain ⟨hfiles, hfailure, -⟩ :=
    request.follows_spelled config schema config.endMarkerPolicy files
  rcases hrun : Workspace.run .write config.endMarkerPolicy { files } (request.steps config schema)
    with ⟨w, failure⟩
  rw [hrun] at hfiles hfailure
  have hgenerate : run = _ := generate_of_run { request with mode := .write } hload hrun
  rw [hgenerate, ← hfailure]
  refine ⟨hfiles, ?_⟩
  cases failure <;> simp

theorem Request.rewriteEach_spelled_alike
    (hspelled : request.sourcePath.same request.headerPath = true →
      (∃ text, files.read request.sourcePath = .ok text) →
        ∃ text, files.read request.headerPath = .ok text)
    (config : Config) (schema : Schema) (policy : EndMarkerPolicy) :
    (rewriteEach policy files (request.spelled.steps config schema)).Alike
      (rewriteEach policy files (request.steps config schema)) := by
  obtain ⟨a, b, c, hsteps, ha, hb, hc, hspelled'⟩ := request.exists_spelled_steps_eq config schema
  rw [← ha, ← hb] at hspelled
  rw [hsteps, hspelled']
  exact BindingRegions.rewriteEach_spelled_alike hc hspelled policy

/-- A run in write mode ends as the rewrites of its regions one by one do, each reading
its file anew, as long as a header that is the source under another spelling can be read
under that. -/
theorem generate_endsAs_rewriteEach
    (hload : Schema.load files request.schemaPath = .ok schema)
    (hspelled : request.sourcePath.same request.headerPath = true →
      (∃ text, files.read request.sourcePath = .ok text) →
        ∃ text, files.read request.headerPath = .ok text) :
    (generate files { request with mode := .write } config).EndsAs request config schema
      (rewriteEach config.endMarkerPolicy files (request.steps config schema)) := by
  obtain ⟨hfiles, houtcomes, hfailure⟩ :=
    request.rewriteEach_spelled_alike hspelled config schema config.endMarkerPolicy
  obtain ⟨hwfiles, hwfailure, hwregions⟩ :=
    request.follows_spelled config schema config.endMarkerPolicy files
  generalize rewriteEach config.endMarkerPolicy files (request.spelled.steps config schema) = spelled
    at hfiles houtcomes hfailure hwfiles hwfailure hwregions
  generalize rewriteEach config.endMarkerPolicy files (request.steps config schema) = each
    at hfiles houtcomes hfailure ⊢
  rcases hrun : Workspace.run .write config.endMarkerPolicy { files } (request.steps config schema)
    with ⟨w, failure⟩
  rw [hrun] at hwfiles hwfailure hwregions
  have hregions : w.regions = each.reports (request.steps config schema) := by
    rw [Passes.reports, ← houtcomes]
    exact hwregions
  rw [generate_of_run { request with mode := .write } hload hrun]
  refine ⟨hwfiles.trans hfiles, by rw [hregions], ?_⟩
  rw [← hregions]
  rw [← hwfailure] at hfailure
  generalize each.failure = last at hfailure ⊢
  cases hfailure with
  | none => rfl
  | some h => exact ⟨_, rfl, h⟩

/-! ### One target under two spellings -/

/-- The last region is refused: it has no end marker. -/
def openText : String := "A\na\nB\nb\nC\n"

def respelledFiles : FileSystem :=
  ((FileSystem.blank "w").put ["d.json", "w"] (some (.file (.text "[]") true))).put ["t", "d", "w"]
    (some (.file (.text openText) true))

def respelledRequest : Request := ⟨⟨"d.json"⟩, ⟨"d/t"⟩, ⟨"d/.//t"⟩, .write⟩

def respelledConfig : Config where
  bodyMarkers := ⟨"A", "a"⟩
  headerMarkers := ⟨"B", "b"⟩
  symbolMarkers := ⟨"C", "c"⟩
  endMarkerPolicy := .strict

theorem generate_endsAs_rewriteEach_respelled :
    (generate respelledFiles { respelledRequest with mode := .write } respelledConfig).EndsAs
      respelledRequest respelledConfig ⟨[]⟩
      (rewriteEach .strict respelledFiles (respelledRequest.steps respelledConfig ⟨[]⟩)) := by
  have hload : Schema.load respelledFiles respelledRequest.schemaPath = .ok ⟨[]⟩ := by
    decide +kernel
  have hread : respelledFiles.read respelledRequest.headerPath = .ok openText := by
    decide +kernel
  exact generate_endsAs_rewriteEach hload fun _ _ => ⟨_, hread⟩

/-- With a slash behind it the header is still the source's target, but no longer a
spelling that leads to a file. -/
def slashedRequest : Request := ⟨⟨"d.json"⟩, ⟨"d/t"⟩, ⟨"d/t/"⟩, .write⟩

/-- The run rewrites all regions of the one target; by itself, the second rewrite finds
no file. -/
theorem not_endsAs_slashed :
    ¬ ∀ (files : FileSystem) (request : Request) (config : Config) (schema : Schema),
      Schema.load files request.schemaPath = .ok schema →
        (generate files { request with mode := .write } config).EndsAs request config schema
          (rewriteEach config.endMarkerPolicy files (request.steps config schema)) := by
  intro h
  have hload : Schema.load respelledFiles slashedRequest.schemaPath = .ok ⟨[]⟩ := by
    decide +kernel
  have hprogress := (h respelledFiles slashedRequest
    { respelledConfig with endMarkerPolicy := .throughEndOfFile } ⟨[]⟩ hload).progress_eq
  revert hprogress
  decide +kernel

end Generate

end BindingRegions

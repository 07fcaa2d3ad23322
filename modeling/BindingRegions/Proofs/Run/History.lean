import BindingRegions.Proofs.Run.Convergence
import BindingRegions.Proofs.Run.OneFile
import BindingRegions.Proofs.Schema.Document

/-! Runs forget the runs before them. After a write run that succeeds, a run with another
schema does what it would have done without (`generate_forgets`): it fails or succeeds
alike, and leaves the same files. The source's steps and the header's are each a fold over
one text, over the same one if the two are one file, and there the second run's steps
write over what the first has left. -/

namespace BindingRegions

open Text

def Step.region (s : Step) : FilePath × MarkerPair := (s.path, s.markers)

/-- The new steps go to the regions of the old ones, and the regions can be told apart in
the text. -/
structure Replays (olds news : List Step) (content : String) : Prop where
  regions : olds.map Step.region = news.map Step.region
  distinct : olds.Pairwise fun s t => s.markers.start ≠ t.markers.start
  tidy : Tidy (fun s => s ∈ olds ∨ s ∈ news) content

section Overwrite

variable {files after : FileSystem} {policy : EndMarkerPolicy} {place : Place} {writable : Bool}
  {content revised : String} {olds news steps : List Step} {group : Step → Prop}

theorem Replays.foldlM_reviseFile (hreplays : Replays olds news content)
    (h : olds.foldlM (Step.reviseFile policy writable) content = some revised) :
    news.foldlM (Step.reviseFile policy writable) revised =
      news.foldlM (Step.reviseFile policy writable) content := by
  cases writable with
  | true =>
    rw [Step.reviseFile_true] at h ⊢
    have hmarkers : olds.map (·.markers) = news.map (·.markers) := by
      simpa [Function.comp_def, Step.region] using congrArg (List.map Prod.snd) hreplays.regions
    exact foldlM_revise_overwrite hmarkers hreplays.tidy (fun _ => .inl) (fun _ => .inr)
      hreplays.distinct h
  | false => rw [foldlM_reviseFile_false h]

/-! ### One file -/

theorem AllAt.of_region (h : AllAt files place olds)
    (hregions : olds.map Step.region = news.map Step.region) : AllAt files place news := by
  intro t ht
  have hmem : t.region ∈ olds.map Step.region := by
    rw [hregions]
    exact List.mem_map_of_mem ht
  obtain ⟨s, hs, hst⟩ := List.mem_map.1 hmem
  have hpath : s.path = t.path := congrArg Prod.fst hst
  rw [← hpath]
  exact h s hs

/-- Steps in one file, made again with other lines. -/
theorem Replays.rewriteEach_at (h : Replays olds news content) (hat : AllAt files place olds)
    (hentry : files.entry? place = some (.file (.text content) writable))
    (hafter : (rewriteEach policy files olds).after? = some after) :
    (rewriteEach policy after news).after? = (rewriteEach policy files news).after? := by
  have hat' : AllAt files place news := hat.of_region h.regions
  have hat'' : AllAt after place news := hat'.congr (at_eq_of_after? hafter)
  rw [after?_rewriteEach_at hat hentry, Option.map_eq_some_iff] at hafter
  obtain ⟨revised, hrevised, rfl⟩ := hafter
  rw [after?_rewriteEach_at hat' hentry,
    after?_rewriteEach_at hat'' (FileSystem.entry_set files place _),
    h.foldlM_reviseFile hrevised]
  simp only [FileSystem.set_set]

/-! ### Two files -/

/-- Steps that go to one place, and then steps that go to another, are two folds. -/
theorem after?_rewriteEach_apart {p q : Place} {xs ys : List Step} {x y : String} {v w : Bool}
    (hne : q ≠ p) (hxs : AllAt files p xs) (hys : AllAt files q ys)
    (hp : files.entry? p = some (.file (.text x) v)) (hq : files.entry? q = some (.file (.text y) w))
    (policy : EndMarkerPolicy) :
    (rewriteEach policy files (xs ++ ys)).after? =
      (xs.foldlM (Step.reviseFile policy v) x).bind fun x' =>
        (ys.foldlM (Step.reviseFile policy w) y).map fun y' =>
          (files.set p (some (.file (.text x') v))).set q (some (.file (.text y') w)) := by
  have hfirst := after?_rewriteEach_at hxs hp policy
  rw [after?_rewriteEach_append, hfirst]
  cases hx : xs.foldlM (Step.reviseFile policy v) x with
  | none => rfl
  | some x' =>
    rw [hx] at hfirst
    have hys' : AllAt (files.set p (some (.file (.text x') v))) q ys :=
      hys.congr (at_eq_of_after? hfirst)
    have hq' := (FileSystem.entry_set_of_ne hne files (some (.file (.text x') v))).trans hq
    exact after?_rewriteEach_at hys' hq' policy

/-- Steps in one file, and then steps in another, made again with other lines. -/
theorem Replays.rewriteEach_apart {p q : Place} {xs ys xs' ys' : List Step} {x y : String}
    {v w : Bool} (hpq : q ≠ p) (hxs : Replays xs xs' x) (hys : Replays ys ys' y)
    (hatx : AllAt files p xs) (haty : AllAt files q ys)
    (hp : files.entry? p = some (.file (.text x) v)) (hq : files.entry? q = some (.file (.text y) w))
    (h : (rewriteEach policy files (xs ++ ys)).after? = some after) :
    (rewriteEach policy after (xs' ++ ys')).after? =
      (rewriteEach policy files (xs' ++ ys')).after? := by
  have hat := at_eq_of_after? h
  have hatx' := hatx.of_region hxs.regions
  have haty' := haty.of_region hys.regions
  rw [after?_rewriteEach_apart hpq hatx haty hp hq, Option.bind_eq_some_iff] at h
  obtain ⟨x', hfoldx, h⟩ := h
  obtain ⟨y', hfoldy, rfl⟩ := Option.map_eq_some_iff.1 h
  have hp' := (FileSystem.entry_set_of_ne hpq.symm (files.set p (some (.file (.text x') v)))
    (some (.file (.text y') w))).trans (FileSystem.entry_set files p _)
  rw [after?_rewriteEach_apart hpq hatx' haty' hp hq,
    after?_rewriteEach_apart hpq (hatx'.congr hat) (haty'.congr hat) hp' (FileSystem.entry_set _ q _),
    hxs.foldlM_reviseFile hfoldx, hys.foldlM_reviseFile hfoldy]
  congr 1
  funext x''
  congr 1
  funext y''
  rw [FileSystem.set_comm hpq, FileSystem.set_set, FileSystem.set_set]

/-! ### Source and header -/

/-- What steps of one file emit is no marker line of any of them. -/
theorem Untangled.clear_at {all : List Step} (hu : Untangled files all) (hsub : steps.Sublist all)
    (hat : AllAt files place steps)
    (hentry : files.entry? place = some (.file (.text content) writable)) {s t : Step}
    (hs : s ∈ steps) (ht : t.markers ∈ steps.map (·.markers)) :
    (splitLines content).countP (isMarker s.markers.start) ≤ 1 ∧
    ∀ startLine ∈ splitLines content, isMarker s.markers.start startLine = true →
      ∀ line ∈ emitted startLine s.lines,
        isMarker t.markers.start line = false ∧ isMarker t.markers.stop line = false := by
  have htidy := hu.tidy s (hsub.subset hs) content (hat.read_eq hentry hs)
  have hself : files.OneTarget s.path s.path := .inl s.path.same_refl
  obtain ⟨u, hmem, hmarkers⟩ := List.mem_map.1 ht
  have hone : files.OneTarget s.path u.path := .inr ⟨place, (hat s hs).1, (hat u hmem).1⟩
  refine ⟨htidy.once s ⟨hsub.subset hs, hself⟩, fun startLine hline hmark line hmem' => ?_⟩
  rw [← hmarkers]
  exact htidy.clear s ⟨hsub.subset hs, hself⟩ startLine hline hmark line hmem' u
    ⟨hsub.subset hmem, hone⟩

theorem Untangled.replays {all all' : List Step} (hu : Untangled files all)
    (hu' : Untangled files all') (hsub : olds.Sublist all) (hsub' : news.Sublist all')
    (hregions : olds.map Step.region = news.map Step.region) (hat : AllAt files place olds)
    (hentry : files.entry? place = some (.file (.text content) writable)) :
    Replays olds news content := by
  have hat' := hat.of_region hregions
  have hmarkers : olds.map (·.markers) = news.map (·.markers) := by
    simpa [Function.comp_def, Step.region] using congrArg (List.map Prod.snd) hregions
  have hany : ∀ t, t ∈ olds ∨ t ∈ news → t.markers ∈ olds.map (·.markers) := by
    intro t ht
    rcases ht with ht | ht
    · exact List.mem_map_of_mem ht
    · rw [hmarkers]
      exact List.mem_map_of_mem ht
  refine ⟨hregions, ?_, fun s hs => ?_, fun s hs startLine hline hmark line hmem t ht => ?_⟩
  · refine (hu.distinct.sublist hsub).imp_of_mem fun hs ht hne => hne ?_
    exact .inr ⟨place, (hat _ hs).1, (hat _ ht).1⟩
  · rcases hs with hs | hs
    · exact (hu.clear_at hsub hat hentry hs (hany s (.inl hs))).1
    · exact (hu'.clear_at hsub' hat' hentry hs (List.mem_map_of_mem hs)).1
  · rcases hs with hs | hs
    · exact (hu.clear_at hsub hat hentry hs (hany t ht)).2 startLine hline hmark line hmem
    · exact (hu'.clear_at hsub' hat' hentry hs (hmarkers ▸ hany t ht)).2 startLine hline hmark line
        hmem

theorem exists_entry_of_after? {s : Step}
    (h : (rewriteEach policy files (s :: steps)).after? = some after) :
    ∃ place content writable mid, files.At s.path place ∧ s.path.endsWithSlash = false ∧
      files.entry? place = some (.file (.text content) writable) ∧
      files.Edits mid (files.At s.path) ∧
      (rewriteEach policy mid steps).after? = some after := by
  cases hr : rewriteFile files s.path s.markers s.lines policy .write with
  | error e =>
    rw [after?_rewriteEach_cons_error hr] at h
    cases h
  | ok result =>
    obtain ⟨outcome, mid⟩ := result
    obtain ⟨content, -, -, hread, -, -, -, -, hedits⟩ := rewriteFile_eq_ok hr
    obtain ⟨hslash, place, writable, hat, hentry⟩ := FileSystem.read_eq_ok_iff.1 hread
    rw [after?_rewriteEach_cons_ok hr] at h
    exact ⟨place, content, writable, mid, hat, hslash, hentry, hedits, h⟩

/-- The three steps of a run, made again with other lines. -/
theorem Untangled.rewriteEach_again {a b c a' b' c' : Step} (hc : c.path = b.path)
    (hu : Untangled files [a, b, c]) (hu' : Untangled files [a', b', c'])
    (hregions : [a, b, c].map Step.region = [a', b', c'].map Step.region)
    (h : (rewriteEach policy files [a, b, c]).after? = some after) :
    (rewriteEach policy after [a', b', c']).after? =
      (rewriteEach policy files [a', b', c']).after? := by
  obtain ⟨p, x, v, mid, hatp, hslashp, hp, hedits, hrest⟩ := exists_entry_of_after? h
  obtain ⟨q, y, w, -, hatq, hslashq, hq, -, -⟩ := exists_entry_of_after? hrest
  rw [hedits.at_eq] at hatq
  rcases eq_or_ne q p with rfl | hpq
  · have hall : AllAt files q [a, b, c] := by
      simp [AllAt, hc, hatp, hatq, hslashp, hslashq]
    have hreplays := hu.replays hu' (List.Sublist.refl _) (List.Sublist.refl _) hregions hall hp
    exact hreplays.rewriteEach_at hall hp h
  · have hq' : files.entry? q = some (.file (.text y) w) := by
      rcases hedits.entry q with he | ⟨hplace, -⟩
      · rw [← he]
        exact hq
      · exact absurd (hplace.unique hatp) hpq
    have hallp : AllAt files p [a] := by
      simp [AllAt, hatp, hslashp]
    have hallq : AllAt files q [b, c] := by
      simp [AllAt, hc, hatq, hslashq]
    simp only [List.map_cons, List.map_nil, List.cons.injEq, and_true] at hregions
    obtain ⟨ha, hb, hc'⟩ := hregions
    have hfirst : Replays [a] [a'] x :=
      hu.replays hu' (by simp) (by simp) (by simp [ha]) hallp hp
    have hsecond : Replays [b, c] [b', c'] y :=
      hu.replays hu' (List.sublist_cons_self _ _) (List.sublist_cons_self _ _) (by simp [hb, hc'])
        hallq hq'
    exact hfirst.rewriteEach_apart hpq hsecond hallp hallq hp hq' h

end Overwrite

section Generate

variable {files : FileSystem} {request : Request} {config : Config} {schema : Schema}

theorem Tidy.of_alike {group group' : Step → Prop} {content : String} (h : Tidy group content)
    (halike : ∀ s, group' s → ∃ t, group t ∧ t.markers = s.markers ∧ t.lines = s.lines) :
    Tidy group' content := by
  refine ⟨fun s hs => ?_, fun s hs startLine hline hmark line hmem t ht => ?_⟩
  · obtain ⟨u, hu, hmarkers, -⟩ := halike s hs
    rw [← hmarkers]
    exact h.once u hu
  · obtain ⟨u, hu, hmarkers, hlines⟩ := halike s hs
    obtain ⟨v, hv, hmarkers', -⟩ := halike t ht
    rw [← hmarkers] at hmark
    rw [← hlines] at hmem
    rw [← hmarkers']
    exact h.clear u hu startLine hline hmark line hmem v hv

/-- With the header spelled as the source, regions are told apart as before. -/
theorem Untangled.spelled (h : Untangled files (request.steps config schema)) :
    Untangled files (request.spelled.steps config schema) := by
  obtain ⟨a, b, c, hsteps, -, -, hc, hspelled⟩ := request.exists_spelled_steps_eq config schema
  rw [hsteps] at h
  rw [hspelled]
  cases hsame : a.path.same b.path with
  | false =>
    have hb : b.spelled b.path = b := rfl
    have hc' : c.spelled b.path = c := by rw [← hc]; rfl
    simp only [Bool.false_eq_true, if_false, hb, hc']
    exact h
  | true =>
    simp only [if_true]
    obtain ⟨hab, hac, hbc⟩ := h.start_ne hc
    have hone : files.OneTarget a.path b.path := .inl hsame
    have hself : files.OneTarget a.path a.path := .inl a.path.same_refl
    refine ⟨?_, fun s hs content hread => ?_⟩
    · have hab' := hab hone
      have hac' := hac hone
      simp [Step.spelled, hab', hac', hbc]
    · have hpath : s.path = a.path := by
        simp only [List.mem_cons, List.not_mem_nil, or_false] at hs
        rcases hs with rfl | rfl | rfl <;> rfl
      rw [hpath] at hread
      refine (h.tidy a (by simp) content hread).of_alike fun t ht => ?_
      obtain ⟨ht, -⟩ := ht
      simp only [List.mem_cons, List.not_mem_nil, or_false] at ht
      rcases ht with rfl | rfl | rfl
      · exact ⟨_, ⟨by simp, hself⟩, rfl, rfl⟩
      · exact ⟨b, ⟨by simp, hone⟩, rfl, rfl⟩
      · exact ⟨c, ⟨by simp, hc ▸ hone⟩, rfl, rfl⟩

theorem generate_ok_iff (request : Request) (hload : Schema.load files request.schemaPath = .ok schema)
    (config : Config) (after : FileSystem) :
    let run := generate files { request with mode := .write } config
    ((∃ report, run.result = .ok report) ∧ run.files = after) ↔
      (rewriteEach config.endMarkerPolicy files (request.spelled.steps config schema)).after? =
        some after := by
  intro run
  obtain ⟨hfiles, hresult⟩ := generate_spelled request hload config
  rw [hresult, hfiles, Passes.after?]
  split
  · rename_i hnone
    simp [hnone]
  · rename_i e hsome
    simp [hsome]

theorem Request.map_region_steps (request : Request) (config : Config) (a b : Schema) :
    (request.steps config a).map Step.region = (request.steps config b).map Step.region := rfl

/-- A file that is no target stays as it is. -/
theorem read_of_after? {policy : EndMarkerPolicy} {after : FileSystem} {path : FilePath}
    (hsource : ¬ files.Meet path request.sourcePath)
    (hheader : ¬ files.Meet path request.headerPath)
    (h : (rewriteEach policy files (request.spelled.steps config schema)).after? = some after) :
    after.read path = files.read path := by
  have hedits := edits_rewriteEach policy files (request.spelled.steps config schema)
  rw [Passes.files_of_after? h] at hedits
  refine hedits.read_eq fun place hplace hstep => ?_
  obtain ⟨s, hs, hat⟩ := hstep
  rcases Request.path_of_mem_spelled_steps hs with hpath | hpath <;> rw [hpath] at hat
  · exact hsource ⟨place, hplace, hat⟩
  · exact hheader ⟨place, hplace, hat⟩

/-- After a write run that succeeds, a run with another schema does what it would have done
on the files as they were. -/
theorem generate_forgets {report : Report} (path : FilePath)
    (hsource : ¬ files.Meet path request.sourcePath)
    (hheader : ¬ files.Meet path request.headerPath)
    (huntangled : ∀ schemaPath ∈ [request.schemaPath, path], ∀ schema,
      Schema.load files schemaPath = .ok schema → Untangled files (request.steps config schema))
    (hfirst : (generate files { request with mode := .write } config).result = .ok report) :
    let later := { request with schemaPath := path, mode := .write }
    let first := generate files { request with mode := .write } config
    let second := generate first.files later config
    let direct := generate files later config
    ((∃ report, second.result = .ok report) ↔ ∃ report, direct.result = .ok report) ∧
      ((∃ report, direct.result = .ok report) → second.files = direct.files) := by
  intro later first second direct
  obtain ⟨old, -, hold, -⟩ := generate_eq_ok hfirst
  have hafter := (generate_ok_iff request hold config first.files).1 ⟨⟨report, hfirst⟩, rfl⟩
  have hload := Schema.load_congr (read_of_after? hsource hheader hafter)
  cases hnew : Schema.load files later.schemaPath with
  | error e =>
    have hdirect : direct = _ := generate_of_load_error hnew
    have hsecond : second = _ := generate_of_load_error (hload.trans hnew)
    simp [hdirect, hsecond]
  | ok new =>
    have hu := (huntangled request.schemaPath (by simp) old hold).spelled
    have hu' := (huntangled path (by simp) new hnew).spelled
    have hregions := request.spelled.map_region_steps config old new
    obtain ⟨a, b, c, hsteps, -, -, hc⟩ := request.spelled.exists_steps_eq config old
    obtain ⟨a', b', c', hsteps', -⟩ := request.spelled.exists_steps_eq config new
    have hdirect (after : FileSystem) := generate_ok_iff later hnew config after
    have hsecond (after : FileSystem) := generate_ok_iff later (hload.trans hnew) config after
    have hspelled : later.spelled.steps config new = [a', b', c'] := hsteps'
    rw [hsteps] at hafter hu hregions
    rw [hsteps'] at hu' hregions
    rw [hspelled] at hdirect hsecond
    rw [hu.rewriteEach_again hc hu' hregions hafter] at hsecond
    have hsame (after : FileSystem) :
        ((∃ report, second.result = .ok report) ∧ second.files = after) ↔
          (∃ report, direct.result = .ok report) ∧ direct.files = after :=
      (hsecond after).trans (hdirect after).symm
    exact ⟨⟨fun h => ((hsame _).1 ⟨h, rfl⟩).1, fun h => ((hsame _).2 ⟨h, rfl⟩).1⟩,
      fun h => ((hsame _).2 ⟨h, rfl⟩).2⟩

/-! ### Another schema for nested regions -/

def renewedFiles : FileSystem :=
  nestedFiles.put ["e.json", "w"] (some (.file (.text renewedText) true))

theorem load_renewed : Schema.load renewedFiles ⟨"e.json"⟩ = .ok ⟨[⟨"Foo", []⟩]⟩ :=
  load_of_renewedText (by decide +kernel) (by decide +kernel)

theorem untangled_renewed : ∀ schema ∈ [(⟨[]⟩ : Schema), ⟨[⟨"Foo", []⟩]⟩],
    Untangled renewedFiles (nestedRequest.steps nestedConfig schema) := by
  intro schema hschema
  have hread : ∀ s ∈ nestedRequest.steps nestedConfig schema,
      renewedFiles.read s.path = .ok nestedText := by
    revert schema
    decide +kernel
  have hdistinct : (nestedRequest.steps nestedConfig schema).Pairwise fun s t =>
      s.markers.start ≠ t.markers.start := by
    revert schema
    decide +kernel
  have honce : ∀ s ∈ nestedRequest.steps nestedConfig schema,
      (splitLines nestedText).countP (isMarker s.markers.start) ≤ 1 := by
    revert schema
    decide +kernel
  refine untangled_of_lines hread hdistinct honce ?_
  revert schema
  decide +kernel

theorem generate_forgets_nested :
    let later := { nestedRequest with schemaPath := ⟨"e.json"⟩, mode := .write }
    let first := generate renewedFiles { nestedRequest with mode := .write } nestedConfig
    let second := generate first.files later nestedConfig
    let direct := generate renewedFiles later nestedConfig
    ((∃ report, second.result = .ok report) ↔ ∃ report, direct.result = .ok report) ∧
      ((∃ report, direct.result = .ok report) → second.files = direct.files) := by
  have hold : Schema.load renewedFiles nestedRequest.schemaPath = .ok ⟨[]⟩ := by
    decide +kernel
  have hresult : (generate renewedFiles { nestedRequest with mode := .write } nestedConfig).result =
      .ok ⟨0, [⟨⟨"t"⟩, .stubs, .replaced⟩, ⟨⟨"./t"⟩, .declarations, .replaced⟩,
        ⟨⟨"./t"⟩, .symbols, .replaced⟩]⟩ := by
    decide +kernel
  have huntangled : ∀ schemaPath ∈ [nestedRequest.schemaPath, ⟨"e.json"⟩], ∀ schema,
      Schema.load renewedFiles schemaPath = .ok schema →
        Untangled renewedFiles (nestedRequest.steps nestedConfig schema) := by
    intro schemaPath hpath schema hload
    simp only [List.mem_cons, List.not_mem_nil, or_false] at hpath
    rcases hpath with rfl | rfl
    · rw [hold, Except.ok.injEq] at hload
      exact untangled_renewed schema (by simp [← hload])
    · rw [load_renewed, Except.ok.injEq] at hload
      exact untangled_renewed schema (by simp [← hload])
  exact generate_forgets ⟨"e.json"⟩ (by decide +kernel) (by decide +kernel) huntangled hresult

end Generate

end BindingRegions

import BindingRegions.Proofs.Run.Workspace

/-! The two policies for a region without an end marker. A step is the same under both
unless it comes to such a region; there the strict policy refuses, and the other one
rewrites through to the end of the file (`Workspace.PartsAt`). So two runs that differ
in the policy alone are the same run up to the strict one's refusal, if it refuses
(`generate_strict_throughEnd`). -/

namespace BindingRegions

open Text

namespace TargetFile

/-- The policies differ over a region that starts and does not end, and only over that. -/
theorem rewriteRegion_strict_throughEnd (target : TargetFile) (markers : MarkerPair)
    (replacement : List String) :
    target.rewriteRegion markers replacement .throughEndOfFile =
        target.rewriteRegion markers replacement .strict ∨
      target.rewriteRegion markers replacement .strict =
          .error (.missingEndMarker target.path markers.stop) ∧
        ∃ target' outcome, outcome ≠ .markerNotFound ∧
          target.rewriteRegion markers replacement .throughEndOfFile = .ok (target', outcome) := by
  rcases Cut.exists_marks (splitLines target.content) markers with hnone | ⟨l, hl, hm⟩
  · left
    rw [rewriteRegion_of_absent hnone, rewriteRegion_of_absent hnone]
  · by_cases hrest : l.rest = []
    · right
      have hlax : ¬ (l.rest = [] ∧ EndMarkerPolicy.throughEndOfFile = .strict) := by simp
      obtain ⟨target', outcome, hat, hr⟩ := exists_rewritesAt hl hm hlax replacement
      refine ⟨by rw [rewriteRegion_of_marks hl hm, if_pos ⟨hrest, rfl⟩], target', outcome, ?_, hr⟩
      rw [hat.outcome_eq]
      split_ifs <;> simp
    · left
      rw [rewriteRegion_of_marks hl hm, rewriteRegion_of_marks hl hm]
      simp [hrest]

end TargetFile

namespace Workspace

variable {w : Workspace} {mode : Mode} {s : Step}

/-- The step is where the policies part: the strict one refuses the region with the
error, and the other one finds it and rewrites it. -/
structure PartsAt (w : Workspace) (s : Step) (target target' : TargetFile) (outcome : Outcome)
    (e : Error) : Prop where
  fetch_eq : w.fetch s.path = .ok target
  error_eq : e = .missingEndMarker target.path s.markers.stop
  strict_eq : target.rewriteRegion s.markers s.lines .strict = .error e
  throughEnd_eq : target.rewriteRegion s.markers s.lines .throughEndOfFile = .ok (target', outcome)
  outcome_ne : outcome ≠ .markerNotFound

/-- One step: the same under both policies, or where they part. -/
theorem step_strict_throughEnd (mode : Mode) (w : Workspace) (s : Step) :
    w.step mode .throughEndOfFile s = w.step mode .strict s ∨
      ∃ target target' outcome e, w.PartsAt s target target' outcome e := by
  cases hf : w.fetch s.path with
  | error e =>
    left
    rw [step_of_fetch_error hf, step_of_fetch_error hf]
  | ok target =>
    rcases target.rewriteRegion_strict_throughEnd s.markers s.lines with hsame |
      ⟨hstrict, target', outcome, hne, hthrough⟩
    · left
      simp only [step, hf, hsame, ok_bind]
    · exact .inr ⟨target, target', outcome, _, hf, rfl, hstrict, hthrough, hne⟩

/-- A run: the same under both policies, or the same up to the step where they part. -/
theorem run_strict_throughEnd (mode : Mode) (w : Workspace) (steps : List Step) :
    run mode .throughEndOfFile w steps = run mode .strict w steps ∨
      ∃ before s after v target target' outcome e, steps = before ++ s :: after ∧
        (∀ done, done <+: before →
          run mode .throughEndOfFile w done = run mode .strict w done) ∧
        run mode .strict w before = (v, none) ∧ v.PartsAt s target target' outcome e := by
  induction steps generalizing w with
  | nil => exact .inl rfl
  | cons s rest ih =>
    rcases step_strict_throughEnd mode w s with hsame | ⟨target, target', outcome, e, hparts⟩
    · -- the runs go on together, or end here together
      cases hs : w.step mode .strict s with
      | error e =>
        left
        rw [run_cons_error hs, run_cons_error (hsame.trans hs)]
      | ok v =>
        rw [run_cons_ok hs, run_cons_ok (hsame.trans hs)]
        refine (ih v).imp_right ?_
        rintro ⟨before, t, after, u, target, target', outcome, e, rfl, hdone, hbefore, hparts⟩
        refine ⟨s :: before, t, after, u, target, target', outcome, e, rfl, ?_, ?_, hparts⟩
        · rintro (_ | ⟨s', done⟩) hle
          · rfl
          · obtain ⟨hhead, htail⟩ := List.cons_prefix_cons.1 hle
            rw [hhead, run_cons_ok hs, run_cons_ok (hsame.trans hs), hdone done htail]
        · rw [run_cons_ok hs, hbefore]
    · refine .inr ⟨[], s, rest, w, target, target', outcome, e, rfl, ?_, rfl, hparts⟩
      intro done hle
      rw [List.prefix_nil.1 hle]
      rfl

/-- Where the end of the file will do for an end marker, none is missed. -/
theorem kind_of_run_throughEnd {w' : Workspace} {steps : List Step} {e : Error}
    (h : run mode .throughEndOfFile w steps = (w', some e)) : e.kind = .targetFile := by
  obtain ⟨before, s, after, -, -, hs⟩ := run_eq_some_iff.1 h
  obtain ⟨path, -, ⟨fault, rfl⟩ | ⟨hstrict, -⟩⟩ := error_of_step hs
  · rfl
  · cases hstrict

end Workspace

section Generate

theorem generate_withPolicy_of_run {files : FileSystem} (request : Request) {config : Config}
    {policy : EndMarkerPolicy} {schema : Schema} {w : Workspace} {failure : Option Error}
    (hl : Schema.load files request.schemaPath = .ok schema)
    (hr : Workspace.run request.mode policy { files } (request.steps config schema) =
      (w, failure)) :
    generate files request { config with endMarkerPolicy := policy } =
      { result := failure.elim (.ok ⟨schema.functions.length, w.regions⟩) .error
        progress := .schemaLoaded request.schemaPath schema.functions.length ::
          w.regions.map .region
        files := w.files } :=
  generate_of_run request hl hr

/-- The strict run fails with the error where the policies part. Up to there the runs make
the same steps, and the strict one has told of these and is left as they have made it. -/
inductive Run.PartWith (files : FileSystem) (request : Request) (config : Config)
    (strict through : Run) (e : Error) : Prop
  | intro {schema : Schema} {before after : List Step} {s : Step} {w : Workspace}
    {target target' : TargetFile} {outcome : Outcome}
    (load_eq : Schema.load files request.schemaPath = .ok schema)
    (steps_eq : request.steps config schema = before ++ s :: after)
    (alike : ∀ done, done <+: before →
      Workspace.run request.mode .throughEndOfFile { files } done =
        Workspace.run request.mode .strict { files } done)
    (made : Workspace.run request.mode .strict { files } before = (w, none))
    (parts : w.PartsAt s target target' outcome e)
    (strict_eq : strict = ⟨.error e,
      .schemaLoaded request.schemaPath schema.functions.length :: w.regions.map .region, w.files⟩)
    (told : strict.progress <+: through.progress) :
    PartWith files request config strict through e

theorem partWith_of_run {files : FileSystem} {request : Request} {config : Config}
    {schema : Schema} {before after : List Step} {s : Step} {w : Workspace}
    {target target' : TargetFile} {outcome : Outcome} {e : Error}
    (hload : Schema.load files request.schemaPath = .ok schema)
    (hsteps : request.steps config schema = before ++ s :: after)
    (hdone : ∀ done, done <+: before →
      Workspace.run request.mode .throughEndOfFile { files } done =
        Workspace.run request.mode .strict { files } done)
    (hbefore : Workspace.run request.mode .strict { files } before = (w, none))
    (hparts : w.PartsAt s target target' outcome e) :
    let strict := generate files request { config with endMarkerPolicy := .strict }
    let through := generate files request { config with endMarkerPolicy := .throughEndOfFile }
    strict.result = .error e ∧ Run.PartWith files request config strict through e := by
  intro strict through
  rcases hrun : Workspace.run request.mode .throughEndOfFile { files }
    (request.steps config schema) with ⟨v, failure⟩
  have hthrough : through = _ := generate_withPolicy_of_run request hload hrun
  have hstep : w.step request.mode .strict s = .error e :=
    Workspace.step_of_rewrite_error hparts.fetch_eq hparts.strict_eq
  have hstrict : strict = _ := generate_withPolicy_of_run request hload
    (Workspace.run_eq_some_iff.2 ⟨before, s, after, hsteps, hbefore, hstep⟩)
  have hearlier : w.regions <+: v.regions := by
    have hadds := Workspace.regions_prefix_run request.mode .throughEndOfFile w (s :: after)
    have hthere := hdone before List.prefix_rfl
    rw [hbefore] at hthere
    rwa [← Workspace.run_append_of_eq_none hthere, ← hsteps, hrun] at hadds
  refine ⟨by rw [hstrict]; rfl, .intro hload hsteps hdone hbefore hparts hstrict ?_⟩
  rw [hstrict, hthrough]
  exact List.cons_prefix_cons.2 ⟨rfl, hearlier.map _⟩

/-- Two runs that differ in the policy alone: the same run, which does not fail for want of
an end marker, or two that part over one. -/
theorem generate_same_or_partWith (files : FileSystem) (request : Request) (config : Config) :
    let strict := generate files request { config with endMarkerPolicy := .strict }
    let through := generate files request { config with endMarkerPolicy := .throughEndOfFile }
    (through = strict ∧ ∀ e, through.result = .error e → e.kind ≠ .missingEndMarker) ∨
      ∃ e, strict.result = .error e ∧ e.kind = .missingEndMarker ∧
        Run.PartWith files request config strict through e := by
  intro strict through
  cases hload : Schema.load files request.schemaPath with
  | error e =>
    have hthrough : through = ⟨.error e, [], files⟩ := generate_of_load_error hload
    refine .inl ⟨hthrough.trans (generate_of_load_error hload).symm, fun e' he => ?_⟩
    rw [hthrough] at he
    cases he
    rw [Schema.kind_of_load_error hload]
    decide
  | ok schema =>
    rcases Workspace.run_strict_throughEnd request.mode { files } (request.steps config schema) with
      hsame | ⟨before, s, after, w, target, target', outcome, e, hsteps, hdone, hbefore, hparts⟩
    · rcases hrun : Workspace.run request.mode .throughEndOfFile { files }
        (request.steps config schema) with ⟨v, failure⟩
      rw [hrun] at hsame
      have hthrough : through = _ := generate_withPolicy_of_run request hload hrun
      have hstrict : strict = _ := generate_withPolicy_of_run request hload hsame.symm
      refine .inl ⟨hthrough.trans hstrict.symm, fun e he => ?_⟩
      rw [hthrough] at he
      cases failure with
      | none => cases he
      | some e' =>
        cases he
        rw [Workspace.kind_of_run_throughEnd hrun]
        decide
    · obtain ⟨hresult, hpart⟩ := partWith_of_run hload hsteps hdone hbefore hparts
      exact .inr ⟨e, hresult, by rw [hparts.error_eq]; rfl, hpart⟩

/-- The strict policy only ever refuses: where its run succeeds, or fails for another reason
than a missing end marker, the other policy's run is the same; where a missing end marker
fails it, that is where the two part; and where the other run fails, so does it. -/
theorem generate_strict_throughEnd (files : FileSystem) (request : Request) (config : Config) :
    let strict := generate files request { config with endMarkerPolicy := .strict }
    let through := generate files request { config with endMarkerPolicy := .throughEndOfFile }
    (∀ report, strict.result = .ok report → through = strict) ∧
      (∀ e, strict.result = .error e → e.kind = .missingEndMarker →
        Run.PartWith files request config strict through e) ∧
      (∀ e, strict.result = .error e → e.kind ≠ .missingEndMarker → through = strict) ∧
      ∀ e, through.result = .error e → ∃ e', strict.result = .error e' := by
  intro strict through
  rcases generate_same_or_partWith files request config with ⟨hsame, hkind⟩ | ⟨e, he, hkind, hparts⟩
  · have hsame : through = strict := hsame
    refine ⟨fun _ _ => hsame, fun e he hmissing => ?_, fun _ _ _ => hsame, fun e he => ?_⟩
    · exact absurd hmissing (hkind e (by rwa [← hsame] at he))
    · exact ⟨e, by rwa [hsame] at he⟩
  · have heq : ∀ e', strict.result = .error e' → e' = e := by
      intro e' he'
      rw [he', Except.error.injEq] at he
      exact he
    refine ⟨fun report hr => ?_, fun e' he' _ => ?_, fun e' he' hne => ?_, fun _ _ => ⟨e, he⟩⟩
    · rw [he] at hr
      cases hr
    · rw [heq e' he']
      exact hparts
    · exact absurd (heq e' he' ▸ hkind) hne

end Generate

end BindingRegions

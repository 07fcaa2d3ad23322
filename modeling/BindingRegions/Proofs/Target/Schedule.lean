import BindingRegions.Proofs.Target.Session

/-! When a session saves. Saves and what others do to the files are nothing to the rewrites:
these show what they would show without (`shown_events`). And as long as the file is left
alone, it holds the text of the last save, so that in the end it holds the content,
whatever it held on the way (`Backed.after_save`). -/

namespace BindingRegions

def Action.rewrite? : Action → Option Rewrite
  | .rewrite r => some r
  | _ => none

def rewritesOf (actions : List Action) : List Rewrite := actions.filterMap Action.rewrite?

def Action.isOwn : Action → Bool
  | .others _ => false
  | _ => true

def Answer.isFailedSave : Answer → Bool
  | .saved (.error _) => true
  | _ => false

/-- What a rewrite shows: its answer, and the content in memory after it. -/
def Event.shown? (e : Event) : Option (Except Error Outcome × String) :=
  match e.answer with
  | .rewritten result => some (result, e.after.target.content)
  | _ => none

def shown (events : List Event) : List (Except Error Outcome × String) :=
  events.filterMap Event.shown?

namespace Session

variable {s t : Session} {files : FileSystem} {path : FilePath} {target : TargetFile}
  {place : Place} {writable : Bool} {xs ys : List Action}

/-- Nobody else touches the files, and every save succeeds. -/
structure Undisturbed (s : Session) (actions : List Action) : Prop where
  own : ∀ a ∈ actions, a.isOwn = true
  saves : ∀ e ∈ s.events actions, e.answer.isFailedSave = false

/-- The files are as in the beginning, but for the text that the target remembers. -/
structure Backed (files : FileSystem) (place : Place) (writable : Bool) (s : Session) : Prop where
  at_place : files.At s.target.path place
  no_slash : s.target.path.endsWithSlash = false
  no_directory : files.entry? place ≠ some .directory
  files_eq : s.files = files.set place (some (.file (.text s.target.onDisk) writable))

theorem after_append (s : Session) (xs ys : List Action) :
    s.after (xs ++ ys) = (s.after xs).after ys := by
  induction xs generalizing s with
  | nil => rfl
  | cons a rest ih => exact ih (s.act a).1

theorem events_append (s : Session) (xs ys : List Action) :
    s.events (xs ++ ys) = s.events xs ++ (s.after xs).events ys := by
  induction xs generalizing s with
  | nil => rfl
  | cons a rest ih => rw [List.cons_append, events, ih, events, after, List.cons_append]

theorem act_save (s : Session) :
    ∃ result, (s.act .save).2 = .saved result ∧
      (s.act .save).1.target.content = s.target.content := by
  by_cases hc : s.target.content = s.target.onDisk
  · rw [act_save_of_clean hc]
    exact ⟨_, rfl, rfl⟩
  · rcases act_save_of_ne hc with ⟨written, -, hact⟩ | ⟨fault, -, hact⟩ <;> rw [hact]
    · exact ⟨_, rfl, rfl⟩
    · exact ⟨_, rfl, rfl⟩

/-! ### The rewrites -/

/-- Only rewrites are shown. -/
theorem shown_events_cons {a : Action} (h : a.rewrite? = none) (rest : List Action) :
    shown (s.events (a :: rest)) = shown ((s.act a).1.events rest) ∧
      rewritesOf (a :: rest) = rewritesOf rest ∧
      (s.act a).1.target.content = s.target.content := by
  cases a with
  | rewrite r => cases h
  | others files => exact ⟨rfl, rfl, rfl⟩
  | save =>
    obtain ⟨result, hanswer, hcontent⟩ := s.act_save
    refine ⟨?_, rfl, hcontent⟩
    rw [events, shown, List.filterMap_cons_none]
    · rfl
    · rw [Event.shown?, hanswer]

/-- The rewrites of a session show what they show in one that makes no save and is left
alone, if it starts with the same content. -/
theorem shown_events (hpath : s.target.path = t.target.path)
    (hcontent : s.target.content = t.target.content) (actions : List Action) :
    let alone := (rewritesOf actions).map Action.rewrite
    shown (s.events actions) = shown (t.events alone) ∧
      (s.after actions).target.content = (t.after alone).target.content := by
  induction actions generalizing s t with
  | nil => exact ⟨rfl, hcontent⟩
  | cons a rest ih =>
    cases ha : a.rewrite? with
    | none =>
      obtain ⟨hshown, hrewrites, hkept⟩ := s.shown_events_cons ha rest
      rw [hshown, hrewrites, after]
      exact ih ((s.act_keeps a).1.trans hpath) (hkept.trans hcontent)
    | some r =>
      obtain rfl : a = .rewrite r := by cases a <;> simp_all [Action.rewrite?]
      obtain ⟨hanswer, hnext⟩ := TargetFile.attempt_congr hpath hcontent r
      have hpath' : (s.act (.rewrite r)).1.target.path = (t.act (.rewrite r)).1.target.path :=
        (s.act_keeps (.rewrite r)).1.trans (hpath.trans (t.act_keeps (.rewrite r)).1.symm)
      obtain ⟨hshown, hafter⟩ := ih hpath' hnext
      refine ⟨?_, hafter⟩
      have hfirst : ((s.target.attempt r).2, (s.target.attempt r).1.content) =
          ((t.target.attempt r).2, (t.target.attempt r).1.content) :=
        Prod.ext hanswer hnext
      exact List.cons_eq_cons.2 ⟨hfirst, hshown⟩

/-! ### The file -/

theorem exists_backed (h : TargetFile.load s.files path = .ok s.target) :
    ∃ place writable, Backed s.files place writable s := by
  obtain ⟨-, -, htracks⟩ := TargetFile.load_eq_ok h
  obtain ⟨hslash, place, writable, hat, hentry⟩ := FileSystem.read_eq_ok_iff.1 htracks
  exact ⟨place, writable, hat, hslash, by simp [hentry], (FileSystem.set_self hentry).symm⟩

theorem Backed.act_own (h : Backed files place writable s) {a : Action} (hown : a.isOwn = true)
    (hsave : (s.act a).2.isFailedSave = false) : Backed files place writable (s.act a).1 := by
  cases a with
  | others files => cases hown
  | rewrite r =>
    obtain ⟨hpath, hdisk⟩ := s.target.attempt_keeps r
    refine ⟨?_, ?_, h.no_directory, ?_⟩
    · rw [act, hpath]
      exact h.at_place
    · rw [act, hpath]
      exact h.no_slash
    · rw [act, hdisk]
      exact h.files_eq
  | save =>
    have hat : s.files.At s.target.path place := by
      rw [h.files_eq]
      exact FileSystem.at_set h.at_place h.no_directory _
    have hentry : s.files.entry? place = some (.file (.text s.target.onDisk) writable) := by
      rw [h.files_eq, FileSystem.entry_set]
    rcases s.target.save_at hat h.no_slash hentry with ⟨-, e, hs⟩ | ⟨-, wrote, hs⟩
    · rw [act, hs] at hsave
      cases hsave
    · rw [act, hs]
      refine ⟨h.at_place, h.no_slash, h.no_directory, ?_⟩
      rw [h.files_eq, FileSystem.set_set]
      rfl

theorem Undisturbed.of_cons {a : Action} {rest : List Action} (h : s.Undisturbed (a :: rest)) :
    a.isOwn = true ∧ (s.act a).2.isFailedSave = false ∧ (s.act a).1.Undisturbed rest :=
  ⟨h.own a (by simp), h.saves _ List.mem_cons_self, fun x hx => h.own x (by simp [hx]),
    fun e he => h.saves e (List.mem_cons_of_mem _ he)⟩

theorem Backed.after_undisturbed (h : Backed files place writable s) (hu : s.Undisturbed xs) :
    Backed files place writable (s.after xs) := by
  induction xs generalizing s with
  | nil => exact h
  | cons a rest ih =>
    obtain ⟨hown, hsave, hrest⟩ := hu.of_cons
    exact ih (h.act_own hown hsave) hrest

theorem onDisk_act_save (h : (s.act .save).2.isFailedSave = false) :
    (s.act .save).1.target.onDisk = s.target.content := by
  by_cases hc : s.target.content = s.target.onDisk
  · rw [act_save_of_clean hc, hc]
  · rcases act_save_of_ne hc with ⟨written, -, hact⟩ | ⟨fault, -, hact⟩ <;> rw [hact] at h ⊢
    · rfl
    · cases h

/-- After a last save the file has the content, and all else is as in the beginning. -/
theorem Backed.after_save (h : Backed files place writable s)
    (hu : s.Undisturbed (xs ++ [.save])) :
    (s.after (xs ++ [.save])).files =
        files.set place (some (.file (.text (s.after xs).target.content) writable)) ∧
      (s.after (xs ++ [.save])).files.read s.target.path = .ok (s.after xs).target.content ∧
      (s.after (xs ++ [.save])).target.content = (s.after xs).target.content := by
  have hend := h.after_undisturbed hu
  have hlast : ((s.after xs).act .save).2.isFailedSave = false := by
    refine hu.saves ⟨s.after xs, .save, _, ((s.after xs).act .save).1⟩ ?_
    rw [events_append]
    exact List.mem_append_right _ List.mem_cons_self
  have hdisk : (s.after (xs ++ [.save])).target.onDisk = (s.after xs).target.content := by
    rw [after_append]
    exact onDisk_act_save hlast
  have hfiles := hend.files_eq
  rw [hdisk] at hfiles
  refine ⟨hfiles, ?_, ?_⟩
  · rw [hfiles]
    exact FileSystem.read_eq_ok_iff.2 ⟨h.no_slash, place, writable,
      FileSystem.at_set h.at_place h.no_directory _, FileSystem.entry_set _ _ _⟩
  · rw [after_append]
    exact (s.after xs).act_save.choose_spec.2

/-- Two sessions that make the same rewrites and save at any times show the same, rewrite by
rewrite, and come to the same content. With a last save they also leave the same files, and
that content in theirs. -/
theorem shown_eq_of_rewritesOf_eq (h : TargetFile.load s.files path = .ok s.target)
    (hxy : rewritesOf xs = rewritesOf ys) :
    shown (s.events xs) = shown (s.events ys) ∧
      (s.after xs).target.content = (s.after ys).target.content ∧
      (s.Undisturbed (xs ++ [.save]) → s.Undisturbed (ys ++ [.save]) →
        (s.after (xs ++ [.save])).files = (s.after (ys ++ [.save])).files ∧
        (s.after (xs ++ [.save])).files.read path =
          .ok (s.after (xs ++ [.save])).target.content) := by
  obtain ⟨hshownx, hafterx⟩ := shown_events (s := s) (t := s) rfl rfl xs
  obtain ⟨hshowny, haftery⟩ := shown_events (s := s) (t := s) rfl rfl ys
  rw [hxy] at hshownx hafterx
  have hcontent := hafterx.trans haftery.symm
  refine ⟨hshownx.trans hshowny.symm, hcontent, fun hx hy => ?_⟩
  obtain ⟨place, writable, hbacked⟩ := exists_backed h
  obtain ⟨hfilesx, hreadx, hsavedx⟩ := hbacked.after_save hx
  obtain ⟨hfilesy, -, -⟩ := hbacked.after_save hy
  rw [(TargetFile.load_eq_ok h).1] at hreadx
  refine ⟨?_, ?_⟩
  · rw [hfilesx, hfilesy, hcontent]
  · rw [hsavedx]
    exact hreadx

/-- The second rewrite is refused. -/
def draftRewrites : List Rewrite :=
  [draftRewrite "x", ⟨⟨"B", "b"⟩, [], .strict⟩, draftRewrite "y"]

/-- A save after each step, and one more. -/
def draftSaves : List Action :=
  draftRewrites.flatMap (fun r => [.rewrite r, .save]) ++ [.save]

def draftUnsaved : List Action := draftRewrites.map Action.rewrite

theorem shown_eq_draft :
    shown (draft.events draftSaves) = shown (draft.events draftUnsaved) ∧
      (draft.after (draftSaves ++ [.save])).files =
        (draft.after (draftUnsaved ++ [.save])).files ∧
      (draft.after (draftSaves ++ [.save])).files.read ⟨"t"⟩ = .ok "A\ny\na\nB\n" := by
  have hrewrites : rewritesOf draftSaves = rewritesOf draftUnsaved := rfl
  have hsaves : draft.Undisturbed (draftSaves ++ [.save]) := ⟨by decide +kernel, by decide +kernel⟩
  have hunsaved : draft.Undisturbed (draftUnsaved ++ [.save]) :=
    ⟨by decide +kernel, by decide +kernel⟩
  have hcontent : (draft.after (draftSaves ++ [.save])).target.content = "A\ny\na\nB\n" := by
    decide +kernel
  obtain ⟨hshown, -, hfiles⟩ := shown_eq_of_rewritesOf_eq load_draft hrewrites
  obtain ⟨hsame, hread⟩ := hfiles hsaves hunsaved
  rw [hcontent] at hread
  exact ⟨hshown, hsame, hread⟩

end Session

end BindingRegions

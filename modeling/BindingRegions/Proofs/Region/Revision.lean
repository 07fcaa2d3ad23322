import BindingRegions.Proofs.Region.Settled
import BindingRegions.Proofs.Run.Target

/-! Rewriting as a partial function of texts. A region that holds no marker line in its body is
clear: whatever it holds is written over, so a rewrite of it commutes with the rewrites of
the other regions (`Clear.revise_comm`). Rewrites made once leave only clear regions, and
making them again with other lines gives what these lines alone would have given
(`foldlM_revise_overwrite`). -/

namespace BindingRegions

open Text

theorem Cut.rewritten_of_startLine (l : Cut) {startLine : String} (h : l.startLine = startLine)
    (replacement : List String) :
    l.rewritten replacement = { l with body := emitted startLine replacement } := by
  rw [rewritten, h]

def Step.target (s : Step) (content : String) : TargetFile := ⟨s.path, content, content⟩

/-- What a step makes of a text, unless it is refused. -/
def Step.revise (policy : EndMarkerPolicy) (content : String) (s : Step) : Option String :=
  match (s.target content).rewriteRegion s.markers s.lines policy with
  | .error _ => none
  | .ok (target, _) => some target.content

section Revise

variable {policy : EndMarkerPolicy} {content revised : String} {s u : Step} {group : Step → Prop}

theorem Step.revise_eq_some (h : s.revise policy content = some revised) :
    ∃ target outcome, (s.target content).rewriteRegion s.markers s.lines policy =
      .ok (target, outcome) ∧ target.content = revised := by
  unfold revise at h
  split at h
  · cases h
  · rename_i target outcome hr
    exact ⟨target, outcome, hr, Option.some.inj h⟩

theorem Step.revise_of_absent
    (h : ∀ line ∈ splitLines content, isMarker s.markers.start line = false)
    (policy : EndMarkerPolicy) : s.revise policy content = some content := by
  have hr : (s.target content).rewriteRegion s.markers s.lines policy = _ :=
    TargetFile.rewriteRegion_of_absent h s.lines policy
  rw [revise, hr]
  rfl

theorem Step.revise_of_marks {l : Cut} (hl : l.lines = splitLines content)
    (hm : l.Marks s.markers) (policy : EndMarkerPolicy) :
    s.revise policy content =
      if l.rest = [] ∧ policy = .strict then none
      else some (joinLines (l.rewritten s.lines).lines) := by
  have hr : (s.target content).rewriteRegion s.markers s.lines policy = _ :=
    TargetFile.rewriteRegion_of_marks hl hm s.lines policy
  rw [revise, hr, l.joinLines_spliced]
  split_ifs with hs hc
  · rfl
  · rw [hc]
  · rfl

theorem Step.revise_of_allowed {k : Cut} (hk : k.lines = splitLines content)
    (hkm : k.Marks u.markers) (hallowed : policy = .strict → k.rest ≠ []) :
    u.revise policy content = some (joinLines (k.rewritten u.lines).lines) := by
  rw [Step.revise_of_marks hk hkm, if_neg fun hr => hallowed hr.2 hr.1]

theorem Tidy.revise (htidy : Tidy group content) (hs : group s)
    (h : s.revise policy content = some revised) : Tidy group revised := by
  obtain ⟨target, outcome, hr, rfl⟩ := Step.revise_eq_some h
  exact Tidy.rewriteRegion (htidy : Tidy group (s.target content).content) hs hr

theorem Tidy.absent_revise (htidy : Tidy group content) (hs : group s) (hu : group u)
    (h : s.revise policy content = some revised)
    (hnone : ∀ line ∈ splitLines content, isMarker u.markers.start line = false) :
    ∀ line ∈ splitLines revised, isMarker u.markers.start line = false := by
  obtain ⟨target, outcome, hr, rfl⟩ := Step.revise_eq_some h
  exact Tidy.absent_rewriteRegion (htidy : Tidy group (s.target content).content) hs hu hr hnone

/-! ### Clear regions -/

/-- A step's region, if there is one, has no marker line in its body, and the step is not
refused. -/
inductive Clear (policy : EndMarkerPolicy) (group : Step → Prop) (u : Step) (content : String) : Prop
  | absent : (∀ line ∈ splitLines content, isMarker u.markers.start line = false) →
    Clear policy group u content
  | marked (k : Cut) : k.lines = splitLines content → k.Marks u.markers →
    (policy = .strict → k.rest ≠ []) →
    (∀ line ∈ k.body, ∀ t, group t →
      isMarker t.markers.start line = false ∧ isMarker t.markers.stop line = false) →
    Clear policy group u content

theorem Clear.exists_revise (hu : Clear policy group u content) :
    ∃ revised, u.revise policy content = some revised := by
  cases hu with
  | absent hnone => exact ⟨content, Step.revise_of_absent hnone policy⟩
  | marked k hk hkm hstrict hclear => exact ⟨_, Step.revise_of_allowed hk hkm hstrict⟩

/-- A step that was made leaves its region clear for a step with the same markers, and that
one writes over whatever the first has written. -/
theorem revise_overwrite {a b : Step} (hab : a.markers = b.markers) (htidy : Tidy group content)
    (ha : group a) (h : a.revise policy content = some revised) :
    b.revise policy revised = b.revise policy content ∧ Clear policy group b revised := by
  rcases Cut.exists_marks (splitLines content) a.markers with hnone | ⟨l, hl, hm⟩
  · rw [Step.revise_of_absent hnone, Option.some.injEq] at h
    rw [hab] at hnone
    exact h ▸ ⟨rfl, .absent hnone⟩
  · have hclear := htidy.clear a ha l.startLine (by rw [← hl]; simp [Cut.lines]) hm.startLine
    have hm' := hm.rewritten fun line hline => (hclear line hline a ha).2
    rw [Step.revise_of_marks hl hm] at h
    split_ifs at h with hs
    rw [Option.some.injEq] at h
    have hl' : (l.rewritten a.lines).lines = splitLines revised := by
      rw [← h, Cut.splitLines_rewritten hl]
    rw [hab] at hm hm'
    refine ⟨?_, .marked _ hl' hm' (fun hp hr => hs ⟨hr, hp⟩) hclear⟩
    rw [Step.revise_of_marks hl hm, Step.revise_of_marks hl' hm']
    rfl

/-- Two regions that are both there, one of them clear, may be rewritten in either order. -/
theorem Clear.revise_comm_of_marks {k l : Cut} (hk : k.lines = splitLines content)
    (hkm : k.Marks u.markers) (hstrict : policy = .strict → k.rest ≠ [])
    (hclear : ∀ line ∈ k.body, ∀ t, group t →
      isMarker t.markers.start line = false ∧ isMarker t.markers.stop line = false)
    (hl : l.lines = splitLines content) (hm : l.Marks s.markers) (htidy : Tidy group content)
    (hmem : group u) (hs : group s) (hne : u.markers.start ≠ s.markers.start)
    (h : s.revise policy content = some revised) :
    ∃ first both, u.revise policy content = some first ∧ s.revise policy first = some both ∧
      u.revise policy revised = some both ∧ Clear policy group u revised := by
  have hfirst := Step.revise_of_allowed hk hkm hstrict
  rw [Step.revise_of_marks hl hm] at h
  split_ifs at h with hrefused
  rw [Option.some.injEq] at h
  have hnewu := htidy.clear u hmem k.startLine (by rw [← hk]; simp [Cut.lines]) hkm.startLine
  have hnewl := htidy.clear s hs l.startLine (by rw [← hl]; simp [Cut.lines]) hm.startLine
  obtain ⟨l', hl', hm', hline', hrest', hsplit⟩ :=
    hkm.exchange (hk.trans hl.symm) hm hne (hk ▸ htidy.once u hmem)
      (fun line hline => hclear line hline s hs) (fun line hline => hnewu line hline s hs)
      (fun line hline => (hnewl line hline u hmem).1)
  have hsecond := Step.revise_of_allowed (hl'.trans (Cut.splitLines_rewritten hk u.lines).symm) hm'
    fun hp hr => hrefused ⟨hrest'.1 hr, hp⟩
  rw [l'.rewritten_of_startLine hline'] at hsecond
  have hd : (l.rewritten s.lines).lines = splitLines revised := by
    rw [← h, Cut.splitLines_rewritten hl]
  rcases hsplit with ⟨hgone, heq⟩ | ⟨k', hk', hkm', hkline, hkbody, hkrest, heq⟩ <;>
    rw [heq] at hsecond
  · -- the clear region went with the other one's body
    have hnone : ∀ line ∈ splitLines revised, isMarker u.markers.start line = false := hd ▸ hgone
    exact ⟨_, _, hfirst, hsecond.trans (congrArg some h), Step.revise_of_absent hnone policy,
      .absent hnone⟩
  · have hk'' : k'.lines = splitLines revised := hk'.trans hd
    have hallowed : policy = .strict → k'.rest ≠ [] := fun hp => hkrest (hstrict hp)
    have hthird := Step.revise_of_allowed hk'' hkm' hallowed
    rw [k'.rewritten_of_startLine hkline] at hthird
    exact ⟨_, _, hfirst, hsecond, hthird, .marked k' hk'' hkm' hallowed (hkbody ▸ hclear)⟩

/-- Rewriting a clear region succeeds, and then it is all the same whether another region
is rewritten before or after it. -/
theorem Clear.revise_comm (hu : Clear policy group u content) (htidy : Tidy group content)
    (hmem : group u) (hs : group s) (hne : u.markers.start ≠ s.markers.start)
    (h : s.revise policy content = some revised) :
    ∃ first both, u.revise policy content = some first ∧ s.revise policy first = some both ∧
      u.revise policy revised = some both ∧ Clear policy group u revised := by
  cases hu with
  | absent hnone =>
    have hnone' := htidy.absent_revise hs hmem h hnone
    exact ⟨content, revised, Step.revise_of_absent hnone policy, h,
      Step.revise_of_absent hnone' policy, .absent hnone'⟩
  | marked k hk hkm hstrict hclear =>
    rcases Cut.exists_marks (splitLines content) s.markers with hnone | ⟨l, hl, hm⟩
    · -- the other step passes by, before and after
      have hfirst := Step.revise_of_allowed hk hkm hstrict
      have hnone' := htidy.absent_revise hmem hs hfirst hnone
      rw [Step.revise_of_absent hnone, Option.some.injEq] at h
      exact ⟨_, _, hfirst, Step.revise_of_absent hnone' policy, h ▸ hfirst,
        h ▸ .marked k hk hkm hstrict hclear⟩
    · exact Clear.revise_comm_of_marks hk hkm hstrict hclear hl hm htidy hmem hs hne h

/-! ### Rewriting again -/

/-- Rewriting a clear region can be put off until other regions are rewritten. -/
theorem Clear.foldlM_revise_comm {steps : List Step} (hu : Clear policy group u content)
    (htidy : Tidy group content) (hmem : group u) (hgroup : ∀ s ∈ steps, group s)
    (hne : ∀ s ∈ steps, u.markers.start ≠ s.markers.start)
    (h : steps.foldlM (Step.revise policy) content = some revised) :
    ∃ first both, u.revise policy content = some first ∧
      steps.foldlM (Step.revise policy) first = some both ∧
      u.revise policy revised = some both := by
  induction steps generalizing content with
  | nil =>
    obtain rfl : content = revised := Option.some.inj h
    obtain ⟨first, hfirst⟩ := hu.exists_revise
    exact ⟨first, first, hfirst, rfl, hfirst⟩
  | cons s rest ih =>
    obtain ⟨next, hs, hrest⟩ := Option.bind_eq_some_iff.1 h
    obtain ⟨first, second, hfirst, hsecond, hnext, hclear⟩ :=
      hu.revise_comm htidy hmem (hgroup s (by simp)) (hne s (by simp)) hs
    obtain ⟨second', both, hnext', hboth, hlast⟩ :=
      ih hclear (htidy.revise (hgroup s (by simp)) hs) (fun t ht => hgroup t (by simp [ht]))
        (fun t ht => hne t (by simp [ht])) hrest
    obtain rfl : second = second' := Option.some.inj (hnext.symm.trans hnext')
    refine ⟨first, both, hfirst, ?_, hlast⟩
    rw [List.foldlM_cons, hsecond]
    exact hboth

/-- Steps that are made again with other lines leave what these lines alone would have
left. -/
theorem foldlM_revise_overwrite {olds news : List Step}
    (hmarkers : olds.map (·.markers) = news.map (·.markers))
    (htidy : Tidy group content) (holds : ∀ s ∈ olds, group s) (hnews : ∀ s ∈ news, group s)
    (hne : olds.Pairwise fun s t => s.markers.start ≠ t.markers.start)
    (h : olds.foldlM (Step.revise policy) content = some revised) :
    news.foldlM (Step.revise policy) revised = news.foldlM (Step.revise policy) content := by
  induction olds generalizing news content revised with
  | nil =>
    obtain rfl : news = [] := List.map_eq_nil_iff.1 hmarkers.symm
    rw [Option.some.inj h]
  | cons a olds ih =>
    obtain ⟨b, news, rfl, hab, hmarkers⟩ := List.map_eq_cons_iff.1 hmarkers.symm
    obtain ⟨next, ha, hrest⟩ := Option.bind_eq_some_iff.1 h
    rw [List.pairwise_cons] at hne
    have hga := holds a (by simp)
    have hgb := hnews b (by simp)
    obtain ⟨hover, hclear⟩ := revise_overwrite hab.symm htidy hga ha
    -- the first new step may be made right after the first old one
    obtain ⟨first, both, hfirst, hboth, hlast⟩ := hclear.foldlM_revise_comm (htidy.revise hga ha) hgb
      (fun s hs => holds s (by simp [hs])) (fun s hs => hab.symm ▸ hne.1 s hs) hrest
    have hdirect := hover.symm.trans hfirst
    rw [List.foldlM_cons, List.foldlM_cons, hlast, hdirect]
    exact ih hmarkers.symm (htidy.revise hgb hdirect) (fun s hs => holds s (by simp [hs]))
      (fun s hs => hnews s (by simp [hs])) hne.2 hboth

end Revise

end BindingRegions

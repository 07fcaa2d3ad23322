import BindingRegions.Proofs.Fragment.Bracket
import BindingRegions.Proofs.Region.Settled
import BindingRegions.Proofs.Run.Target

/-! Regions that show some lines. A text shows lines between markers when its region has
them for its body and would be left as it is by writing them. Such a region answers any
other lines: written there, they are reported as a change just when they differ
(`Shows.exists_rewrite`). Every other region that shows lines goes on to do so, unless it
is the same region under other end markers, and then it shows what was written. -/

namespace BindingRegions

open Text

/-- Lines that stay what they are in every file, and are no markers of the group. -/
structure Inert (group : MarkerPair → Prop) (lines : List String) : Prop where
  single : ∀ line ∈ lines, '\n' ∉ line.toList
  plain : ∀ line ∈ lines, endsWithReturn line = false
  clear : ∀ line ∈ lines, ∀ markers, group markers →
    isMarker markers.start line = false ∧ isMarker markers.stop line = false

/-- Writing the lines at the cut of the region leaves the text as it is. -/
structure ShowsAt (policy : EndMarkerPolicy) (markers : MarkerPair) (lines : List String)
    (content : String) (l : Cut) : Prop where
  lines_eq : l.lines = splitLines content
  marks : l.Marks markers
  allowed : policy = .strict → l.rest ≠ []
  body_eq : l.body = emitted l.startLine lines
  joined : joinLines l.lines = content

def Shows (policy : EndMarkerPolicy) (markers : MarkerPair) (lines : List String)
    (content : String) : Prop :=
  ∃ l, ShowsAt policy markers lines content l

variable {group : MarkerPair → Prop} {policy : EndMarkerPolicy} {markers other : MarkerPair}
  {old new shown : List String} {content : String} {target target' : TargetFile} {u l : Cut}

theorem Inert.clear_emitted (h : Inert group new) (hm : group markers) (startLine : String) :
    ∀ line ∈ emitted startLine new,
      isMarker markers.start line = false ∧ isMarker markers.stop line = false := fun line hline =>
  ⟨isMarker_emitted_eq_false h.single h.plain (fun text ht => (h.clear text ht markers hm).1)
      line hline,
    isMarker_emitted_eq_false h.single h.plain (fun text ht => (h.clear text ht markers hm).2)
      line hline⟩

/-- Inert lines are all there in what they come out as. -/
theorem Inert.emitted_eq_iff (hold : Inert group old) (hnew : Inert group new)
    (startLine : String) : emitted startLine new = emitted startLine old ↔ new = old := by
  rw [emitted_of_newline_not_mem hold.single, emitted_of_newline_not_mem hnew.single, bodyLines,
    bodyLines]
  split
  · have hinj : Function.Injective (fun line : String => line ++ "\r") :=
      fun x y h => (String.append_left_inj _).1 h
    exact (List.map_injective_iff.2 hinj).eq_iff
  · rfl

/-- What is found up to date is shown. -/
theorem shows_of_unchanged
    (h : target.rewriteRegion markers shown policy = .ok (target', .unchanged)) :
    target' = target ∧ Shows policy markers shown target.content := by
  have hkeeps := (TargetFile.rewriteRegion_keeps h).2.2 (by simp)
  subst hkeeps
  rcases TargetFile.rewriteRegion_eq_ok h with ⟨-, -, houtcome⟩ | ⟨l, hat, hallowed⟩
  · cases houtcome
  · have hlines : (l.rewritten shown).lines = l.lines :=
      hat.splitLines_eq.symm.trans hat.lines_eq.symm
    have hbody := (l.lines_rewritten_eq_iff shown).1 hlines
    refine ⟨rfl, l, hat.lines_eq, hat.marks, hallowed, hbody.symm, ?_⟩
    rw [hat.lines_eq]
    exact hat.content_eq

/-- The cut shows what is written at it. -/
theorem ShowsAt.rewritten (h : ShowsAt policy markers old content l) (hnew : Inert group new)
    (hm : group markers) :
    ShowsAt policy markers new (joinLines (l.rewritten new).lines) (l.rewritten new) where
  lines_eq := (Cut.splitLines_rewritten h.lines_eq new).symm
  marks := h.marks.rewritten fun line hline => (hnew.clear_emitted hm _ line hline).2
  allowed := h.allowed
  body_eq := by rw [Cut.rewritten]
  joined := rfl

/-- Writing other lines at the cut is a change. -/
theorem ShowsAt.rewriteRegion (h : ShowsAt policy markers old target.content l)
    (hold : Inert group old) (hnew : Inert group new) :
    target.rewriteRegion markers new policy =
      .ok ({ target with content := joinLines (l.rewritten new).lines },
        if new = old then .unchanged else .replaced) := by
  have hallowed : ¬ (l.rest = [] ∧ policy = .strict) := fun hr => h.allowed hr.2 hr.1
  obtain ⟨target', outcome, hat, hr⟩ :=
    TargetFile.exists_rewritesAt h.lines_eq h.marks hallowed new
  have hjoined : joinLines (splitLines target.content) = target.content := by
    rw [← h.lines_eq]
    exact h.joined
  have hsame : target'.content = target.content ↔ new = old := by
    rw [hat.content_eq_iff hjoined, h.body_eq, hold.emitted_eq_iff hnew]
  rw [hr, hat.outcome_eq, hat.target_eq]
  simp only [← hsame, hat.target_eq]

/-! ### Other regions -/

/-- Two ways to cut the lines behind a start marker line, if neither body has an end marker
of the other. -/
theorem eq_of_append_eq {body body' rest rest' : List String} {stop stop' : String}
    (h : body ++ rest = body' ++ rest') (hclear : ∀ line ∈ body, isMarker stop' line = false)
    (hclear' : ∀ line ∈ body', isMarker stop line = false)
    (hrest : ∀ line ∈ rest.head?, isMarker stop line = true)
    (hrest' : ∀ line ∈ rest'.head?, isMarker stop' line = true) : body = body' ∧ rest = rest' := by
  rcases List.append_eq_append_iff.1 h with ⟨mid, hbody, hr⟩ | ⟨mid, hbody, hr⟩
  · cases mid with
    | nil => exact ⟨by simpa using hbody.symm, by simpa using hr⟩
    | cons line mid =>
      have hfalse := hclear' line (by simp [hbody])
      rw [hrest line (by simp [hr])] at hfalse
      cases hfalse
  · cases mid with
    | nil => exact ⟨by simpa using hbody, by simpa using hr.symm⟩
    | cons line mid =>
      have hfalse := hclear line (by simp [hbody])
      rw [hrest' line (by simp [hr])] at hfalse
      cases hfalse

/-- Two cuts at one start marker are one cut, if neither body has an end marker of the
other. -/
theorem Cut.Marks.eq_of_start_eq {mu ml : MarkerPair} (hlines : u.lines = l.lines)
    (hu : u.Marks mu) (hl : l.Marks ml) (hstart : mu.start = ml.start)
    (hclearu : ∀ line ∈ u.body, isMarker ml.stop line = false)
    (hclearl : ∀ line ∈ l.body, isMarker mu.stop line = false) : u = l := by
  have hfound := hu.startLine
  have hfound' := hl.startLine
  rw [hstart] at hfound
  rw [← hstart] at hfound'
  rcases append_cons_eq_append_cons hlines with ⟨hbefore, hline, hbehind⟩ | ⟨mid, hbefore, -⟩ |
    ⟨mid, hbefore, -⟩
  · obtain ⟨hbody, hrest⟩ := eq_of_append_eq hbehind hclearu hclearl hu.rest hl.rest
    cases u
    cases l
    simp_all
  · have hfalse := hl.before u.startLine (by simp [hbefore])
    rw [hfound] at hfalse
    cases hfalse
  · have hfalse := hu.before l.startLine (by simp [hbefore])
    rw [hfound'] at hfalse
    cases hfalse

theorem ShowsAt.clear (h : ShowsAt policy markers shown content l) (hshown : Inert group shown)
    (hother : group other) : ∀ line ∈ l.body,
      isMarker other.start line = false ∧ isMarker other.stop line = false := by
  rw [h.body_eq]
  exact hshown.clear_emitted hother _

/-- A region that shows lines still does once another one, with a start marker of its own,
has other lines. -/
theorem ShowsAt.of_start_ne {mu ml : MarkerPair} (hu : ShowsAt policy mu old content u)
    (hl : ShowsAt policy ml shown content l) (hold : Inert group old) (hshown : Inert group shown)
    (hnew : Inert group new) (hmu : group mu) (hml : group ml) (hne : mu.start ≠ ml.start) :
    Shows policy ml shown (joinLines (u.rewritten new).lines) := by
  have hshows {l' : Cut} (hl' : l'.lines = (u.rewritten new).lines) (hm : l'.Marks ml)
      (hallowed : policy = .strict → l'.rest ≠ [])
      (hbody : l'.body = emitted l'.startLine shown) :
      Shows policy ml shown (joinLines (u.rewritten new).lines) :=
    ⟨l', hl'.trans (Cut.splitLines_rewritten hu.lines_eq new).symm, hm, hallowed, hbody,
      by rw [hl']⟩
  -- the other region cannot lie around this one, since its body has no start marker
  rcases hu.marks.apart_or_around (hu.lines_eq.trans hl.lines_eq.symm) hl.marks hne
    (hu.clear hold hml) with ⟨mid, hbefore, hrest⟩ | ⟨mid, hbefore, hrest⟩ |
    ⟨front, back, -, hbody, -⟩
  · have hm := hl.marks.exchange_front hbefore fun line hline =>
      (hnew.clear_emitted hml u.startLine line hline).1
    refine hshows ?_ hm hl.allowed hl.body_eq
    simp [Cut.lines, Cut.rewritten, hrest]
  · have hm := hl.marks.exchange_behind hrest (emitted u.startLine new ++ u.rest)
    refine hshows ?_ hm (fun _ => by simp) hl.body_eq
    simp [Cut.lines, Cut.rewritten, hbefore]
  · have hfalse := (hl.clear hshown hmu u.startLine (by simp [hbody])).1
    rw [hu.marks.startLine] at hfalse
    cases hfalse

/-- Regions with one start marker show the same lines, old and new. -/
theorem ShowsAt.of_start_eq {mu ml : MarkerPair} (hu : ShowsAt policy mu old content u)
    (hl : ShowsAt policy ml shown content l) (hold : Inert group old) (hshown : Inert group shown)
    (hnew : Inert group new) (hmu : group mu) (hml : group ml) (hstart : mu.start = ml.start) :
    old = shown ∧ Shows policy ml new (joinLines (u.rewritten new).lines) := by
  obtain rfl := hu.marks.eq_of_start_eq (hu.lines_eq.trans hl.lines_eq.symm) hl.marks hstart
    (fun line hline => (hu.clear hold hml line hline).2)
    fun line hline => (hl.clear hshown hmu line hline).2
  have hbody := hu.body_eq.symm.trans hl.body_eq
  exact ⟨(hshown.emitted_eq_iff hold _).1 hbody, _, hl.rewritten hnew hml⟩

/-- Other lines are a change where a region shows lines, and once they are written, every
region shows what it showed, or shows them if it is the same. -/
theorem Shows.exists_rewrite (h : Shows policy markers old content) (hold : Inert group old)
    (hnew : Inert group new) (hm : group markers) :
    ∃ after, (∀ target : TargetFile, target.content = content →
        target.rewriteRegion markers new policy =
          .ok ({ target with content := after }, if new = old then .unchanged else .replaced)) ∧
      ∀ other shown, group other → Inert group shown → Shows policy other shown content →
        Shows policy other shown after ∨ old = shown ∧ Shows policy other new after := by
  obtain ⟨u, hu⟩ := h
  refine ⟨joinLines (u.rewritten new).lines, ?_, fun other shown hother hshown hl => ?_⟩
  · rintro target rfl
    exact hu.rewriteRegion hold hnew
  · obtain ⟨l, hl⟩ := hl
    by_cases hstart : markers.start = other.start
    · exact .inr (hu.of_start_eq hl hold hshown hnew hm hother hstart)
    · exact .inl (hu.of_start_ne hl hold hshown hnew hm hother hstart)

end BindingRegions

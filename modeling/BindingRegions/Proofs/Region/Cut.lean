import BindingRegions.Proofs.Text.Lines
import BindingRegions.Target

/-! Regions without indices. A `Cut` divides lines into those before a region, its start
marker line, its body, and the rest from the end marker line on. Either no line is a
start marker, or there is a cut that marks the region (`Cut.exists_marks`), and
then searching, splicing and rewriting are read off it (`TargetFile.rewriteRegion_of_marks`).
What a rewrite puts into a text is counted in the lines that it comes out as, the
`emitted` ones: a text given for the body may hold newlines itself. -/

namespace BindingRegions

open Text

/-- The lines strictly between the marker lines of a region. -/
def Region.inside (r : Region) (lines : List String) : List String :=
  (lines.take (r.bodyEnd lines)).drop (r.start + 1)

/-- Lines cut at a region. Without an end marker line the rest is empty. -/
structure Cut where
  before : List String
  startLine : String
  body : List String
  rest : List String

/-- The lines that a replacement comes out as below a start marker line. -/
@[irreducible] def emitted (startLine : String) (replacement : List String) : List String :=
  splitLines (joinLines (bodyLines startLine replacement))

theorem newline_not_mem_of_mem_emitted {startLine line : String} {replacement : List String}
    (h : line ∈ emitted startLine replacement) : '\n' ∉ line.toList := by
  rw [emitted] at h
  exact newline_not_mem_of_mem_splitLines h

theorem newline_not_mem_bodyLines_iff (startLine : String) (replacement : List String) :
    (∀ line ∈ bodyLines startLine replacement, '\n' ∉ line.toList) ↔
      ∀ line ∈ replacement, '\n' ∉ line.toList := by
  rw [bodyLines]
  split
  · simp
  · rfl

theorem emitted_of_newline_not_mem {replacement : List String}
    (h : ∀ line ∈ replacement, '\n' ∉ line.toList) (startLine : String) :
    emitted startLine replacement = bodyLines startLine replacement := by
  rw [emitted]
  exact splitLines_joinLines ((newline_not_mem_bodyLines_iff startLine replacement).2 h)

theorem isMarker_append_return (marker line : String) :
    isMarker marker (line ++ "\r") = true ↔ line = marker := by
  have hreturn : endsWithReturn (line ++ "\r") = true := by simp [endsWithReturn]
  rw [isMarker, dropReturn, if_pos hreturn, beq_iff_eq]
  simp

theorem isMarker_iff_of_not_return {marker line : String} (h : endsWithReturn line = false) :
    isMarker marker line = true ↔ line = marker := by
  rw [isMarker, dropReturn, h, if_neg (by decide), beq_iff_eq]

namespace Cut

def lines (l : Cut) : List String := l.before ++ l.startLine :: (l.body ++ l.rest)

/-- The cut is the one that the markers ask for: at the first start marker line and the
first end marker line after it. -/
structure Marks (l : Cut) (markers : MarkerPair) : Prop where
  startLine : isMarker markers.start l.startLine = true
  before : ∀ line ∈ l.before, isMarker markers.start line = false
  body : ∀ line ∈ l.body, isMarker markers.stop line = false
  rest : ∀ line ∈ l.rest.head?, isMarker markers.stop line = true

def region (l : Cut) : Region where
  start := l.before.length
  stop := if l.rest = [] then none else some (l.before.length + 1 + l.body.length)

def spliced (l : Cut) (replacement : List String) : List String :=
  l.before ++ l.startLine :: (bodyLines l.startLine replacement ++ l.rest)

def rewritten (l : Cut) (replacement : List String) : Cut :=
  { l with body := emitted l.startLine replacement }

theorem Marks.rewritten {l : Cut} {markers : MarkerPair} (h : l.Marks markers)
    {replacement : List String}
    (hbody : ∀ line ∈ emitted l.startLine replacement, isMarker markers.stop line = false) :
    (l.rewritten replacement).Marks markers where
  startLine := h.startLine
  before := h.before
  body := by
    rw [Cut.rewritten]
    exact hbody
  rest := h.rest

theorem joinLines_spliced (l : Cut) (replacement : List String) :
    joinLines (l.spliced replacement) = joinLines (l.rewritten replacement).lines := by
  have hsplit (xs : List String) : l.before ++ l.startLine :: (xs ++ l.rest) =
      (l.before ++ [l.startLine]) ++ (xs ++ l.rest) := by simp
  rw [spliced, lines, rewritten, hsplit, hsplit]
  simp only [joinLines_append, emitted, joinLines_splitLines_joinLines]

theorem newline_not_mem {l : Cut} {content : String} (hl : l.lines = splitLines content) :
    ∀ line ∈ l.lines, '\n' ∉ line.toList := by
  intro line hline
  rw [hl] at hline
  exact newline_not_mem_of_mem_splitLines hline

theorem splitLines_rewritten {l : Cut} {content : String}
    (hl : l.lines = splitLines content) (replacement : List String) :
    splitLines (joinLines (l.rewritten replacement).lines) = (l.rewritten replacement).lines := by
  apply splitLines_joinLines
  intro line hline
  simp only [lines, rewritten, List.mem_append, List.mem_cons] at hline
  have hold := newline_not_mem hl line
  simp only [lines, List.mem_append, List.mem_cons] at hold
  rcases hline with h | h | h | h
  · exact hold (.inl h)
  · exact hold (.inr (.inl h))
  · exact newline_not_mem_of_mem_emitted h
  · exact hold (.inr (.inr (.inr h)))

theorem lines_rewritten_eq_iff (l : Cut) (replacement : List String) :
    (l.rewritten replacement).lines = l.lines ↔ emitted l.startLine replacement = l.body := by
  simp only [lines, rewritten, List.append_cancel_left_eq, List.cons.injEq, true_and,
    List.append_left_inj]

theorem drop_lines (l : Cut) : l.lines.drop (l.before.length + 1) = l.body ++ l.rest := by
  rw [lines, ← List.singleton_append, ← List.append_assoc]
  exact List.drop_left' (by simp)

theorem findIdx?_stop {l : Cut} {markers : MarkerPair} (h : l.Marks markers) :
    (l.body ++ l.rest).findIdx? (isMarker markers.stop) =
      if l.rest = [] then none else some l.body.length := by
  rw [List.findIdx?_append, List.findIdx?_eq_none_iff.2 h.body, Option.none_or]
  cases hr : l.rest with
  | nil => rfl
  | cons line rest =>
    rw [List.findIdx?_cons, if_pos (h.rest line (by simp [hr]))]
    simp

theorem findRegion_lines {l : Cut} {markers : MarkerPair} (h : l.Marks markers) :
    findRegion l.lines markers = some l.region := by
  have hstart : l.lines.findIdx? (isMarker markers.start) = some l.before.length := by
    rw [lines, List.findIdx?_append, List.findIdx?_eq_none_iff.2 h.before, List.findIdx?_cons,
      if_pos h.startLine]
    simp
  rw [findRegion, hstart, Option.map_some, drop_lines, findIdx?_stop h]
  split_ifs with hr <;> simp [region, hr]

theorem Marks.find?_lines {l : Cut} {markers : MarkerPair} (h : l.Marks markers) :
    l.lines.find? (isMarker markers.start) = some l.startLine := by
  rw [lines, List.find?_append, List.find?_eq_none.2 (by simpa using h.before), Option.none_or,
    List.find?_cons_of_pos h.startLine]

theorem bodyEnd_region (l : Cut) :
    l.region.bodyEnd l.lines = (l.before ++ l.startLine :: l.body).length := by
  by_cases hr : l.rest = []
  · simp [Region.bodyEnd, region, lines, hr]
  · simp [Region.bodyEnd, region, hr]
    omega

theorem inside_lines (l : Cut) : l.region.inside l.lines = l.body := by
  have htake : l.lines.take (l.before ++ l.startLine :: l.body).length =
      l.before ++ l.startLine :: l.body := by
    rw [lines, ← List.cons_append, ← List.append_assoc]
    exact List.take_left' rfl
  have hdrop : (l.before ++ l.startLine :: l.body).drop (l.before.length + 1) = l.body := by
    rw [← List.singleton_append, ← List.append_assoc]
    exact List.drop_left' (by simp)
  rw [Region.inside, l.bodyEnd_region, htake]
  exact hdrop

theorem splice_lines (l : Cut) (replacement : List String) (fits : l.region.Fits l.lines) :
    splice l.lines l.region replacement fits = l.spliced replacement := by
  have htake : l.lines.take (l.before.length + 1) = l.before ++ [l.startLine] := by
    rw [lines, ← List.singleton_append, ← List.append_assoc]
    exact List.take_left' (by simp)
  have hdrop : l.lines.drop (l.region.bodyEnd l.lines) = l.rest := by
    rw [l.bodyEnd_region, lines, ← List.cons_append, ← List.append_assoc]
    exact List.drop_left' rfl
  have hlt := fits.start_lt
  have hline : l.lines[l.region.start] = l.startLine := by simp [lines, region]
  simp only [splice, hdrop, hline]
  rw [show l.region.start = l.before.length from rfl, htake]
  simp [spliced]

theorem exists_marks (lines : List String) (markers : MarkerPair) :
    (∀ line ∈ lines, isMarker markers.start line = false) ∨
      ∃ l : Cut, l.lines = lines ∧ l.Marks markers := by
  cases hs : lines.find? (isMarker markers.start) with
  | none =>
    left
    simpa using hs
  | some startLine =>
    right
    obtain ⟨hstart, before, tail, rfl, hbefore⟩ := List.find?_eq_some_iff_append.1 hs
    have hbefore : ∀ line ∈ before, isMarker markers.start line = false := by simpa using hbefore
    cases he : tail.find? (isMarker markers.stop) with
    | none =>
      exact ⟨⟨before, startLine, tail, []⟩, by simp [Cut.lines], hstart, hbefore,
        by simpa using he, by simp⟩
    | some stopLine =>
      obtain ⟨hstop, body, rest, rfl, hbody⟩ := List.find?_eq_some_iff_append.1 he
      exact ⟨⟨before, startLine, body, stopLine :: rest⟩, by simp [Cut.lines], hstart, hbefore,
        by simpa using hbody, by simpa using hstop⟩

theorem exists_of_findRegion {lines : List String} {markers : MarkerPair} {r : Region}
    (h : findRegion lines markers = some r) :
    ∃ l : Cut, l.lines = lines ∧ l.Marks markers ∧ r = l.region := by
  rcases exists_marks lines markers with hnone | ⟨l, rfl, hm⟩
  · rw [findRegion, List.findIdx?_eq_none_iff.2 hnone] at h
    cases h
  · rw [findRegion_lines hm, Option.some.injEq] at h
    exact ⟨l, rfl, hm, h.symm⟩

theorem stop_region_eq_none_iff (l : Cut) : l.region.stop = none ↔ l.rest = [] := by
  simp [region]

end Cut

namespace TargetFile

variable {target : TargetFile} {markers : MarkerPair}

theorem rewriteRegion_of_not_found (h : findRegion (splitLines target.content) markers = none)
    (replacement : List String) (policy : EndMarkerPolicy) :
    target.rewriteRegion markers replacement policy = .ok (target, .markerNotFound) := by
  unfold rewriteRegion
  split
  · rfl
  · rename_i hsome
    rw [h] at hsome
    cases hsome

theorem rewriteRegion_of_found {region : Region}
    (h : findRegion (splitLines target.content) markers = some region)
    (replacement : List String) (policy : EndMarkerPolicy) :
    target.rewriteRegion markers replacement policy =
      let updated := joinLines (splice _ region replacement (fits_of_findRegion h))
      if region.stop = none ∧ policy = .strict then
        .error (.missingEndMarker target.path markers.stop)
      else if updated = target.content then .ok (target, .unchanged)
      else .ok ({ target with content := updated }, .replaced) := by
  unfold rewriteRegion
  split
  · rename_i hnone
    rw [h] at hnone
    cases hnone
  · rename_i found hsome
    obtain rfl : region = found := Option.some.inj (h.symm.trans hsome)
    rfl

theorem rewriteRegion_of_absent
    (h : ∀ line ∈ splitLines target.content, isMarker markers.start line = false)
    (replacement : List String) (policy : EndMarkerPolicy) :
    target.rewriteRegion markers replacement policy = .ok (target, .markerNotFound) := by
  apply rewriteRegion_of_not_found
  rw [findRegion, List.findIdx?_eq_none_iff.2 h, Option.map_none]

theorem rewriteRegion_of_marks {l : Cut} (hl : l.lines = splitLines target.content)
    (h : l.Marks markers) (replacement : List String) (policy : EndMarkerPolicy) :
    target.rewriteRegion markers replacement policy =
      if l.rest = [] ∧ policy = .strict then
        .error (.missingEndMarker target.path markers.stop)
      else if joinLines (l.spliced replacement) = target.content then .ok (target, .unchanged)
      else .ok ({ target with content := joinLines (l.spliced replacement) }, .replaced) := by
  have hfound : findRegion (splitLines target.content) markers = some l.region := by
    rw [← hl, Cut.findRegion_lines h]
  have hsplice : ∀ (lines : List String) (fits : l.region.Fits lines), lines = l.lines →
      splice lines l.region replacement fits = l.spliced replacement := by
    rintro _ fits rfl
    exact l.splice_lines replacement fits
  simp only [rewriteRegion_of_found hfound, hsplice _ _ hl.symm, l.stop_region_eq_none_iff]

/-- The rewrite replaces the body of a cut of the target's lines. -/
structure RewritesAt (target : TargetFile) (markers : MarkerPair) (replacement : List String)
    (l : Cut) (target' : TargetFile) (outcome : Outcome) : Prop where
  lines_eq : l.lines = splitLines target.content
  marks : l.Marks markers
  target_eq : target' = { target with content := joinLines (l.rewritten replacement).lines }
  outcome_eq : outcome = if target'.content = target.content then .unchanged else .replaced

/-- A cut that is not refused is where the rewrite happens. -/
theorem exists_rewritesAt {l : Cut} (hl : l.lines = splitLines target.content)
    (h : l.Marks markers) {policy : EndMarkerPolicy} (hs : ¬ (l.rest = [] ∧ policy = .strict))
    (replacement : List String) :
    ∃ target' outcome, target.RewritesAt markers replacement l target' outcome ∧
      target.rewriteRegion markers replacement policy = .ok (target', outcome) := by
  rw [rewriteRegion_of_marks hl h, l.joinLines_spliced, if_neg hs]
  refine ⟨_, _, ⟨hl, h, rfl, rfl⟩, ?_⟩
  split_ifs with hc
  · simp [hc]
  · rfl

/-- All that a rewrite can do: pass by, refuse, or replace one region's body. -/
theorem rewriteRegion_cases (target : TargetFile) (markers : MarkerPair)
    (replacement : List String) (policy : EndMarkerPolicy) :
    ((∀ line ∈ splitLines target.content, isMarker markers.start line = false) ∧
        target.rewriteRegion markers replacement policy = .ok (target, .markerNotFound)) ∨
      (policy = .strict ∧ target.rewriteRegion markers replacement policy =
        .error (.missingEndMarker target.path markers.stop)) ∨
      ∃ l target' outcome, target.RewritesAt markers replacement l target' outcome ∧
        (policy = .strict → l.rest ≠ []) ∧
        target.rewriteRegion markers replacement policy = .ok (target', outcome) := by
  rcases Cut.exists_marks (splitLines target.content) markers with hnone | ⟨l, hl, hm⟩
  · exact .inl ⟨hnone, rewriteRegion_of_absent hnone _ _⟩
  · right
    by_cases hs : l.rest = [] ∧ policy = .strict
    · left
      exact ⟨hs.2, by rw [rewriteRegion_of_marks hl hm, if_pos hs]⟩
    · right
      obtain ⟨target', outcome, hat, hr⟩ := exists_rewritesAt hl hm hs replacement
      exact ⟨l, target', outcome, hat, fun hp hrest => hs ⟨hrest, hp⟩, hr⟩

theorem rewriteRegion_eq_ok {replacement : List String} {policy : EndMarkerPolicy}
    {target' : TargetFile} {outcome : Outcome}
    (h : target.rewriteRegion markers replacement policy = .ok (target', outcome)) :
    ((∀ line ∈ splitLines target.content, isMarker markers.start line = false) ∧
        target' = target ∧ outcome = .markerNotFound) ∨
      ∃ l, target.RewritesAt markers replacement l target' outcome ∧
        (policy = .strict → l.rest ≠ []) := by
  rcases rewriteRegion_cases target markers replacement policy with ⟨hnone, hr⟩ | ⟨-, hr⟩ |
    ⟨l, t, o, hat, hstrict, hr⟩ <;> rw [h] at hr
  · rw [Except.ok.injEq, Prod.mk.injEq] at hr
    exact .inl ⟨hnone, hr⟩
  · cases hr
  · rw [Except.ok.injEq, Prod.mk.injEq] at hr
    obtain ⟨rfl, rfl⟩ := hr
    exact .inr ⟨l, hat, hstrict⟩

namespace RewritesAt

variable {replacement : List String} {l : Cut} {target' : TargetFile} {outcome : Outcome}

theorem splitLines_eq (h : target.RewritesAt markers replacement l target' outcome) :
    splitLines target'.content = (l.rewritten replacement).lines := by
  rw [h.target_eq]
  exact Cut.splitLines_rewritten h.lines_eq replacement

theorem content_eq (h : target.RewritesAt markers replacement l target' outcome) :
    joinLines (splitLines target'.content) = target'.content := by
  rw [h.splitLines_eq, h.target_eq]

/-- A text with a terminated last line changes just when the body does. -/
theorem content_eq_iff (h : target.RewritesAt markers replacement l target' outcome)
    (hjoined : joinLines (splitLines target.content) = target.content) :
    target'.content = target.content ↔ emitted l.startLine replacement = l.body := by
  rw [← l.lines_rewritten_eq_iff]
  constructor
  · intro hcontent
    rw [← h.splitLines_eq, hcontent, h.lines_eq]
  · intro hlines
    rw [h.target_eq, hlines, h.lines_eq]
    exact hjoined

theorem startLine_mem (h : target.RewritesAt markers replacement l target' outcome) :
    l.startLine ∈ splitLines target.content := by
  rw [← h.lines_eq]
  simp [Cut.lines]

/-- Every line comes from the old lines or is emitted. -/
theorem mem_or_emitted (h : target.RewritesAt markers replacement l target' outcome)
    {line : String} (hline : line ∈ splitLines target'.content) :
    line ∈ splitLines target.content ∨ line ∈ emitted l.startLine replacement := by
  rw [h.splitLines_eq] at hline
  rw [← h.lines_eq]
  simp only [Cut.lines, Cut.rewritten, List.mem_append, List.mem_cons] at hline ⊢
  rcases hline with h | h | h | h
  · exact .inl (.inl h)
  · exact .inl (.inr (.inl h))
  · exact .inr h
  · exact .inl (.inr (.inr (.inr h)))

/-- Of lines that are not emitted there are no more than before. -/
theorem countP_le (h : target.RewritesAt markers replacement l target' outcome)
    {p : String → Bool} (hp : ∀ line ∈ emitted l.startLine replacement, p line = false) :
    (splitLines target'.content).countP p ≤ (splitLines target.content).countP p := by
  have hzero : (emitted l.startLine replacement).countP p = 0 := by
    rw [List.countP_eq_zero]
    exact fun line hline => by simp [hp line hline]
  rw [h.splitLines_eq, ← h.lines_eq]
  simp only [Cut.lines, Cut.rewritten, List.countP_append, List.countP_cons, hzero]
  omega

end RewritesAt

end TargetFile

end BindingRegions

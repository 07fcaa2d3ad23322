import BindingRegions.Proofs.Run.Target
import BindingRegions.Proofs.Text.LineAt

/-! Line endings. A text without carriage returns and the same text with one in front of every
newline go through a rewrite side by side (`rewriteRegion_withReturns`): they have their
marker lines at the same places, since a marker is compared without the return behind it,
and a body takes the ending of its start marker line. Once all lines of a text end with a
return, no rewrite puts in a line that does not (`AllReturned.attemptAll`). -/

namespace BindingRegions

open Text

namespace Text

/-- The text with a carriage return in front of every newline. -/
def withReturns (text : String) : String :=
  String.ofList (text.toList.flatMap fun c => if c = '\n' then ['\r', '\n'] else [c])

/-- Every line of the text ends with a carriage return and a newline. -/
structure AllReturned (text : String) : Prop where
  returned : ∀ line ∈ splitLines text, endsWithReturn line = true
  terminated : joinLines (splitLines text) = text

variable {text line : String} {lines others : List String}

@[simp] theorem endsWithReturn_append_return (line : String) :
    endsWithReturn (line ++ "\r") = true := by
  simp [endsWithReturn]

theorem endsWithReturn_of_not_mem (h : '\r' ∉ line.toList) : endsWithReturn line = false := by
  rw [endsWithReturn, beq_eq_false_iff_ne]
  exact fun hlast => h (List.mem_of_getLast? hlast)

theorem newline_not_mem_map_return (h : ∀ line ∈ lines, '\n' ∉ line.toList) :
    ∀ line ∈ lines.map (· ++ "\r"), '\n' ∉ line.toList := by
  intro _ hline
  obtain ⟨line, hmem, rfl⟩ := List.mem_map.1 hline
  simpa using h line hmem

theorem return_not_mem_of_mem_splitLines (h : '\r' ∉ text.toList) (hline : line ∈ splitLines text) :
    '\r' ∉ line.toList := by
  have hmem : line.toList ∈ splitChars text.toList := by
    rw [← map_toList_splitLines]
    exact List.mem_map_of_mem hline
  obtain ⟨front, back, hs⟩ := List.append_of_mem hmem
  obtain ⟨before, after, hat, -⟩ := exists_lineAt hs
  rw [hat.text_eq] at h
  exact fun hr => h (by simp [hr])

theorem flatMap_return_of_newline_not_mem {line : List Char} (h : '\n' ∉ line) :
    (line.flatMap fun c => if c = '\n' then ['\r', '\n'] else [c]) = line := by
  induction line with
  | nil => rfl
  | cons c line ih =>
    obtain ⟨hc, hline⟩ := not_or.1 (mt List.mem_cons.2 h)
    rw [List.flatMap_cons, if_neg (Ne.symm hc), ih hline, List.singleton_append]

/-- Returns in front of the newlines are returns at the ends of the lines. -/
theorem withReturns_joinLines (h : ∀ line ∈ lines, '\n' ∉ line.toList) :
    withReturns (joinLines lines) = joinLines (lines.map (· ++ "\r")) := by
  apply String.toList_inj.1
  rw [withReturns, String.toList_ofList]
  induction lines with
  | nil => rfl
  | cons line lines ih =>
    rw [List.forall_mem_cons] at h
    rw [joinLines_cons, List.map_cons, joinLines_cons, List.flatMap_append, List.flatMap_cons,
      flatMap_return_of_newline_not_mem h.1, ih h.2]
    simp

theorem splitLines_withReturns (h : joinLines (splitLines text) = text) :
    splitLines (withReturns text) = (splitLines text).map (· ++ "\r") := by
  have hsingle : ∀ line ∈ splitLines text, '\n' ∉ line.toList :=
    fun _ => newline_not_mem_of_mem_splitLines
  conv_lhs => rw [← h, withReturns_joinLines hsingle]
  exact splitLines_joinLines (newline_not_mem_map_return hsingle)

theorem withReturns_joinLines_inj (h : ∀ line ∈ lines, '\n' ∉ line.toList)
    (h' : ∀ line ∈ others, '\n' ∉ line.toList) :
    withReturns (joinLines lines) = withReturns (joinLines others) ↔
      joinLines lines = joinLines others := by
  refine ⟨fun heq => ?_, fun heq => heq ▸ rfl⟩
  rw [withReturns_joinLines h, withReturns_joinLines h'] at heq
  have hmap : lines.map (· ++ "\r") = others.map (· ++ "\r") := by
    rw [← splitLines_joinLines (newline_not_mem_map_return h), heq,
      splitLines_joinLines (newline_not_mem_map_return h')]
  rw [(List.map_inj_right fun a b hab => by simpa using hab).1 hmap]

theorem allReturned_withReturns (h : joinLines (splitLines text) = text) :
    AllReturned (withReturns text) := by
  have hlines := splitLines_withReturns h
  constructor
  · rw [hlines]
    simp
  · rw [hlines, ← withReturns_joinLines fun _ => newline_not_mem_of_mem_splitLines, h]

end Text

variable {t u target : TargetFile} {markers : MarkerPair} {replacement : List String}
  {policy : EndMarkerPolicy} {outcome : Outcome} {r : Rewrite} {rewrites : List Rewrite} {l : Cut}

theorem isMarker_return {marker line : String} (h : endsWithReturn line = false) :
    isMarker marker (line ++ "\r") = isMarker marker line := by
  rw [Bool.eq_iff_iff, isMarker_append_return, isMarker_iff_of_not_return h]

theorem isMarker_map_return {marker : String} {lines : List String}
    (hplain : ∀ line ∈ lines, endsWithReturn line = false)
    (h : ∀ line ∈ lines, isMarker marker line = false) :
    ∀ line ∈ lines.map (· ++ "\r"), isMarker marker line = false := by
  rw [List.forall_mem_map]
  exact fun line hline => (isMarker_return (hplain line hline)).trans (h line hline)

namespace Cut

/-- The cut with a return at the end of every line. -/
def returned (l : Cut) : Cut where
  before := l.before.map (· ++ "\r")
  startLine := l.startLine ++ "\r"
  body := l.body.map (· ++ "\r")
  rest := l.rest.map (· ++ "\r")

theorem lines_returned (l : Cut) : l.returned.lines = l.lines.map (· ++ "\r") := by
  simp [lines, returned]

theorem Marks.returned (h : l.Marks markers)
    (hplain : ∀ line ∈ l.lines, endsWithReturn line = false) : l.returned.Marks markers := by
  simp only [lines, List.mem_append, List.mem_cons] at hplain
  refine ⟨?_, ?_, ?_, fun stopLine hstop => ?_⟩
  · exact (isMarker_return (hplain _ (.inr (.inl rfl)))).trans h.startLine
  · exact isMarker_map_return (fun line hline => hplain line (.inl hline)) h.before
  · exact isMarker_map_return (fun line hline => hplain line (.inr (.inr (.inl hline)))) h.body
  · obtain ⟨line, hline, rfl⟩ : ∃ line, l.rest.head? = some line ∧ line ++ "\r" = stopLine := by
      simpa [Cut.returned, List.head?_map] using hstop
    have hmem := List.mem_of_head? hline
    exact (isMarker_return (hplain _ (.inr (.inr (.inr hmem))))).trans (h.rest line hline)

/-- A body under a start marker line with a return gets what it gets under the line without,
and a return behind each line of it. -/
theorem spliced_returned (h : endsWithReturn l.startLine = false) (replacement : List String) :
    l.returned.spliced replacement = (l.spliced replacement).map (· ++ "\r") := by
  have hplain : bodyLines l.startLine replacement = replacement := by simp [bodyLines, h]
  have hreturn : bodyLines (l.startLine ++ "\r") replacement = replacement.map (· ++ "\r") := by
    simp [bodyLines]
  simp only [spliced, returned, hplain, hreturn, List.map_append, List.map_cons]

theorem newline_not_mem_spliced (hlines : ∀ line ∈ l.lines, '\n' ∉ line.toList)
    (hsingle : ∀ text ∈ replacement, '\n' ∉ text.toList) :
    ∀ line ∈ l.spliced replacement, '\n' ∉ line.toList := by
  have hbody := (newline_not_mem_bodyLines_iff l.startLine replacement).2 hsingle
  simp only [lines, spliced, List.mem_append, List.mem_cons] at hlines ⊢
  rintro line (h | h | h | h)
  · exact hlines line (.inl h)
  · exact hlines line (.inr (.inl h))
  · exact hbody line h
  · exact hlines line (.inr (.inr (.inr h)))

end Cut

/-! ### Texts whose lines all end with a return -/

namespace Text.AllReturned

/-- What is put below a start marker line with a return has returns. -/
theorem rewriteRegion (h : AllReturned target.content)
    (hsingle : ∀ text ∈ replacement, '\n' ∉ text.toList)
    (hr : target.rewriteRegion markers replacement policy = .ok (t, outcome)) :
    AllReturned t.content := by
  rcases TargetFile.rewriteRegion_eq_ok hr with ⟨-, rfl, -⟩ | ⟨l, hat, -⟩
  · exact h
  · refine ⟨fun line hline => ?_, hat.content_eq⟩
    rcases hat.mem_or_emitted hline with hold | hnew
    · exact h.returned line hold
    · rw [emitted_of_newline_not_mem hsingle, bodyLines,
        if_pos (h.returned _ hat.startLine_mem)] at hnew
      obtain ⟨text, -, rfl⟩ := List.mem_map.1 hnew
      exact endsWithReturn_append_return text

theorem attempt (h : AllReturned target.content)
    (hsingle : ∀ text ∈ r.replacement, '\n' ∉ text.toList) :
    AllReturned (target.attempt r).1.content := by
  cases hr : target.rewriteRegion r.markers r.replacement r.policy with
  | error e =>
    rw [TargetFile.attempt_of_error hr]
    exact h
  | ok rewritten =>
    rw [TargetFile.attempt_of_ok hr]
    exact h.rewriteRegion hsingle hr

theorem attemptAll (h : AllReturned target.content)
    (hsingle : ∀ r ∈ rewrites, ∀ text ∈ r.replacement, '\n' ∉ text.toList) :
    AllReturned (target.attemptAll rewrites).1.content := by
  induction rewrites generalizing target with
  | nil => exact h
  | cons r rest ih =>
    rw [List.forall_mem_cons] at hsingle
    exact ih (h.attempt hsingle.1) hsingle.2

end Text.AllReturned

/-! ### Two texts side by side -/

/-- At a cut, the two texts are refused, left or rewritten alike. -/
theorem rewriteRegion_returned (hpath : u.path = t.path) (hcontent : u.content = withReturns t.content)
    (hjoined : joinLines (splitLines t.content) = t.content)
    (hplain : ∀ line ∈ splitLines t.content, endsWithReturn line = false)
    (hsingle : ∀ text ∈ replacement, '\n' ∉ text.toList)
    (hl : l.lines = splitLines t.content) (hm : l.Marks markers) :
    u.rewriteRegion markers replacement policy =
      (t.rewriteRegion markers replacement policy).map fun (t', outcome) =>
        ({ u with content := withReturns t'.content }, outcome) := by
  have hlines : ∀ line ∈ splitLines t.content, '\n' ∉ line.toList :=
    fun _ => newline_not_mem_of_mem_splitLines
  have hspliced := Cut.newline_not_mem_spliced (hl ▸ hlines) hsingle
  have hstart : endsWithReturn l.startLine = false := hplain _ (by simp [← hl, Cut.lines])
  have hnew : joinLines (l.returned.spliced replacement) =
      withReturns (joinLines (l.spliced replacement)) := by
    rw [Cut.spliced_returned hstart, withReturns_joinLines hspliced]
  have hsame : withReturns (joinLines (l.spliced replacement)) = u.content ↔
      joinLines (l.spliced replacement) = t.content := by
    rw [hcontent, ← hjoined]
    exact withReturns_joinLines_inj hspliced hlines
  have hl' : l.returned.lines = splitLines u.content := by
    rw [l.lines_returned, hl, hcontent, splitLines_withReturns hjoined]
  have hm' : l.returned.Marks markers := hm.returned (hl ▸ hplain)
  have hrest : l.returned.rest = [] ↔ l.rest = [] := List.map_eq_nil_iff
  rw [TargetFile.rewriteRegion_of_marks hl hm, TargetFile.rewriteRegion_of_marks hl' hm']
  simp only [hrest, hnew, hsame]
  by_cases hs : l.rest = [] ∧ policy = .strict
  · rw [if_pos hs, if_pos hs, hpath]
    rfl
  rw [if_neg hs, if_neg hs]
  by_cases hc : joinLines (l.spliced replacement) = t.content
  · rw [if_pos hc, if_pos hc]
    show _ = Except.ok ({ u with content := withReturns t.content }, Outcome.unchanged)
    rw [← hcontent]
  · rw [if_neg hc, if_neg hc]
    rfl

/-- A text without carriage returns, its last line terminated, and the same text with a return
in front of every newline are rewritten alike: one answer, and again the same text but for
the returns. However often the second one is rewritten, all its lines keep their returns. -/
theorem rewriteRegion_withReturns (hpath : u.path = t.path)
    (hcontent : u.content = withReturns t.content) (hplain : '\r' ∉ t.content.toList)
    (hended : t.content = "" ∨ t.content.toList.getLast? = some '\n')
    (hsingle : ∀ text ∈ replacement, '\n' ∉ text.toList) :
    u.rewriteRegion markers replacement policy =
        ((t.rewriteRegion markers replacement policy).map fun (t', outcome) =>
          ({ u with content := withReturns t'.content }, outcome)) ∧
      ∀ rewrites : List Rewrite, (∀ r ∈ rewrites, ∀ text ∈ r.replacement, '\n' ∉ text.toList) →
        AllReturned (u.attemptAll rewrites).1.content := by
  have hjoined : joinLines (splitLines t.content) = t.content := by
    rcases hended with hempty | hnewline
    · rw [hempty]
      rfl
    · exact joinLines_splitLines_of_newline hnewline
  have hbare : ∀ line ∈ splitLines t.content, endsWithReturn line = false :=
    fun _ hline => endsWithReturn_of_not_mem (return_not_mem_of_mem_splitLines hplain hline)
  constructor
  · rcases Cut.exists_marks (splitLines t.content) markers with hnone | ⟨l, hl, hm⟩
    · have hnone' : ∀ line ∈ splitLines u.content, isMarker markers.start line = false := by
        rw [hcontent, splitLines_withReturns hjoined]
        exact isMarker_map_return hbare hnone
      rw [TargetFile.rewriteRegion_of_absent hnone, TargetFile.rewriteRegion_of_absent hnone']
      show _ = Except.ok ({ u with content := withReturns t.content }, Outcome.markerNotFound)
      rw [← hcontent]
    · exact rewriteRegion_returned hpath hcontent hjoined hbare hsingle hl hm
  · intro rewrites hrewrites
    have hreturned : AllReturned u.content := by
      rw [hcontent]
      exact allReturned_withReturns hjoined
    exact hreturned.attemptAll hrewrites

/-- The stray return in the replacement is one of two at the end of its line. -/
theorem rewriteRegion_withReturns_stray :
    let r : Rewrite := ⟨⟨"A", "B"⟩, ["x\r"], .strict⟩
    let u : TargetFile := ⟨⟨"t"⟩, "", "A\r\nB\r\nb\r\n"⟩
    u.rewriteRegion r.markers r.replacement r.policy =
        .ok (⟨⟨"t"⟩, "", "A\r\nx\r\r\nB\r\nb\r\n"⟩, .replaced) ∧
      AllReturned (u.attemptAll [r, r]).1.content := by
  intro r u
  let t : TargetFile := ⟨⟨"t"⟩, "", "A\nB\nb\n"⟩
  have hplain : t.rewriteRegion r.markers r.replacement r.policy =
      .ok (⟨⟨"t"⟩, "", "A\nx\r\nB\nb\n"⟩, .replaced) := by decide +kernel
  have hboth : u.rewriteRegion r.markers r.replacement r.policy =
      ((t.rewriteRegion r.markers r.replacement r.policy).map fun (t', outcome) =>
        ({ u with content := withReturns t'.content }, outcome)) ∧ _ :=
    rewriteRegion_withReturns rfl (by decide) (by decide) (.inr (by decide)) (by decide)
  refine ⟨?_, hboth.2 [r, r] (by simp [r])⟩
  rw [hboth.1, hplain]
  decide +kernel

end BindingRegions

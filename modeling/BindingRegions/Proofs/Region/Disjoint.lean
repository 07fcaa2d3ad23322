import BindingRegions.Proofs.Region.Cut
import BindingRegions.Proofs.Run.Target
import BindingRegions.Proofs.Text.LineAt

/-! Rewrites that keep apart. If their regions, marker lines included, share no line and none
of them emits a start marker line of another, each finds its region wherever the others
have pushed it, with the lines that it always had (`Independent.marks_moved`). So they can be
made in any order: what comes of them is the text with all the bodies exchanged at once
(`attemptAll_eq_patched`). -/

namespace BindingRegions

open Text

namespace Region

/-- The line at the index is a marker line of the region or lies between them. -/
def Spans (g : Region) (index : Nat) : Prop :=
  g.start ≤ index ∧ ∃ stop ∈ g.stop, index ≤ stop

/-- Whether the line at the index lies between the marker lines. -/
def encloses (g : Region) (index : Nat) : Bool :=
  g.start < index && g.stop.any (index < ·)

end Region

namespace Rewrite

/-- The region of the rewrite spans the line at the index. -/
def Spans (r : Rewrite) (lines : List String) (index : Nat) : Prop :=
  ∃ g ∈ findRegion lines r.markers, g.Spans index

def encloses (r : Rewrite) (lines : List String) (index : Nat) : Bool :=
  (findRegion lines r.markers).any (·.encloses index)

/-- Whether the line at the index is the start marker line. -/
def opens (r : Rewrite) (lines : List String) (index : Nat) : Bool :=
  (findRegion lines r.markers).any (·.start == index)

def body (r : Rewrite) (lines : List String) : List String :=
  ((findRegion lines r.markers).map (·.inside lines)).getD []

def output (r : Rewrite) (lines : List String) : List String :=
  ((lines.find? (isMarker r.markers.start)).map (emitted · r.replacement)).getD []

/-- What the rewrite reports of a text with these lines, if its last line is terminated. -/
def outcome (r : Rewrite) (lines : List String) : Outcome :=
  if r.body lines = r.output lines then .unchanged else .replaced

/-- The regions of two rewrites share no line, and neither emits a start marker line of the
other. -/
structure Apart (lines : List String) (a b : Rewrite) : Prop where
  spans : ∀ index, ¬ (a.Spans lines index ∧ b.Spans lines index)
  left : ∀ line ∈ a.output lines, isMarker b.markers.start line = false
  right : ∀ line ∈ b.output lines, isMarker a.markers.start line = false

theorem Apart.symm {lines : List String} {a b : Rewrite} (h : a.Apart lines b) : b.Apart lines a :=
  ⟨fun index hi => h.spans index hi.symm, h.right, h.left⟩

end Rewrite

/-- Rewrites that all find a region with an end marker line, any two of them apart. -/
structure Independent (lines : List String) (rewrites : List Rewrite) : Prop where
  found : ∀ r ∈ rewrites, ∃ start stop, findRegion lines r.markers = some ⟨start, some stop⟩
  apart : rewrites.Pairwise (Rewrite.Apart lines)

/-- What stands for a line once the rewrites are made: nothing for a line of a body, and behind
a start marker line what is emitted there. -/
def piece (lines : List String) (rewrites : List Rewrite) (entry : String × Nat) : List String :=
  if rewrites.any (·.encloses lines entry.2) then []
  else entry.1 :: (rewrites.filter (·.opens lines entry.2)).flatMap (·.output lines)

/-- The lines with the bodies of all rewrites exchanged. -/
def patched (lines : List String) (rewrites : List Rewrite) : List String :=
  lines.zipIdx.flatMap (piece lines rewrites)

variable {lines : List String} {r : Rewrite} {rewrites order done : List Rewrite} {l : Cut}
  {entry : String × Nat} {index : Nat}

namespace Cut

/-- The region of a cut with an end marker line. -/
theorem Marks.findRegion_of_rest (h : l.Marks r.markers) (hrest : l.rest ≠ []) :
    findRegion l.lines r.markers =
      some ⟨l.before.length, some (l.before.length + 1 + l.body.length)⟩ := by
  rw [findRegion_lines h, region, if_neg hrest]

theorem Marks.spans_iff (h : l.Marks r.markers) (hrest : l.rest ≠ []) :
    r.Spans l.lines index ↔
      l.before.length ≤ index ∧ index ≤ l.before.length + 1 + l.body.length := by
  simp [Rewrite.Spans, Region.Spans, h.findRegion_of_rest hrest]

theorem Marks.encloses_iff (h : l.Marks r.markers) (hrest : l.rest ≠ []) :
    r.encloses l.lines index = true ↔
      l.before.length < index ∧ index < l.before.length + 1 + l.body.length := by
  simp [Rewrite.encloses, Region.encloses, h.findRegion_of_rest hrest]

theorem Marks.opens_iff (h : l.Marks r.markers) (hrest : l.rest ≠ []) :
    r.opens l.lines index = true ↔ l.before.length = index := by
  simp [Rewrite.opens, h.findRegion_of_rest hrest]

theorem Marks.body_eq (h : l.Marks r.markers) : r.body l.lines = l.body := by
  rw [Rewrite.body, findRegion_lines h, Option.map_some, l.inside_lines]
  rfl

theorem Marks.output_eq (h : l.Marks r.markers) :
    r.output l.lines = emitted l.startLine r.replacement := by
  rw [Rewrite.output, h.find?_lines]
  rfl

theorem zipIdx_lines (l : Cut) : l.lines.zipIdx =
    l.before.zipIdx ++ (l.startLine, l.before.length) ::
      (l.body.zipIdx (l.before.length + 1) ++
        l.rest.zipIdx (l.before.length + 1 + l.body.length)) := by
  simp [lines, List.zipIdx_append, List.zipIdx_cons]

/-- The cut once rewrites of other regions are made. -/
def moved (l : Cut) (done : List Rewrite) : Cut where
  before := l.before.zipIdx.flatMap (piece l.lines done)
  startLine := l.startLine
  body := l.body
  rest := (l.rest.zipIdx (l.before.length + 1 + l.body.length)).flatMap (piece l.lines done)

end Cut

/-! ### Pieces -/

theorem Independent.exists_marks (h : Independent lines rewrites) (hr : r ∈ rewrites) :
    ∃ l : Cut, l.lines = lines ∧ l.Marks r.markers ∧ l.rest ≠ [] := by
  obtain ⟨start, stop, hfound⟩ := h.found r hr
  obtain ⟨l, hl, hm, hregion⟩ := Cut.exists_of_findRegion hfound
  refine ⟨l, hl, hm, mt l.stop_region_eq_none_iff.2 ?_⟩
  simp [← hregion]

theorem Independent.sublist (h : Independent lines rewrites) (hs : done.Sublist rewrites) :
    Independent lines done :=
  ⟨fun r hr => h.found r (hs.subset hr), h.apart.sublist hs⟩

theorem Independent.perm (h : Independent lines rewrites) (hp : order.Perm rewrites) :
    Independent lines order :=
  ⟨fun r hr => h.found r (hp.mem_iff.1 hr), (hp.pairwise_iff Rewrite.Apart.symm).2 h.apart⟩

theorem Independent.spans_of_encloses (h : Independent lines rewrites) (hr : r ∈ rewrites)
    (he : r.encloses lines index = true) : r.Spans lines index := by
  obtain ⟨l, rfl, hm, hrest⟩ := h.exists_marks hr
  rw [hm.encloses_iff hrest] at he
  rw [hm.spans_iff hrest]
  omega

theorem Independent.spans_of_opens (h : Independent lines rewrites) (hr : r ∈ rewrites)
    (ho : r.opens lines index = true) : r.Spans lines index := by
  obtain ⟨l, rfl, hm, hrest⟩ := h.exists_marks hr
  rw [hm.opens_iff hrest] at ho
  rw [hm.spans_iff hrest]
  omega

/-- Only on the lines of its region does a rewrite make a difference. -/
theorem Cut.Marks.piece_cons (hm : l.Marks r.markers) (hrest : l.rest ≠ [])
    (hout : entry.2 < l.before.length ∨ l.before.length + 1 + l.body.length ≤ entry.2) :
    piece l.lines (r :: done) entry = piece l.lines done entry := by
  have he : r.encloses l.lines entry.2 = false := by
    rw [← Bool.not_eq_true, hm.encloses_iff hrest]
    omega
  have ho : r.opens l.lines entry.2 = false := by
    rw [← Bool.not_eq_true, hm.opens_iff hrest]
    omega
  rw [piece, piece, List.any_cons, he, Bool.false_or, List.filter_cons_of_neg (by simp [ho])]

theorem piece_cons_of_encloses (h : r.encloses lines entry.2 = true) :
    piece lines (r :: done) entry = [] := by
  rw [piece, List.any_cons, h, Bool.true_or, if_pos rfl]

/-- What is emitted stands behind a start marker line that the others leave as it is. -/
theorem piece_cons_of_opens (he : r.encloses lines entry.2 = false)
    (ho : r.opens lines entry.2 = true) (hd : piece lines done entry = [entry.1]) :
    piece lines (r :: done) entry = entry.1 :: r.output lines := by
  rw [piece] at hd
  split at hd
  · cases hd
  · rename_i hany
    rw [List.cons.injEq] at hd
    rw [piece, List.any_cons, he, Bool.false_or, if_neg hany, List.filter_cons, if_pos ho,
      List.flatMap_cons, hd.2, List.append_nil]

/-- A line that no rewrite has to do with stays. -/
theorem Independent.piece_of_not_spans (h : Independent lines done)
    (hout : ∀ d ∈ done, ¬ d.Spans lines entry.2) : piece lines done entry = [entry.1] := by
  have hany : done.any (·.encloses lines entry.2) = false := by
    rw [List.any_eq_false]
    exact fun d hd he => hout d hd (h.spans_of_encloses hd he)
  have hfilter : done.filter (·.opens lines entry.2) = [] := by
    rw [List.filter_eq_nil_iff]
    exact fun d hd ho => hout d hd (h.spans_of_opens hd ho)
  rw [piece, hany, hfilter]
  rfl

theorem mem_piece {line : String} (h : line ∈ piece lines done entry) :
    line = entry.1 ∨ ∃ d ∈ done, line ∈ d.output lines := by
  rw [piece] at h
  split at h
  · cases h
  · rcases List.mem_cons.1 h with rfl | h
    · exact .inl rfl
    · obtain ⟨d, hd, hline⟩ := List.mem_flatMap.1 h
      exact .inr ⟨d, List.mem_of_mem_filter hd, hline⟩

/-- Where every line stands for itself, nothing changes. -/
theorem flatMap_zipIdx_eq_self {f : String × Nat → List String} {xs : List String} {first : Nat}
    (h : ∀ entry ∈ xs.zipIdx first, f entry = [entry.1]) : (xs.zipIdx first).flatMap f = xs := by
  rw [List.flatMap_congr h, ← List.map_eq_flatMap, List.zipIdx_map_fst]

theorem patched_nil (lines : List String) : patched lines [] = lines :=
  flatMap_zipIdx_eq_self fun _ _ => rfl

theorem Independent.filter_opens (h : Independent lines rewrites) (index : Nat) :
    (rewrites.filter (·.opens lines index)).Pairwise fun _ _ => False := by
  refine (h.apart.filter _).imp_of_mem fun {a b} ha hb hab => ?_
  rw [List.mem_filter] at ha hb
  exact hab.spans index ⟨h.spans_of_opens ha.1 ha.2, h.spans_of_opens hb.1 hb.2⟩

/-- So their order does not matter. -/
theorem Independent.patched_perm (h : Independent lines rewrites) (hp : order.Perm rewrites) :
    patched lines order = patched lines rewrites := by
  refine List.flatMap_congr fun entry _ => ?_
  have hfilter : order.filter (·.opens lines entry.2) = rewrites.filter (·.opens lines entry.2) :=
    (hp.filter _).eq_of_pairwise (fun _ _ _ _ hfalse => hfalse.elim)
      ((h.perm hp).filter_opens entry.2) (h.filter_opens entry.2)
  rw [piece, piece, hp.any_eq, hfilter]

/-! ### One rewrite after others -/

section Moved

variable (h : Independent l.lines (r :: done)) (hm : l.Marks r.markers) (hrest : l.rest ≠ [])

include h hm hrest

/-- The others leave the marker lines of a region and the lines between them as they are. -/
theorem Independent.piece_of_spanned (hlow : l.before.length ≤ entry.2)
    (hhigh : entry.2 ≤ l.before.length + 1 + l.body.length) :
    piece l.lines done entry = [entry.1] := by
  refine (h.sublist (List.sublist_cons_self r done)).piece_of_not_spans fun d hd hspans => ?_
  have hapart := (List.pairwise_cons.1 h.apart).1 d hd
  exact hapart.spans entry.2 ⟨(hm.spans_iff hrest).2 ⟨hlow, hhigh⟩, hspans⟩

theorem Independent.lines_moved : (l.moved done).lines = patched l.lines done := by
  have hbody : (l.body.zipIdx (l.before.length + 1)).flatMap (piece l.lines done) = l.body := by
    refine flatMap_zipIdx_eq_self fun entry hentry => ?_
    have hlow := List.le_snd_of_mem_zipIdx hentry
    have hhigh := List.snd_lt_add_of_mem_zipIdx hentry
    exact h.piece_of_spanned hm hrest (by omega) (by omega)
  have hstart : piece l.lines done (l.startLine, l.before.length) = [l.startLine] :=
    h.piece_of_spanned hm hrest (Nat.le_refl _) (by omega)
  rw [patched, l.zipIdx_lines]
  simp only [List.flatMap_append, List.flatMap_cons, hbody, hstart]
  rfl

theorem Independent.lines_rewritten_moved :
    ((l.moved done).rewritten r.replacement).lines = patched l.lines (r :: done) := by
  have hbefore : l.before.zipIdx.flatMap (piece l.lines (r :: done)) = (l.moved done).before := by
    refine List.flatMap_congr fun entry hentry => ?_
    have hhigh := List.snd_lt_add_of_mem_zipIdx hentry
    exact hm.piece_cons hrest (by omega)
  have hbody : (l.body.zipIdx (l.before.length + 1)).flatMap (piece l.lines (r :: done)) = [] := by
    refine List.flatMap_eq_nil_iff.2 fun entry hentry => piece_cons_of_encloses ?_
    have hlow := List.le_snd_of_mem_zipIdx hentry
    have hhigh := List.snd_lt_add_of_mem_zipIdx hentry
    rw [hm.encloses_iff hrest]
    omega
  have hrest' : (l.rest.zipIdx (l.before.length + 1 + l.body.length)).flatMap
      (piece l.lines (r :: done)) = (l.moved done).rest := by
    refine List.flatMap_congr fun entry hentry => ?_
    have hlow := List.le_snd_of_mem_zipIdx hentry
    exact hm.piece_cons hrest (by omega)
  have hstart : piece l.lines (r :: done) (l.startLine, l.before.length) =
      l.startLine :: emitted l.startLine r.replacement := by
    rw [← hm.output_eq]
    refine piece_cons_of_opens ?_ ((hm.opens_iff hrest).2 rfl)
      (h.piece_of_spanned hm hrest (Nat.le_refl _) (by omega))
    rw [← Bool.not_eq_true, hm.encloses_iff hrest]
    omega
  rw [patched, l.zipIdx_lines]
  simp only [List.flatMap_append, List.flatMap_cons, hbefore, hbody, hrest', hstart]
  rfl

/-- The region is found again where it has gone. -/
theorem Independent.marks_moved : (l.moved done).Marks r.markers ∧ (l.moved done).rest ≠ [] := by
  obtain ⟨stopLine, tail, htail⟩ := List.exists_cons_of_ne_nil hrest
  have hstop : piece l.lines done (stopLine, l.before.length + 1 + l.body.length) = [stopLine] :=
    h.piece_of_spanned hm hrest (by omega) (Nat.le_refl _)
  have hrest' : (l.moved done).rest = stopLine ::
      (tail.zipIdx (l.before.length + 1 + l.body.length + 1)).flatMap (piece l.lines done) := by
    rw [Cut.moved, htail, List.zipIdx_cons, List.flatMap_cons, hstop]
    rfl
  refine ⟨⟨hm.startLine, fun line hline => ?_, hm.body, ?_⟩, by simp [hrest']⟩
  · obtain ⟨entry, hentry, hpiece⟩ := List.mem_flatMap.1 hline
    rcases mem_piece hpiece with rfl | ⟨d, hd, hout⟩
    · exact hm.before _ (List.fst_mem_of_mem_zipIdx hentry)
    · exact ((List.pairwise_cons.1 h.apart).1 d hd).right line hout
  · simpa [hrest'] using hm.rest stopLine (by simp [htail])

end Moved

/-- One rewrite after others exchanges its own body, and reports whether that is a change. -/
theorem Independent.exists_attempt {target : TargetFile} (h : Independent lines (r :: done))
    (ht : splitLines target.content = patched lines done) :
    ∃ outcome, target.attempt r =
        ({ target with content := joinLines (patched lines (r :: done)) }, .ok outcome) ∧
      splitLines (joinLines (patched lines (r :: done))) = patched lines (r :: done) ∧
      (outcome = .replaced ∨ outcome = .unchanged) ∧
      (joinLines (splitLines target.content) = target.content → outcome = r.outcome lines) := by
  obtain ⟨l, rfl, hm, hrest⟩ := h.exists_marks List.mem_cons_self
  obtain ⟨hmoved, hrest'⟩ := h.marks_moved hm hrest
  have hlines := (h.lines_moved hm hrest).trans ht.symm
  obtain ⟨target', outcome, hat, hr⟩ := TargetFile.exists_rewritesAt hlines hmoved
    (fun hs => hrest' hs.1) r.replacement
  have hsplit := Cut.splitLines_rewritten hlines r.replacement
  rw [h.lines_rewritten_moved hm hrest] at hsplit
  refine ⟨outcome, ?_, hsplit, ?_, fun hjoined => ?_⟩
  · rw [TargetFile.attempt_of_ok hr, hat.target_eq, h.lines_rewritten_moved hm hrest]
  · rw [hat.outcome_eq]
    split_ifs
    · exact .inr rfl
    · exact .inl rfl
  · have hsame : target'.content = target.content ↔ r.body l.lines = r.output l.lines := by
      rw [hat.content_eq_iff hjoined, hm.body_eq, hm.output_eq, eq_comm]
      rfl
    rw [hat.outcome_eq, Rewrite.outcome]
    simp only [hsame]

/-- Rewrites that are made after others exchange their own bodies, too. -/
theorem Independent.attemptAll_eq {target : TargetFile} (h : Independent lines (order ++ done))
    (ht : splitLines target.content = patched lines done) :
    (target.attemptAll order).1 = { target with
        content := if order = [] then target.content
          else joinLines (patched lines (order ++ done)) } ∧
      (∀ answer ∈ (target.attemptAll order).2, answer = .ok .replaced ∨ answer = .ok .unchanged) ∧
      (joinLines (splitLines target.content) = target.content →
        (target.attemptAll order).2 = order.map fun r => .ok (r.outcome lines)) := by
  induction order generalizing target done with
  | nil => exact ⟨rfl, by simp [TargetFile.attemptAll], fun _ => rfl⟩
  | cons r rest ih =>
    have hmiddle : (rest ++ r :: done).Perm (r :: (rest ++ done)) := List.perm_middle
    obtain ⟨outcome, hattempt, hsplit, hout, hjoined⟩ := (h.sublist
      ((List.sublist_append_right rest done).cons_cons r)).exists_attempt ht
    have hcurrent : splitLines (target.attempt r).1.content = patched lines (r :: done) := by
      rw [hattempt]
      exact hsplit
    have hnext := ih (h.perm hmiddle) hcurrent
    rw [hattempt, h.patched_perm hmiddle] at hnext
    obtain ⟨hlast, hanswers, hrest⟩ := hnext
    simp only [TargetFile.attemptAll, hattempt, List.map_cons, List.forall_mem_cons]
    refine ⟨?_, ⟨by simpa using hout, hanswers⟩, fun hterminated => ?_⟩
    · rw [hlast, if_neg (List.cons_ne_nil r rest)]
      by_cases hempty : rest = []
      · rw [if_pos hempty, hempty]
        rfl
      · rw [if_neg hempty]
    · rw [hjoined hterminated, hrest (by rw [hsplit])]

/-- Independent rewrites come to the same text in any order: the one with their bodies
exchanged, and a newline at its end, unless nothing is asked for. If the newline was there
already, each rewrite reports that its region is up to date just when its body is what it
emits. -/
theorem attemptAll_eq_patched {target : TargetFile}
    (h : Independent (splitLines target.content) rewrites) (horder : order.Perm rewrites) :
    let lines := splitLines target.content
    (target.attemptAll order).1 = { target with
        content := if rewrites = [] then target.content else joinLines (patched lines rewrites) } ∧
      (∀ answer ∈ (target.attemptAll order).2, answer = .ok .replaced ∨ answer = .ok .unchanged) ∧
      (target.content.toList.getLast? = some '\n' →
        (target.attemptAll order).2 = order.map fun r => .ok (r.outcome lines)) := by
  have hall : Independent (splitLines target.content) (order ++ []) := by
    rw [List.append_nil]
    exact h.perm horder
  obtain ⟨hlast, hanswers, hjoined⟩ := hall.attemptAll_eq (patched_nil _).symm
  have hempty : order = [] ↔ rewrites = [] := by
    rw [← List.length_eq_zero_iff, horder.length_eq, List.length_eq_zero_iff]
  refine ⟨?_, hanswers, fun hnewline => hjoined (joinLines_splitLines_of_newline hnewline)⟩
  rw [hlast, List.append_nil, h.patched_perm horder]
  simp only [hempty]

/-- Two regions. What is written into the first one has a line break in it, and the end marker
of the second. -/
def sideBySide : TargetFile := ⟨⟨"t"⟩, "", "A\na\nB\nC\nc\nD\n"⟩

def firstRegion : Rewrite := ⟨⟨"A", "B"⟩, ["x\nD"], .strict⟩

def secondRegion : Rewrite := ⟨⟨"C", "D"⟩, ["c"], .throughEndOfFile⟩

theorem attemptAll_eq_patched_swapped :
    sideBySide.attemptAll [secondRegion, firstRegion] =
      ({ sideBySide with content := "A\nx\nD\nB\nC\nc\nD\n" },
        [.ok .unchanged, .ok .replaced]) := by
  have hindependent : Independent (splitLines sideBySide.content) [firstRegion, secondRegion] := by
    have hfirst : findRegion (splitLines sideBySide.content) firstRegion.markers =
        some ⟨0, some 2⟩ := by decide +kernel
    have hsecond : findRegion (splitLines sideBySide.content) secondRegion.markers =
        some ⟨3, some 5⟩ := by decide +kernel
    refine ⟨by simp [hfirst, hsecond], List.pairwise_pair.2 ⟨fun index => ?_, ?_, ?_⟩⟩
    · have hspans : firstRegion.Spans (splitLines sideBySide.content) index ↔ index ≤ 2 := by
        simp [Rewrite.Spans, Region.Spans, hfirst]
      have hspans' : secondRegion.Spans (splitLines sideBySide.content) index ↔
          3 ≤ index ∧ index ≤ 5 := by
        simp [Rewrite.Spans, Region.Spans, hsecond]
      rw [hspans, hspans']
      omega
    · decide +kernel
    · decide +kernel
  obtain ⟨hlast, -, hanswers⟩ :=
    attemptAll_eq_patched hindependent (List.Perm.swap firstRegion secondRegion [])
  refine Prod.ext ?_ ?_
  · rw [hlast]
    decide +kernel
  · rw [hanswers (by decide +kernel)]
    decide +kernel

end BindingRegions

import BindingRegions.Proofs.Region.Rewrite
import BindingRegions.Proofs.Region.Settled
import BindingRegions.Proofs.Run.Target
import Mathlib.Logic.Function.Iterate

/-! A rewrite made again and again. It finds the start marker line where it found it before, and
below it the lines that it has emitted. Without an end marker among them these are its
region, and it leaves them; otherwise its region ends in their midst, and what is behind
that end marker is pushed down by the lines emitted anew, each time
(`rewriteRegion_again`). -/

namespace BindingRegions

open Text

/-- The rewrite has been made at the cut: its emitted lines stand below the first start marker
line, whether or not they hold an end marker. -/
structure Rewrite.DoneAt (r : Rewrite) (content : String) (l : Cut) : Prop where
  lines_eq : l.lines = splitLines content
  joined : joinLines l.lines = content
  startLine : isMarker r.markers.start l.startLine = true
  before : ∀ line ∈ l.before, isMarker r.markers.start line = false
  body_eq : l.body = emitted l.startLine r.replacement
  rest : ∀ line ∈ l.rest.head?, isMarker r.markers.stop line = true
  allowed : r.policy = .strict → l.rest ≠ []

variable {target first : TargetFile} {r : Rewrite} {l : Cut} {outcome : Outcome}

/-- The start marker line of a cut is the text's first. -/
theorem toList_startLine_of_firstLine {markers : MarkerPair} {content : String}
    {before startLine after : List Char} (hl : l.lines = splitLines content)
    (hm : l.Marks markers)
    (h : FirstLine (Matches markers.start) content.toList before startLine after) :
    l.startLine.toList = startLine := by
  have hfind : (splitLines content).find? (isMarker markers.start) =
      some (String.ofList startLine) := by
    rw [List.find?_eq_some_iff_append]
    refine ⟨(isMarker_ofList _ _).2 h.holds, (splitChars before).map String.ofList,
      (splitChars after.tail).map String.ofList, ?_, ?_⟩
    · rw [splitLines, h.lineAt.splitChars_eq, List.map_append, List.map_cons]
    · simpa using isMarker_eq_false_of_noLine h.none_before
  rw [← hl, hm.find?_lines] at hfind
  rw [Option.some.inj hfind, String.toList_ofList]

theorem noLine_bodyText_iff (marker startLine : String) (replacement : List String) :
    NoLine (Matches marker) (bodyText startLine.toList replacement) ↔
      ∀ line ∈ emitted startLine replacement, isMarker marker line = false := by
  rw [noLine_iff, emitted, ← toList_joinLines_bodyLines, splitLines, List.forall_mem_map]
  refine forall₂_congr fun line _ => ?_
  rw [← isMarker_ofList, Bool.not_eq_true]

/-- Lines put in between make a text longer. -/
theorem utf8ByteSize_joinLines_lt (xs : List String) {mid : List String} (h : mid ≠ [])
    (ys : List String) :
    (joinLines (xs ++ ys)).utf8ByteSize < (joinLines (xs ++ (mid ++ ys))).utf8ByteSize := by
  have hmore : joinLines mid ≠ "" := by
    obtain ⟨line, rest, rfl⟩ := List.exists_cons_of_ne_nil h
    intro hempty
    have hchars := joinLines_cons line rest
    rw [hempty] at hchars
    simp at hchars
  have hpos := mt String.utf8ByteSize_eq_zero_iff.1 hmore
  simp only [joinLines_append, String.utf8ByteSize_append]
  omega

namespace Rewrite

theorem doneAt_of_rewritesAt (hl : target.RewritesAt r.markers r.replacement l first outcome)
    (hallowed : r.policy = .strict → l.rest ≠ []) :
    r.DoneAt first.content (l.rewritten r.replacement) where
  lines_eq := hl.splitLines_eq.symm
  joined := by rw [← hl.splitLines_eq, hl.content_eq]
  startLine := hl.marks.startLine
  before := hl.marks.before
  body_eq := by rw [Cut.rewritten]
  rest := hl.marks.rest
  allowed := hallowed

/-- Without an end marker among them, the emitted lines are the region. -/
theorem DoneAt.rewriteRegion_of_clear (h : r.DoneAt target.content l)
    (hclear : ∀ line ∈ l.body, isMarker r.markers.stop line = false) :
    target.rewriteRegion r.markers r.replacement r.policy = .ok (target, .unchanged) := by
  have hm : l.Marks r.markers := ⟨h.startLine, h.before, hclear, h.rest⟩
  exact TargetFile.rewriteRegion_self h.lines_eq hm h.allowed h.body_eq h.joined

/-- With an end marker among them, the lines from it on stay behind the lines emitted anew. -/
theorem DoneAt.rewriteRegion_of_stop (h : r.DoneAt target.content l)
    (hstop : ¬ ∀ line ∈ l.body, isMarker r.markers.stop line = false) :
    ∃ next l', target.rewriteRegion r.markers r.replacement r.policy = .ok (next, .replaced) ∧
      target.content.utf8ByteSize < next.content.utf8ByteSize ∧
      r.DoneAt next.content l' ∧ l'.body = l.body := by
  obtain ⟨stopLine, hfind⟩ : ∃ stopLine, l.body.find? (isMarker r.markers.stop) = some stopLine := by
    rw [← Option.isSome_iff_exists, List.find?_isSome]
    simpa using hstop
  obtain ⟨hstopLine, front, back, hbody, hfront⟩ := List.find?_eq_some_iff_append.1 hfind
  have hfront : ∀ line ∈ front, isMarker r.markers.stop line = false := by simpa using hfront
  -- the region that is found now
  let found : Cut := ⟨l.before, l.startLine, front, stopLine :: (back ++ l.rest)⟩
  have hlines : found.lines = splitLines target.content := by
    rw [← h.lines_eq]
    simp [found, Cut.lines, hbody]
  have hm : found.Marks r.markers := ⟨h.startLine, h.before, hfront, by simpa [found] using hstopLine⟩
  obtain ⟨next, outcome, hat, hr⟩ := TargetFile.exists_rewritesAt hlines hm
    (fun hs => by simp [found] at hs) r.replacement
  have hdone := doneAt_of_rewritesAt hat fun _ => by simp [found]
  have hold : target.content = joinLines ((l.before ++ l.startLine :: l.body) ++ l.rest) := by
    rw [← h.joined]
    simp [Cut.lines]
  have hnew : next.content =
      joinLines ((l.before ++ l.startLine :: l.body) ++ (stopLine :: back ++ l.rest)) := by
    rw [← hdone.joined, h.body_eq]
    simp [Cut.lines, Cut.rewritten, found]
  have hlonger : target.content.utf8ByteSize < next.content.utf8ByteSize := by
    rw [hold, hnew]
    exact utf8ByteSize_joinLines_lt _ (List.cons_ne_nil stopLine back) _
  have hreplaced : outcome = .replaced := by
    rw [hat.outcome_eq, if_neg]
    intro hsame
    rw [hsame] at hlonger
    exact Nat.lt_irrefl _ hlonger
  exact ⟨next, _, hreplaced ▸ hr, hlonger, hdone, by rw [hdone.body_eq, h.body_eq]; rfl⟩

/-- However often it is made, the rewrite has been made at some cut. -/
theorem DoneAt.iterate (h : r.DoneAt first.content l)
    (hstop : ¬ ∀ line ∈ l.body, isMarker r.markers.stop line = false) (n : Nat) :
    ∃ l', r.DoneAt ((fun t : TargetFile => (t.attempt r).1)^[n] first).content l' ∧ l'.body = l.body := by
  induction n with
  | zero => exact ⟨l, h, rfl⟩
  | succ n ih =>
    obtain ⟨l', hl', hbody⟩ := ih
    obtain ⟨next, l'', hr, -, hdone, hbody'⟩ := hl'.rewriteRegion_of_stop (hbody ▸ hstop)
    rw [Function.iterate_succ_apply', TargetFile.attempt_of_ok hr]
    exact ⟨l'', hdone, hbody'.trans hbody⟩

end Rewrite

/-- A rewrite that has been made finds nothing to do just when it has emitted no end marker
line. If it has, it replaces its region every time it is made again, and every time the
text grows. -/
theorem rewriteRegion_again {before startLine after : List Char}
    (hstart : FirstLine (Matches r.markers.start) target.content.toList before startLine after)
    (h : target.rewriteRegion r.markers r.replacement r.policy = .ok (first, outcome)) :
    (first.rewriteRegion r.markers r.replacement r.policy = .ok (first, .unchanged) ↔
      NoLine (Matches r.markers.stop) (bodyText startLine r.replacement)) ∧
    (¬ NoLine (Matches r.markers.stop) (bodyText startLine r.replacement) → ∀ n : Nat,
      let later := (fun t : TargetFile => (t.attempt r).1)^[n] first
      ∃ next, later.rewriteRegion r.markers r.replacement r.policy = .ok (next, .replaced) ∧
        later.content.utf8ByteSize < next.content.utf8ByteSize) := by
  rcases TargetFile.rewriteRegion_eq_ok h with ⟨hnone, -, -⟩ | ⟨l, hat, hallowed⟩
  · have hmem : String.ofList startLine ∈ splitLines target.content := by
      rw [splitLines, hstart.lineAt.splitChars_eq]
      simp
    have hfalse := hnone _ hmem
    rw [(isMarker_ofList _ _).2 hstart.holds] at hfalse
    cases hfalse
  · have hline := toList_startLine_of_firstLine hat.lines_eq hat.marks hstart
    have hdone := Rewrite.doneAt_of_rewritesAt hat hallowed
    have hclear : NoLine (Matches r.markers.stop) (bodyText startLine r.replacement) ↔
        ∀ line ∈ (l.rewritten r.replacement).body, isMarker r.markers.stop line = false := by
      rw [hdone.body_eq, ← noLine_bodyText_iff, ← hline]
      rfl
    rw [hclear]
    refine ⟨⟨fun hsame => ?_, hdone.rewriteRegion_of_clear⟩, fun hstop n => ?_⟩
    · by_contra hstop
      obtain ⟨next, -, hr, -⟩ := hdone.rewriteRegion_of_stop hstop
      rw [hsame, Except.ok.injEq, Prod.mk.injEq] at hr
      cases hr.2
    · obtain ⟨l', hl', hbody⟩ := hdone.iterate hstop n
      obtain ⟨next, -, hr, hlonger, -⟩ := hl'.rewriteRegion_of_stop (hbody ▸ hstop)
      exact ⟨next, hr, hlonger⟩

/-- A line with a return of its own. It comes out as an end marker line, unless the region
gives it another return. -/
def returned : Rewrite := ⟨⟨"A", "B"⟩, ["B\r"], .throughEndOfFile⟩

def unsaved (content : String) : TargetFile := ⟨⟨"t"⟩, "", content⟩

theorem firstLine_append {marker : String} {startLine : List Char} (h : Matches marker startLine)
    (hline : '\n' ∉ startLine) (hne : startLine ≠ []) (rest : List Char) :
    FirstLine (Matches marker) (startLine ++ '\n' :: rest) [] startLine ('\n' :: rest) :=
  ⟨⟨rfl, hline, .inl rfl, .inr rfl, .inl hne⟩, h, noLine_iff.2 (by simp)⟩

theorem rewriteRegion_again_returned :
    (unsaved "A\r\nB\r\r\n").rewriteRegion returned.markers returned.replacement returned.policy =
        .ok (unsaved "A\r\nB\r\r\n", .unchanged) ∧
      ∀ n : Nat, let later := (fun t : TargetFile => (t.attempt returned).1)^[n] (unsaved "A\nB\r\n")
        ∃ next, later.rewriteRegion returned.markers returned.replacement returned.policy =
            .ok (next, .replaced) ∧
          later.content.utf8ByteSize < next.content.utf8ByteSize := by
  have hreturn : (unsaved "A\r\nold").rewriteRegion returned.markers returned.replacement
      returned.policy = .ok (unsaved "A\r\nB\r\r\n", .replaced) := by decide +kernel
  have hplain : (unsaved "A\nold").rewriteRegion returned.markers returned.replacement
      returned.policy = .ok (unsaved "A\nB\r\n", .replaced) := by decide +kernel
  constructor
  · refine (rewriteRegion_again (firstLine_append (.inl rfl) (by decide) (by decide) ['o', 'l', 'd'])
      hreturn).1.2 ?_
    rw [noLine_iff]
    simp [bodyText, returned, splitChars, Matches]
  · refine (rewriteRegion_again (firstLine_append (.inr ⟨rfl, by decide⟩) (by decide) (by decide)
      ['o', 'l', 'd']) hplain).2 ?_
    rw [noLine_iff]
    simp [bodyText, returned, splitChars, Matches]

end BindingRegions

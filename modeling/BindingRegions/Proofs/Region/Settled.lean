import BindingRegions.Generate
import BindingRegions.Proofs.Region.Cut

/-! Regions that a rewrite would leave alone. A step's region is settled in a text when
its start marker line is gone or its body is already what the step emits. A rewrite
settles its own region (`settled_of_rewriteRegion`), and a rewrite of another region
keeps it settled (`Settled.rewriteRegion`): the other start marker line cannot lie
inside the settled body, so either the whole settled region is on one side of what is
replaced, or its start marker line is swallowed for good. -/

namespace BindingRegions

open Text

variable {α : Type}

/-- Two ways to cut a list at an element are one cut, or one lies in front of the other. -/
theorem append_cons_eq_append_cons {xs ys zs ws : List α} {a b : α}
    (h : xs ++ a :: ys = zs ++ b :: ws) :
    (xs = zs ∧ a = b ∧ ys = ws) ∨ (∃ mid, zs = xs ++ a :: mid ∧ ys = mid ++ b :: ws) ∨
      ∃ mid, xs = zs ++ b :: mid ∧ ws = mid ++ a :: ys := by
  rcases List.append_eq_append_iff.1 h with ⟨mid, hz, hy⟩ | ⟨mid, hx, hw⟩
  · cases mid with
    | nil => simp_all
    | cons c mid =>
      rw [List.cons_append, List.cons.injEq] at hy
      obtain ⟨rfl, hy⟩ := hy
      exact .inr (.inl ⟨mid, hz, hy⟩)
  · cases mid with
    | nil => simp_all
    | cons c mid =>
      rw [List.cons_append, List.cons.injEq] at hw
      obtain ⟨rfl, hw⟩ := hw
      exact .inr (.inr ⟨mid, hx, hw⟩)

/-- An element of a list in two parts lies in the first or in the second. -/
theorem append_eq_append_cons {xs ys zs ws : List α} {a : α} (h : xs ++ ys = zs ++ a :: ws) :
    (∃ mid, xs = zs ++ a :: mid ∧ ws = mid ++ ys) ∨
      ∃ mid, zs = xs ++ mid ∧ ys = mid ++ a :: ws := by
  rcases List.append_eq_append_iff.1 h with ⟨mid, hz, hy⟩ | ⟨mid, hx, hw⟩
  · exact .inr ⟨mid, hz, hy⟩
  · cases mid with
    | nil => exact .inr ⟨[], by simpa using hx.symm, by simpa using hw.symm⟩
    | cons c mid =>
      rw [List.cons_append, List.cons.injEq] at hw
      obtain ⟨rfl, hw⟩ := hw
      exact .inl ⟨mid, hx, hw⟩

theorem isMarker_unique {m m' line : String} (h : isMarker m line = true)
    (h' : isMarker m' line = true) : m = m' := by
  simp only [isMarker, beq_iff_eq] at h h'
  exact h.symm.trans h'

namespace Cut

/-- Two marked regions of the same lines, of which one has no marker of the other in its
body: the other lies behind it, in front of it, or all around it. -/
theorem Marks.apart_or_around {u l : Cut} {mu ms : MarkerPair} (hlines : u.lines = l.lines)
    (hu : u.Marks mu) (hl : l.Marks ms) (hne : mu.start ≠ ms.start)
    (hclear : ∀ line ∈ u.body, isMarker ms.start line = false ∧ isMarker ms.stop line = false) :
    (∃ mid, l.before = u.before ++ u.startLine :: (u.body ++ mid) ∧
      u.rest = mid ++ l.startLine :: (l.body ++ l.rest)) ∨
    (∃ mid, u.before = l.before ++ l.startLine :: (l.body ++ mid) ∧
      l.rest = mid ++ u.startLine :: (u.body ++ u.rest)) ∨
    ∃ front back, u.before = l.before ++ l.startLine :: front ∧
      l.body = front ++ u.startLine :: (u.body ++ back) ∧ u.rest = back ++ l.rest := by
  rw [lines, lines] at hlines
  rcases append_cons_eq_append_cons hlines with ⟨-, he, -⟩ | ⟨mid, hbefore, hrest⟩ |
    ⟨mid, hbefore, hrest⟩
  · exact absurd (isMarker_unique hu.startLine (he ▸ hl.startLine)) hne
  · left
    rcases append_eq_append_cons hrest with ⟨mid', hin, -⟩ | ⟨mid', hmid, hr⟩
    · have hfalse := (hclear l.startLine (by simp [hin])).1
      rw [hl.startLine] at hfalse
      cases hfalse
    · exact ⟨mid', by rw [hbefore, hmid], hr⟩
  · right
    rcases append_eq_append_cons hrest with ⟨mid', hin, htail⟩ | ⟨mid', hmid, hr⟩
    · right
      rcases List.append_eq_append_iff.1 htail with ⟨back, hback, hr⟩ | ⟨back, hback, hr⟩
      · exact ⟨mid, back, hbefore, by rw [hin, hback], hr⟩
      · cases back with
        | nil => exact ⟨mid, [], hbefore, by simpa [hback] using hin, by simpa using hr.symm⟩
        | cons line back =>
          have hfalse := (hclear line (by simp [hback])).2
          rw [hl.rest line (by simp [hr])] at hfalse
          cases hfalse
    · exact .inl ⟨mid', by rw [hbefore, hmid], hr⟩

/-- A region is found again when lines in front of it are exchanged. -/
theorem Marks.exchange_front {l : Cut} {markers : MarkerPair} (hl : l.Marks markers)
    {xs piece mid : List String} {line : String} (h : l.before = xs ++ line :: (piece ++ mid))
    {piece' : List String} (hpiece' : ∀ line ∈ piece', isMarker markers.start line = false) :
    Marks { l with before := xs ++ line :: (piece' ++ mid) } markers := by
  have hold := hl.before
  rw [h] at hold
  simp only [List.forall_mem_append, List.forall_mem_cons] at hold
  refine ⟨hl.startLine, ?_, hl.body, hl.rest⟩
  simp only [List.forall_mem_append, List.forall_mem_cons]
  exact ⟨hold.1, hold.2.1, hpiece', hold.2.2.2⟩

/-- A region is found again when what follows a line behind it is exchanged. -/
theorem Marks.exchange_behind {l : Cut} {markers : MarkerPair} (hl : l.Marks markers)
    {mid tail : List String} {line : String} (h : l.rest = mid ++ line :: tail)
    (tail' : List String) : Marks { l with rest := mid ++ line :: tail' } markers := by
  have hhead := hl.rest
  rw [h] at hhead
  refine ⟨hl.startLine, hl.before, hl.body, ?_⟩
  cases mid <;> simpa using hhead

/-- Two marked regions get new bodies without markers. The one is still found after the
other got its body; the other is, too, or its start marker line is gone; and in either
order the same lines come of it. -/
theorem Marks.exchange {u l : Cut} {mu ms : MarkerPair} (hlines : u.lines = l.lines)
    (hu : u.Marks mu) (hl : l.Marks ms) (hne : mu.start ≠ ms.start)
    (honce : u.lines.countP (isMarker mu.start) ≤ 1)
    (hclear : ∀ line ∈ u.body, isMarker ms.start line = false ∧ isMarker ms.stop line = false)
    {bodyu bodyl : List String}
    (hnew : ∀ line ∈ bodyu, isMarker ms.start line = false ∧ isMarker ms.stop line = false)
    (hfree : ∀ line ∈ bodyl, isMarker mu.start line = false) :
    ∃ l' : Cut, l'.lines = Cut.lines { u with body := bodyu } ∧ l'.Marks ms ∧
      l'.startLine = l.startLine ∧ (l'.rest = [] ↔ l.rest = []) ∧
      ((∀ line ∈ Cut.lines { l with body := bodyl }, isMarker mu.start line = false) ∧
          Cut.lines { l' with body := bodyl } = Cut.lines { l with body := bodyl } ∨
        ∃ u' : Cut, u'.lines = Cut.lines { l with body := bodyl } ∧ u'.Marks mu ∧
          u'.startLine = u.startLine ∧ u'.body = u.body ∧ (u.rest ≠ [] → u'.rest ≠ []) ∧
          Cut.lines { l' with body := bodyl } = Cut.lines { u' with body := bodyu }) := by
  have hafter : ∀ line ∈ u.body ++ u.rest, isMarker mu.start line = false := by
    rw [lines, List.countP_append, List.countP_cons_of_pos hu.startLine] at honce
    have hzero : (u.body ++ u.rest).countP (isMarker mu.start) = 0 := by omega
    simpa only [List.countP_eq_zero, Bool.not_eq_true] using hzero
  have hsl : isMarker mu.start l.startLine = false := by
    rw [← Bool.not_eq_true]
    exact fun h => hne (isMarker_unique h hl.startLine)
  rcases hu.apart_or_around hlines hl hne hclear with ⟨mid, hbefore, hrest⟩ |
    ⟨mid, hbefore, hrest⟩ | ⟨front, back, hbefore, hbody, hrest⟩
  · refine ⟨{ l with before := u.before ++ u.startLine :: (bodyu ++ mid) }, ?_,
      hl.exchange_front hbefore fun line hline => (hnew line hline).1, rfl, Iff.rfl,
      .inr ⟨{ u with rest := mid ++ l.startLine :: (bodyl ++ l.rest) }, ?_,
        hu.exchange_behind hrest _, rfl, rfl, fun _ => by simp, ?_⟩⟩
    · simp [lines, hrest]
    · simp [lines, hbefore]
    · simp [lines]
  · refine ⟨{ l with rest := mid ++ u.startLine :: (bodyu ++ u.rest) }, ?_,
      hl.exchange_behind hrest _, rfl, by simp [hrest],
      .inr ⟨{ u with before := l.before ++ l.startLine :: (bodyl ++ mid) }, ?_,
        hu.exchange_front hbefore hfree, rfl, rfl, id, ?_⟩⟩
    · simp [lines, hbefore]
    · simp [lines, hrest]
    · simp [lines]
  · refine ⟨{ l with body := front ++ u.startLine :: (bodyu ++ back) }, ?_,
      ⟨hl.startLine, hl.before, ?_, hl.rest⟩, rfl, Iff.rfl, .inl ⟨?_, rfl⟩⟩
    · simp [lines, hbefore, hrest]
    · have hold := hl.body
      rw [hbody] at hold
      simp only [List.forall_mem_append, List.forall_mem_cons] at hold ⊢
      exact ⟨hold.1, hold.2.1, fun line hline => (hnew line hline).2, hold.2.2.2⟩
    · have hold := hu.before
      rw [hbefore] at hold
      rw [hrest] at hafter
      simp only [lines, List.forall_mem_append, List.forall_mem_cons] at hold hafter ⊢
      exact ⟨hold.1, hsl, hfree, hafter.2.2⟩

theorem rewritten_eq_self {l : Cut} {replacement : List String}
    (h : l.body = emitted l.startLine replacement) : l.rewritten replacement = l := by
  rw [rewritten, ← h]

end Cut

/-- A step's region that the step would leave alone. -/
inductive Settled (policy : EndMarkerPolicy) (s : Step) (content : String) : Prop
  | absent : (∀ line ∈ splitLines content, isMarker s.markers.start line = false) →
    Settled policy s content
  | intact (l : Cut) : l.lines = splitLines content → l.Marks s.markers →
    (policy = .strict → l.rest ≠ []) → l.body = emitted l.startLine s.lines →
    joinLines l.lines = content → Settled policy s content

/-- The regions of some steps in one text can be told apart: no start marker stands on
two lines, and no step emits a marker line of any of them. -/
structure Tidy (steps : Step → Prop) (content : String) : Prop where
  once : ∀ s, steps s → (splitLines content).countP (isMarker s.markers.start) ≤ 1
  clear : ∀ s, steps s → ∀ startLine ∈ splitLines content,
    isMarker s.markers.start startLine = true → ∀ line ∈ emitted startLine s.lines,
      ∀ t, steps t → isMarker t.markers.start line = false ∧ isMarker t.markers.stop line = false

section Rewriting

variable {policy : EndMarkerPolicy} {steps : Step → Prop} {s u : Step} {target target' : TargetFile}
  {outcome : Outcome}

/-- A region that has its lines already is left alone. -/
theorem TargetFile.rewriteRegion_self {markers : MarkerPair} {replacement : List String} {l : Cut}
    (hl : l.lines = splitLines target.content) (hm : l.Marks markers)
    (hallowed : policy = .strict → l.rest ≠ []) (hbody : l.body = emitted l.startLine replacement)
    (hjoin : joinLines l.lines = target.content) :
    target.rewriteRegion markers replacement policy = .ok (target, .unchanged) := by
  rw [rewriteRegion_of_marks hl hm, l.joinLines_spliced, Cut.rewritten_eq_self hbody,
    if_neg fun h => hallowed h.2 h.1, if_pos hjoin]

theorem Settled.rewriteRegion_eq (h : Settled policy s target.content) :
    ∃ outcome, outcome ≠ .replaced ∧
      target.rewriteRegion s.markers s.lines policy = .ok (target, outcome) := by
  cases h with
  | absent hnone =>
    exact ⟨.markerNotFound, by simp, TargetFile.rewriteRegion_of_absent hnone _ _⟩
  | intact l hl hm hallowed hbody hjoin =>
    exact ⟨.unchanged, by simp, TargetFile.rewriteRegion_self hl hm hallowed hbody hjoin⟩

theorem settled_of_rewriteRegion (htidy : Tidy steps target.content) (hs : steps s)
    (h : target.rewriteRegion s.markers s.lines policy = .ok (target', outcome)) :
    Settled policy s target'.content := by
  rcases TargetFile.rewriteRegion_eq_ok h with ⟨hnone, rfl, -⟩ | ⟨l, hat, hstrict⟩
  · exact .absent hnone
  · have hclear := htidy.clear s hs _ hat.startLine_mem hat.marks.startLine
    refine .intact (l.rewritten s.lines) hat.splitLines_eq.symm
      (hat.marks.rewritten fun line hline => (hclear line hline s hs).2) hstrict ?_ ?_
    · rw [Cut.rewritten]
    · rw [← hat.splitLines_eq]
      exact hat.content_eq

theorem Tidy.rewriteRegion (htidy : Tidy steps target.content) (hs : steps s)
    (h : target.rewriteRegion s.markers s.lines policy = .ok (target', outcome)) :
    Tidy steps target'.content := by
  rcases TargetFile.rewriteRegion_eq_ok h with ⟨-, rfl, -⟩ | ⟨l, hat, -⟩
  · exact htidy
  · have hclear := htidy.clear s hs _ hat.startLine_mem hat.marks.startLine
    refine ⟨fun t ht => ?_, fun t ht line hline hmark => ?_⟩
    · have hle := hat.countP_le fun line hline => (hclear line hline t ht).1
      exact Nat.le_trans hle (htidy.once t ht)
    · rcases hat.mem_or_emitted hline with hold | hnew
      · exact htidy.clear t ht line hold hmark
      · rw [(hclear line hnew t ht).1] at hmark
        cases hmark

/-- A rewrite brings no start marker line into a text. -/
theorem Tidy.absent_rewriteRegion (htidy : Tidy steps target.content) (hs : steps s) (hu : steps u)
    (h : target.rewriteRegion s.markers s.lines policy = .ok (target', outcome))
    (hnone : ∀ line ∈ splitLines target.content, isMarker u.markers.start line = false) :
    ∀ line ∈ splitLines target'.content, isMarker u.markers.start line = false := by
  rcases TargetFile.rewriteRegion_eq_ok h with ⟨-, rfl, -⟩ | ⟨l, hat, -⟩
  · exact hnone
  · intro line hline
    rcases hat.mem_or_emitted hline with hold | hnew
    · exact hnone line hold
    · exact (htidy.clear s hs _ hat.startLine_mem hat.marks.startLine line hnew u hu).1

/-- A rewrite of one region keeps every other settled. -/
theorem Settled.rewriteRegion (hu : Settled policy u target.content)
    (htidy : Tidy steps target.content) (hmem : steps u) (hs : steps s)
    (hne : u.markers.start ≠ s.markers.start)
    (h : target.rewriteRegion s.markers s.lines policy = .ok (target', outcome)) :
    Settled policy u target'.content := by
  cases hu with
  | absent hnone => exact .absent (htidy.absent_rewriteRegion hs hmem h hnone)
  | intact k hk hkm hstrict hbody hjoin =>
    rcases TargetFile.rewriteRegion_eq_ok h with ⟨-, rfl, -⟩ | ⟨l, hat, -⟩
    · exact .intact k hk hkm hstrict hbody hjoin
    · have hkstart : k.startLine ∈ splitLines target.content := by rw [← hk]; simp [Cut.lines]
      have hkbody : ∀ line ∈ k.body,
          isMarker s.markers.start line = false ∧ isMarker s.markers.stop line = false := by
        rw [hbody]
        exact fun line hline => htidy.clear u hmem _ hkstart hkm.startLine line hline s hs
      have hfree : ∀ line ∈ emitted l.startLine s.lines, isMarker u.markers.start line = false :=
        fun line hline =>
          (htidy.clear s hs _ hat.startLine_mem hat.marks.startLine line hline u hmem).1
      obtain ⟨-, -, -, -, -, ⟨hgone, -⟩ | ⟨k', hlines, hm', hline', hbody', hrest', -⟩⟩ :=
        hkm.exchange (hk.trans hat.lines_eq.symm) hat.marks hne (hk ▸ htidy.once u hmem) hkbody
          hkbody hfree
      · refine .absent ?_
        rw [hat.splitLines_eq]
        exact hgone
      · have hsplit : k'.lines = splitLines target'.content := hlines.trans hat.splitLines_eq.symm
        refine .intact k' hsplit hm' (fun hp => hrest' (hstrict hp)) ?_ ?_
        · rw [hline', hbody', hbody]
        · rw [hsplit]
          exact hat.content_eq

end Rewriting

end BindingRegions

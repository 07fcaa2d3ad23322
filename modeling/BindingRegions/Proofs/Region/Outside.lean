import BindingRegions.Proofs.Region.Revision

/-! Lines outside two regions. Where each of four markers stands on one line, the lines that
are not strictly between the marker lines of a region stay when one region is rewritten and
then the other (`TwoRegions.linesOutside_sublist`). There is one exception: if the second
region starts in front of the first and ends inside it, the first rewrite takes away its end,
and without that the second one runs through the end of the text. -/

namespace BindingRegions

open Text

/-- Whether the line at the index is strictly between the first start marker line and the
first end marker line. -/
def MarkerPair.encloses (markers : MarkerPair) (lines : List String) (index : Nat) : Bool :=
  lines.findIdx (isMarker markers.start) < index && index < lines.findIdx (isMarker markers.stop)

/-- The lines, counted from the given index, that are not dropped. -/
def keep (dropped : Nat → Bool) : Nat → List String → List String
  | _, [] => []
  | index, line :: lines =>
    if dropped index then keep dropped (index + 1) lines
    else line :: keep dropped (index + 1) lines

/-- Whether one of the regions encloses the line at the index. -/
def enclosed (regions : List MarkerPair) (lines : List String) (index : Nat) : Bool :=
  regions.any (·.encloses lines index)

/-- The lines that no region encloses. -/
def linesOutside (regions : List MarkerPair) (lines : List String) : List String :=
  keep (enclosed regions lines) 0 lines

/-- Four different markers, each on one line, with the end marker lines behind the start
marker lines. -/
structure TwoRegions (first second : MarkerPair) (lines : List String) : Prop where
  distinct : [first.start, first.stop, second.start, second.stop].Nodup
  once : ∀ marker ∈ [first.start, first.stop, second.start, second.stop],
    lines.countP (isMarker marker) = 1
  first : lines.findIdx (isMarker first.start) < lines.findIdx (isMarker first.stop)
  second : lines.findIdx (isMarker second.start) < lines.findIdx (isMarker second.stop)

/-- The second region starts in front of the first and ends inside it. -/
def EndsInside (first second : MarkerPair) (lines : List String) : Prop :=
  lines.findIdx (isMarker second.start) < lines.findIdx (isMarker first.start) ∧
    lines.findIdx (isMarker first.start) < lines.findIdx (isMarker second.stop) ∧
    lines.findIdx (isMarker second.stop) < lines.findIdx (isMarker first.stop)

section Keep

variable {dropped : Nat → Bool} {index : Nat} {xs ys : List String}

theorem keep_append (dropped : Nat → Bool) (index : Nat) (xs ys : List String) :
    keep dropped index (xs ++ ys) =
      keep dropped index xs ++ keep dropped (index + xs.length) ys := by
  induction xs generalizing index with
  | nil => rfl
  | cons x xs ih =>
    have hindex : index + (x :: xs).length = index + 1 + xs.length := by
      rw [List.length_cons]
      omega
    rw [List.cons_append, keep, keep, ih, hindex]
    split_ifs <;> rfl

theorem keep_sublist (dropped : Nat → Bool) (index : Nat) (xs : List String) :
    (keep dropped index xs).Sublist xs := by
  induction xs generalizing index with
  | nil => exact .slnil
  | cons x xs ih =>
    rw [keep]
    split_ifs
    · exact (ih (index + 1)).cons x
    · exact (ih (index + 1)).cons_cons x

theorem keep_eq_nil (h : ∀ i, index ≤ i → i < index + xs.length → dropped i = true) :
    keep dropped index xs = [] := by
  induction xs generalizing index with
  | nil => rfl
  | cons x xs ih =>
    rw [List.length_cons] at h
    rw [keep, if_pos (h index (Nat.le_refl _) (by omega))]
    exact ih fun i hi hi' => h i (by omega) (by omega)

/-- Dropped lines may be exchanged for others. -/
theorem keep_sublist_exchange {piece rest rest' : List String} (line : String)
    (hpiece : keep dropped (index + xs.length + 1) piece = [])
    (hrest : (keep dropped (index + xs.length + 1 + piece.length) rest).Sublist rest')
    (piece' : List String) :
    (keep dropped index (xs ++ line :: (piece ++ rest))).Sublist
      (xs ++ line :: (piece' ++ rest')) := by
  have hline : (keep dropped (index + xs.length) [line]).Sublist [line] := keep_sublist _ _ _
  have htail : (keep dropped (index + xs.length + 1) (piece ++ rest)).Sublist (piece' ++ rest') := by
    rw [keep_append, hpiece, List.nil_append]
    exact hrest.trans (List.sublist_append_right _ _)
  have hcons : (keep dropped (index + xs.length) ([line] ++ (piece ++ rest))).Sublist
      ([line] ++ (piece' ++ rest')) := by
    rw [keep_append]
    exact hline.append htail
  rw [keep_append]
  exact (keep_sublist _ _ _).append hcons

end Keep

/-- An element that alone satisfies a predicate is where the search finds it. -/
theorem findIdx_of_countP {α : Type} {p : α → Bool} {list xs ys : List α} {a : α}
    (honce : list.countP p = 1) (h : list = xs ++ a :: ys) (ha : p a = true) :
    list.findIdx p = xs.length := by
  have hzero : xs.countP p = 0 := by
    rw [h, List.countP_append, List.countP_cons_of_pos ha] at honce
    omega
  have hnone : ¬ ∃ x, x ∈ xs ∧ p x = true := by
    rw [List.countP_eq_zero] at hzero
    rintro ⟨x, hx, hpx⟩
    exact hzero x hx hpx
  rw [h, List.findIdx_append, if_neg (mt List.findIdx_lt_length.1 hnone), List.findIdx_cons, ha]
  simp

section Positions

variable {markers : MarkerPair} {regions : List MarkerPair} {lines xs piece rest : List String}
  {startLine : String}

/-- The lines between a start marker line and the end marker line after it are enclosed. -/
theorem keep_enclosed (hmem : markers ∈ regions) (h : lines = xs ++ startLine :: (piece ++ rest))
    (hstart : isMarker markers.start startLine = true)
    (hstop : ∃ line ∈ rest.head?, isMarker markers.stop line = true)
    (honce : lines.countP (isMarker markers.start) = 1)
    (honce' : lines.countP (isMarker markers.stop) = 1) :
    keep (enclosed regions lines) (xs.length + 1) piece = [] := by
  obtain ⟨stopLine, hhead, hmark⟩ := hstop
  obtain ⟨ys, rfl⟩ := List.head?_eq_some_iff.1 hhead
  have hsplit : lines = (xs ++ startLine :: piece) ++ stopLine :: ys := by simp [h]
  have hfirst := findIdx_of_countP honce h hstart
  have hlast := findIdx_of_countP honce' hsplit hmark
  rw [List.length_append, List.length_cons] at hlast
  refine keep_eq_nil fun index hlow hhigh => ?_
  rw [enclosed, List.any_eq_true]
  refine ⟨markers, hmem, ?_⟩
  rw [MarkerPair.encloses, hfirst, hlast, Bool.and_eq_true, decide_eq_true_iff, decide_eq_true_iff]
  omega

/-- The end marker line stands behind the body of a region, if it stands behind the start
marker line and not in the body. -/
theorem exists_stopLine (h : lines = xs ++ startLine :: (piece ++ rest))
    (hstart : isMarker markers.start startLine = true) (hne : markers.start ≠ markers.stop)
    (hpiece : ∀ line ∈ piece, isMarker markers.stop line = false)
    (honce : lines.countP (isMarker markers.start) = 1)
    (honce' : lines.countP (isMarker markers.stop) = 1)
    (hlt : lines.findIdx (isMarker markers.start) < lines.findIdx (isMarker markers.stop)) :
    ∃ line ∈ rest, isMarker markers.stop line = true := by
  have hfirst := findIdx_of_countP honce h hstart
  obtain ⟨line, hline, hmark⟩ : ∃ line ∈ lines, isMarker markers.stop line = true :=
    List.countP_pos_iff.1 (by omega)
  have hcases := hline
  rw [h] at hcases
  simp only [List.mem_append, List.mem_cons] at hcases
  rcases hcases with hmem | rfl | hmem | hmem
  · obtain ⟨ys, zs, hsplit⟩ := List.append_of_mem hmem
    have hlast : lines.findIdx (isMarker markers.stop) = ys.length :=
      findIdx_of_countP honce' (by rw [h, hsplit, List.append_assoc, List.cons_append]) hmark
    have hlength := congrArg List.length hsplit
    rw [List.length_append, List.length_cons] at hlength
    omega
  · exact absurd (isMarker_unique hstart hmark) hne
  · rw [hpiece line hmem] at hmark
    cases hmark
  · exact ⟨line, hmem, hmark⟩

theorem linesOutside_exchange {line : String} (h : lines = xs ++ line :: (piece ++ rest))
    (hpiece : keep (enclosed regions lines) (xs.length + 1) piece = []) (piece' : List String) :
    (linesOutside regions lines).Sublist (xs ++ line :: (piece' ++ rest)) := by
  rw [linesOutside]
  nth_rewrite 2 [h]
  refine keep_sublist_exchange line ?_ (keep_sublist _ _ _) piece'
  rw [Nat.zero_add]
  exact hpiece

theorem linesOutside_exchange_two {mid last : List String} {line line' : String}
    (h : lines = xs ++ line :: (piece ++ (mid ++ line' :: (last ++ rest))))
    (hpiece : keep (enclosed regions lines) (xs.length + 1) piece = [])
    (hlast : keep (enclosed regions lines) ((xs ++ line :: (piece ++ mid)).length + 1) last = [])
    (piece' last' : List String) :
    (linesOutside regions lines).Sublist
      (xs ++ line :: (piece' ++ (mid ++ line' :: (last' ++ rest)))) := by
  have hlength : (xs ++ line :: (piece ++ mid)).length =
      0 + xs.length + 1 + piece.length + mid.length := by
    simp only [List.length_append, List.length_cons]
    omega
  rw [hlength] at hlast
  rw [linesOutside]
  nth_rewrite 2 [h]
  refine keep_sublist_exchange line ?_ ?_ piece'
  · rw [Nat.zero_add]
    exact hpiece
  · exact keep_sublist_exchange line' hlast (keep_sublist _ _ _) last'

end Positions

theorem Cut.Marks.exists_stop {l : Cut} {markers : MarkerPair} (hm : l.Marks markers)
    (h : ∃ line ∈ l.rest, isMarker markers.stop line = true) :
    ∃ line ∈ l.rest.head?, isMarker markers.stop line = true := by
  obtain ⟨line, hline, -⟩ := h
  obtain ⟨head, tail, hrest⟩ := List.exists_cons_of_ne_nil (List.ne_nil_of_mem hline)
  have hhead : head ∈ l.rest.head? := by simp [hrest]
  exact ⟨head, hhead, hm.rest head hhead⟩

namespace TwoRegions

variable {first second : MarkerPair} {lines : List String}

theorem exists_cut (h : TwoRegions first second lines) :
    ∃ l : Cut, l.lines = lines ∧ l.Marks first ∧
      ∃ line ∈ l.rest.head?, isMarker first.stop line = true := by
  rcases Cut.exists_marks lines first with hnone | ⟨l, rfl, hm⟩
  · have hzero : lines.countP (isMarker first.start) = 0 := by
      rw [List.countP_eq_zero]
      exact fun line hline => by simp [hnone line hline]
    rw [h.once first.start (by simp)] at hzero
    cases hzero
  · have hdistinct := h.distinct
    simp only [List.nodup_cons, List.mem_cons, not_or] at hdistinct
    exact ⟨l, rfl, hm, hm.exists_stop (exists_stopLine rfl hm.startLine hdistinct.1.1 hm.body
      (h.once first.start (by simp)) (h.once first.stop (by simp)) h.first)⟩

/-- The lines of the first region are enclosed. -/
theorem keep_first {l : Cut} (h : TwoRegions first second l.lines) (hm : l.Marks first)
    (hstop : ∃ line ∈ l.rest.head?, isMarker first.stop line = true) :
    keep (enclosed [first, second] l.lines) (l.before.length + 1) l.body = [] :=
  keep_enclosed List.mem_cons_self rfl hm.startLine hstop (h.once first.start (by simp))
    (h.once first.stop (by simp))

/-- The lines between the start and the end of the second region are enclosed. -/
theorem keep_second {xs piece rest : List String} {startLine : String}
    (h : TwoRegions first second lines) (hlines : lines = xs ++ startLine :: (piece ++ rest))
    (hstart : isMarker second.start startLine = true)
    (hstop : ∃ line ∈ rest.head?, isMarker second.stop line = true) :
    keep (enclosed [first, second] lines) (xs.length + 1) piece = [] :=
  keep_enclosed (by simp) hlines hstart hstop (h.once second.start (by simp))
    (h.once second.stop (by simp))

/-- What is outside stays when the first region is rewritten. -/
theorem sublist_first {l : Cut} (h : TwoRegions first second l.lines) (hm : l.Marks first)
    (hstop : ∃ line ∈ l.rest.head?, isMarker first.stop line = true) (new : List String) :
    (linesOutside [first, second] l.lines).Sublist (Cut.lines { l with body := new }) :=
  linesOutside_exchange rfl (h.keep_first hm hstop) new

/-- If the end of the second region went with the body of the first, it was inside. -/
theorem endsInside_of_around {l k : Cut} (h : TwoRegions first second l.lines) (hm : l.Marks first)
    (hstop : ∃ line ∈ l.rest.head?, isMarker first.stop line = true) (hkm : k.Marks second)
    {new front : List String} (hbefore : l.before = k.before ++ k.startLine :: front)
    (hbody : k.body = front ++ l.startLine :: (new ++ l.rest)) :
    EndsInside first second l.lines := by
  have hdistinct := h.distinct
  simp only [List.nodup_cons, List.mem_cons, List.not_mem_nil, or_false, not_or] at hdistinct
  have hbody' := hkm.body
  rw [hbody] at hbody'
  simp only [List.forall_mem_append, List.forall_mem_cons] at hbody'
  have hsplit : l.lines =
      k.before ++ k.startLine :: (front ++ l.startLine :: (l.body ++ l.rest)) := by
    rw [Cut.lines, hbefore, List.append_assoc, List.cons_append]
  obtain ⟨line, hline, hmark⟩ := exists_stopLine hsplit hkm.startLine hdistinct.2.2.1 hbody'.1
    (h.once second.start (by simp)) (h.once second.stop (by simp)) h.second
  have hmem : line ∈ l.body := by
    simp only [List.mem_cons, List.mem_append] at hline
    rcases hline with rfl | hline | hline
    · exact absurd (isMarker_unique hm.startLine hmark) hdistinct.1.2.2
    · exact hline
    · rw [hbody'.2.2.2 line hline] at hmark
      cases hmark
  obtain ⟨xs, ys, hinside⟩ := List.append_of_mem hmem
  obtain ⟨stopLine, hhead, hstopLine⟩ := hstop
  obtain ⟨tail, hrest⟩ := List.head?_eq_some_iff.1 hhead
  have hsplitEnd : l.lines = (l.before ++ l.startLine :: xs) ++ line :: (ys ++ l.rest) := by
    simp [Cut.lines, hinside]
  have hsplitLast : l.lines = (l.before ++ l.startLine :: l.body) ++ stopLine :: tail := by
    simp [Cut.lines, hrest]
  have hfirst := findIdx_of_countP (h.once first.start (by simp)) rfl hm.startLine
  have hsecond := findIdx_of_countP (h.once second.start (by simp)) hsplit hkm.startLine
  have hend := findIdx_of_countP (h.once second.stop (by simp)) hsplitEnd hmark
  have hlast := findIdx_of_countP (h.once first.stop (by simp)) hsplitLast hstopLine
  have hlength := congrArg List.length hbefore
  have hlength' := congrArg List.length hinside
  simp only [List.length_append, List.length_cons] at hend hlast hlength hlength'
  rw [EndsInside, hfirst, hsecond, hend, hlast]
  omega

/-- What is outside stays when the second region lies behind the first. -/
theorem sublist_behind {l k : Cut} (h : TwoRegions first second l.lines) (hm : l.Marks first)
    (hstop : ∃ line ∈ l.rest.head?, isMarker first.stop line = true) (hkm : k.Marks second)
    {new mid : List String} (hbefore : k.before = l.before ++ l.startLine :: (new ++ mid))
    (hrest : l.rest = mid ++ k.startLine :: (k.body ++ k.rest)) (new' : List String) :
    (linesOutside [first, second] l.lines).Sublist (Cut.lines { k with body := new' }) := by
  have hne : second.start ≠ second.stop := by
    have hdistinct := h.distinct
    simp only [List.nodup_cons, List.mem_cons, not_or] at hdistinct
    exact hdistinct.2.2.1.1
  have hsplit : l.lines = (l.before ++ l.startLine :: (l.body ++ mid)) ++
      k.startLine :: (k.body ++ k.rest) := by
    simp [Cut.lines, hrest]
  have hstop' := hkm.exists_stop (exists_stopLine hsplit hkm.startLine hne hkm.body
    (h.once second.start (by simp)) (h.once second.stop (by simp)) h.second)
  have hsource : l.lines =
      l.before ++ l.startLine :: (l.body ++ (mid ++ k.startLine :: (k.body ++ k.rest))) := by
    rw [Cut.lines, hrest]
  have htarget : Cut.lines { k with body := new' } =
      l.before ++ l.startLine :: (new ++ (mid ++ k.startLine :: (new' ++ k.rest))) := by
    simp [Cut.lines, hbefore]
  rw [htarget]
  exact linesOutside_exchange_two hsource (h.keep_first hm hstop)
    (h.keep_second hsplit hkm.startLine hstop') new new'

/-- What is outside stays when the second region lies in front of the first. -/
theorem sublist_in_front {l k : Cut} (h : TwoRegions first second l.lines) (hm : l.Marks first)
    (hstop : ∃ line ∈ l.rest.head?, isMarker first.stop line = true) (hkm : k.Marks second)
    {new mid : List String} (hbefore : l.before = k.before ++ k.startLine :: (k.body ++ mid))
    (hrest : k.rest = mid ++ l.startLine :: (new ++ l.rest)) (new' : List String) :
    (linesOutside [first, second] l.lines).Sublist (Cut.lines { k with body := new' }) := by
  have hsplit : l.lines = k.before ++ k.startLine :: (k.body ++
      (mid ++ l.startLine :: (l.body ++ l.rest))) := by
    simp [Cut.lines, hbefore]
  have hstop' : ∃ line ∈ (mid ++ l.startLine :: (l.body ++ l.rest)).head?,
      isMarker second.stop line = true := by
    have hhead := hkm.rest
    rw [hrest] at hhead
    cases mid <;> simpa using hhead
  have hpiece := h.keep_first hm hstop
  have htarget : Cut.lines { k with body := new' } =
      k.before ++ k.startLine :: (new' ++ (mid ++ l.startLine :: (new ++ l.rest))) := by
    rw [Cut.lines, hrest]
  rw [hbefore] at hpiece
  rw [htarget]
  exact linesOutside_exchange_two hsplit (h.keep_second hsplit hkm.startLine hstop') hpiece new' new

/-- What is outside stays when the second region reaches over the first and has its end. -/
theorem sublist_around {l k : Cut} (h : TwoRegions first second l.lines) (hkm : k.Marks second)
    {front back : List String} (hbefore : l.before = k.before ++ k.startLine :: front)
    (hrest : l.rest = back ++ k.rest) (hne : k.rest ≠ []) (new' : List String) :
    (linesOutside [first, second] l.lines).Sublist (Cut.lines { k with body := new' }) := by
  obtain ⟨head, tail, hcons⟩ := List.exists_cons_of_ne_nil hne
  have hstop := hkm.exists_stop ⟨head, by simp [hcons], hkm.rest head (by simp [hcons])⟩
  have hsplit : l.lines = k.before ++ k.startLine ::
      ((front ++ l.startLine :: (l.body ++ back)) ++ k.rest) := by
    simp [Cut.lines, hbefore, hrest]
  exact linesOutside_exchange hsplit (h.keep_second hsplit hkm.startLine hstop) new'

/-- What is outside stays when the second region is rewritten after the first, unless the
end of the second one went with the body of the first. -/
theorem sublist_second {l k : Cut} (h : TwoRegions first second l.lines) (hm : l.Marks first)
    (hstop : ∃ line ∈ l.rest.head?, isMarker first.stop line = true) {new : List String}
    (hnew : ∀ line ∈ new, ∀ marker ∈ [first.stop, second.start, second.stop],
      isMarker marker line = false)
    (hk : k.lines = Cut.lines { l with body := new }) (hkm : k.Marks second)
    (hends : k.rest = [] → ¬ EndsInside first second l.lines) (new' : List String) :
    (linesOutside [first, second] l.lines).Sublist (Cut.lines { k with body := new' }) := by
  have hne : first.start ≠ second.start := by
    have hdistinct := h.distinct
    simp only [List.nodup_cons, List.mem_cons, not_or] at hdistinct
    exact hdistinct.1.2.1
  have hm' : Cut.Marks { l with body := new } first :=
    ⟨hm.startLine, hm.before, fun line hline => hnew line hline _ (by simp), hm.rest⟩
  rcases hm'.apart_or_around hk.symm hkm hne
    (fun line hline => ⟨hnew line hline _ (by simp), hnew line hline _ (by simp)⟩) with
    ⟨mid, hbefore, hrest⟩ | ⟨mid, hbefore, hrest⟩ | ⟨front, back, hbefore, hbody, hrest⟩
  · exact h.sublist_behind hm hstop hkm hbefore hrest new'
  · exact h.sublist_in_front hm hstop hkm hbefore hrest new'
  · have hne' : k.rest ≠ [] := by
      intro hnil
      have hback : l.rest = back := by simpa [hnil] using hrest
      have hbody' : k.body = front ++ l.startLine :: (new ++ l.rest) := by
        rw [hback]
        exact hbody
      exact hends hnil (h.endsInside_of_around hm hstop hkm hbefore hbody')
    exact h.sublist_around hkm hbefore hrest hne' new'

end TwoRegions

/-- The text is the one from before, or every line in it has its newline. -/
def Terminated (before after : String) : Prop :=
  after = before ∨ joinLines (splitLines after) = after

section Steps

variable {policy : EndMarkerPolicy} {s u : Step} {content mid final : String}

theorem terminated_rewritten {l : Cut} (hl : l.lines = splitLines mid) (replacement : List String) :
    Terminated content (joinLines (l.rewritten replacement).lines) :=
  .inr (congrArg joinLines (Cut.splitLines_rewritten hl replacement))

/-- The first step finds its region. -/
theorem TwoRegions.revise_first (h : TwoRegions s.markers u.markers (splitLines content))
    (policy : EndMarkerPolicy) :
    ∃ l : Cut, l.lines = splitLines content ∧ l.Marks s.markers ∧
      (∃ line ∈ l.rest.head?, isMarker s.markers.stop line = true) ∧
      s.revise policy content = some (joinLines (l.rewritten s.lines).lines) := by
  obtain ⟨l, hl, hm, hstop⟩ := h.exists_cut
  refine ⟨l, hl, hm, hstop, ?_⟩
  rw [Step.revise_of_marks hl hm, if_neg]
  rintro ⟨hnil, -⟩
  simp [hnil] at hstop

theorem TwoRegions.linesOutside_sublist_first
    (h : TwoRegions s.markers u.markers (splitLines content))
    (hfirst : s.revise policy content = some mid) :
    (linesOutside [s.markers, u.markers] (splitLines content)).Sublist (splitLines mid) ∧
      Terminated content mid := by
  obtain ⟨l, hl, hm, hstop, hrevise⟩ := h.revise_first policy
  obtain rfl := Option.some.inj (hrevise.symm.trans hfirst)
  refine ⟨?_, terminated_rewritten hl s.lines⟩
  rw [Cut.splitLines_rewritten hl, ← hl]
  rw [← hl] at h
  exact h.sublist_first hm hstop (emitted l.startLine s.lines)

theorem TwoRegions.linesOutside_sublist_second
    (h : TwoRegions s.markers u.markers (splitLines content))
    (hclear : ∀ startLine, ∀ line ∈ emitted startLine s.lines,
      ∀ marker ∈ [s.markers.stop, u.markers.start, u.markers.stop], isMarker marker line = false)
    (hends : policy = .strict ∨ ¬ EndsInside s.markers u.markers (splitLines content))
    (hfirst : s.revise policy content = some mid) (hsecond : u.revise policy mid = some final) :
    (linesOutside [s.markers, u.markers] (splitLines content)).Sublist (splitLines final) ∧
      Terminated content final := by
  have hone := h.linesOutside_sublist_first hfirst
  obtain ⟨l, hl, hm, hstop, hrevise⟩ := h.revise_first policy
  obtain rfl := Option.some.inj (hrevise.symm.trans hfirst)
  rcases Cut.exists_marks (splitLines (joinLines (l.rewritten s.lines).lines)) u.markers with
    hnone | ⟨k, hk, hkm⟩
  · rw [Step.revise_of_absent hnone, Option.some.injEq] at hsecond
    exact hsecond ▸ hone
  · rw [Step.revise_of_marks hk hkm] at hsecond
    split_ifs at hsecond with hrefused
    obtain rfl := Option.some.inj hsecond
    refine ⟨?_, terminated_rewritten hk u.lines⟩
    rw [Cut.splitLines_rewritten hk, ← hl]
    rw [← hl] at h hends
    have hallowed : k.rest = [] → ¬ EndsInside s.markers u.markers l.lines := fun hnil =>
      hends.resolve_left fun hp => hrefused ⟨hnil, hp⟩
    exact h.sublist_second hm hstop (hclear l.startLine)
      (hk.trans (Cut.splitLines_rewritten hl s.lines)) hkm hallowed _

/-- After the steps of two regions, or after the first of them, all lines outside are there. -/
theorem TwoRegions.linesOutside_sublist {done : List Step}
    (h : TwoRegions s.markers u.markers (splitLines content))
    (hclear : ∀ startLine, ∀ line ∈ emitted startLine s.lines,
      ∀ marker ∈ [s.markers.stop, u.markers.start, u.markers.stop], isMarker marker line = false)
    (hends : policy = .strict ∨ ¬ EndsInside s.markers u.markers (splitLines content))
    (hdone : done <+: [s, u]) (hrun : done.foldlM (Step.revise policy) content = some final) :
    (linesOutside [s.markers, u.markers] (splitLines content)).Sublist (splitLines final) ∧
      Terminated content final := by
  rcases List.prefix_cons_iff.1 hdone with rfl | ⟨rest, rfl, hrest⟩
  · obtain rfl : content = final := Option.some.inj hrun
    exact ⟨keep_sublist _ _ _, .inl rfl⟩
  · obtain ⟨mid, hfirst, hrun⟩ := Option.bind_eq_some_iff.1 hrun
    rcases List.prefix_cons_iff.1 hrest with rfl | ⟨rest, rfl, hnil⟩
    · obtain rfl : mid = final := Option.some.inj hrun
      exact h.linesOutside_sublist_first hfirst
    · obtain rfl := List.prefix_nil.1 hnil
      obtain ⟨last, hsecond, hlast⟩ := Option.bind_eq_some_iff.1 hrun
      obtain rfl : last = final := Option.some.inj hlast
      exact h.linesOutside_sublist_second hclear hends hfirst hsecond

end Steps

end BindingRegions

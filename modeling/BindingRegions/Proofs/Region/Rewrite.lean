import BindingRegions.Proofs.Region.Cut
import BindingRegions.Proofs.Text.LineAt

/-! What one rewrite does to a text, character by character. `RegionRewrite` says it
without lists of lines: the text up to the first start marker line stays, so does the
text from the first end marker line after it, and between them come the texts of the
replacement with that start marker line's ending. A rewrite returns exactly what the
relation allows (`rewriteRegion_eq_iff`). -/

namespace BindingRegions

open Text

/-- A line matches a marker when it is the marker, but for one carriage return at the
line's end. -/
def Matches (marker : String) (line : List Char) : Prop :=
  line = marker.toList ++ ['\r'] ∨ line = marker.toList ∧ line.getLast? ≠ some '\r'

/-- The texts of a body, each with the ending of the start marker line. -/
def bodyText (startLine : List Char) (replacement : List String) : List Char :=
  replacement.flatMap fun text =>
    text.toList ++ if startLine.getLast? = some '\r' then ['\r', '\n'] else ['\n']

/-- A text with the body replaced, from its parts. The start marker line gets a newline
even where it had none. -/
def regionText (before startLine : List Char) (replacement : List String) (rest : List Char) :
    String :=
  String.ofList (before ++ startLine ++ '\n' :: bodyText startLine replacement ++ rest)

/-- The target with new content, and whether that changes anything. -/
def TargetFile.update (target : TargetFile) (content : String) : TargetFile × Outcome :=
  ({ target with content }, if content = target.content then .unchanged else .replaced)

/-- What a rewrite has to return. -/
inductive RegionRewrite (target : TargetFile) (markers : MarkerPair) (replacement : List String) :
    EndMarkerPolicy → Except Error (TargetFile × Outcome) → Prop
  | skipped {policy : EndMarkerPolicy} :
    NoLine (Matches markers.start) target.content.toList →
    RegionRewrite target markers replacement policy (.ok (target, .markerNotFound))
  | refused {before startLine after : List Char} :
    FirstLine (Matches markers.start) target.content.toList before startLine after →
    NoLine (Matches markers.stop) after.tail →
    RegionRewrite target markers replacement .strict
      (.error (.missingEndMarker target.path markers.stop))
  | throughEnd {before startLine after : List Char} :
    FirstLine (Matches markers.start) target.content.toList before startLine after →
    NoLine (Matches markers.stop) after.tail →
    RegionRewrite target markers replacement .throughEndOfFile
      (.ok (target.update (regionText before startLine replacement [])))
  | between {policy : EndMarkerPolicy} {before startLine after body stopLine rest : List Char} :
    FirstLine (Matches markers.start) target.content.toList before startLine after →
    FirstLine (Matches markers.stop) after.tail body stopLine rest →
    RegionRewrite target markers replacement policy
      (.ok (target.update (regionText before startLine replacement (terminate (stopLine ++ rest)))))

theorem isMarker_iff (marker line : String) :
    isMarker marker line = true ↔ Matches marker line.toList := by
  simp only [isMarker, dropReturn, beq_iff_eq, Matches, endsWithReturn]
  by_cases hr : line.toList.getLast? = some '\r'
  · obtain ⟨init, hinit⟩ := List.getLast?_eq_some_iff.1 hr
    simp only [hinit, if_true, List.dropLast_concat, List.getLast?_concat, ne_eq, not_true,
      and_false, or_false, List.append_left_inj]
    rw [← String.toList_inj, String.toList_ofList]
  · rw [if_neg hr, ← String.toList_inj]
    refine ⟨fun h => .inr ⟨h, hr⟩, fun h => ?_⟩
    rcases h with h | h
    · rw [h] at hr; simp at hr
    · exact h.1

theorem isMarker_ofList (marker : String) (line : List Char) :
    isMarker marker (String.ofList line) = true ↔ Matches marker line := by
  rw [isMarker_iff, String.toList_ofList]

theorem isMarker_eq_false_of_noLine {marker : String} {text : List Char}
    (h : NoLine (Matches marker) text) :
    ∀ line ∈ (splitChars text).map String.ofList, isMarker marker line = false := by
  intro line hline
  obtain ⟨chars, hchars, rfl⟩ := List.mem_map.1 hline
  rw [← Bool.not_eq_true, isMarker_ofList]
  exact noLine_iff.1 h chars hchars

theorem toList_joinLines_bodyLines (startLine : String) (replacement : List String) :
    (joinLines (bodyLines startLine replacement)).toList =
      bodyText startLine.toList replacement := by
  rw [toList_joinLines, bodyLines, bodyText, endsWithReturn]
  by_cases hr : startLine.toList.getLast? = some '\r'
  · simp [hr, List.flatMap_map]
  · simp [hr]

theorem joinLines_spliced_eq_regionText (l : Cut) (replacement : List String) :
    joinLines (l.spliced replacement) =
      regionText (joinChars (l.before.map String.toList)) l.startLine.toList replacement
        (joinChars (l.rest.map String.toList)) := by
  apply String.toList_inj.1
  rw [Cut.spliced, ← List.singleton_append, joinLines_append, joinLines_append, joinLines_append]
  simp only [regionText, String.toList_append, String.toList_ofList, toList_joinLines_bodyLines,
    toList_joinLines_eq (l.before), toList_joinLines_eq (l.rest), toList_joinLines_eq [l.startLine]]
  simp

/-- The cut of a text whose first start marker line is known. -/
theorem marks_of_firstLine {markers : MarkerPair} {content : String}
    {before startLine after : List Char} {body rest : List String}
    (hs : FirstLine (Matches markers.start) content.toList before startLine after)
    (hafter : (splitChars after.tail).map String.ofList = body ++ rest)
    (hbody : ∀ line ∈ body, isMarker markers.stop line = false)
    (hrest : ∀ line ∈ rest.head?, isMarker markers.stop line = true) :
    let l : Cut := ⟨(splitChars before).map String.ofList, String.ofList startLine, body, rest⟩
    l.lines = splitLines content ∧ l.Marks markers := by
  refine ⟨?_, ⟨(isMarker_ofList _ _).2 hs.holds, isMarker_eq_false_of_noLine hs.none_before, hbody,
    hrest⟩⟩
  rw [Cut.lines, splitLines, hs.lineAt.splitChars_eq, List.map_append, List.map_cons, hafter]

theorem joinLines_spliced_of_firstLine {p : List Char → Prop}
    {text before startLine after : List Char} (hs : FirstLine p text before startLine after)
    (body rest replacement : List String) :
    joinLines (Cut.spliced ⟨(splitChars before).map String.ofList, String.ofList startLine,
      body, rest⟩ replacement) =
      regionText before startLine replacement (joinChars (rest.map String.toList)) := by
  rw [joinLines_spliced_eq_regionText]
  simp only [List.map_map, Function.comp_def, String.toList_ofList, List.map_id',
    hs.lineAt.joinChars_before]

theorem update_eq (target : TargetFile) (content : String) :
    (if content = target.content then .ok (target, .unchanged)
      else .ok ({ target with content }, .replaced) : Except Error (TargetFile × Outcome)) =
      .ok (target.update content) := by
  simp only [TargetFile.update]
  split_ifs with h
  · subst h; rfl
  · rfl

/-- What the relation allows is what a rewrite returns. -/
theorem RegionRewrite.rewriteRegion_eq {target : TargetFile} {markers : MarkerPair}
    {replacement : List String} {policy : EndMarkerPolicy}
    {result : Except Error (TargetFile × Outcome)}
    (h : RegionRewrite target markers replacement policy result) :
    target.rewriteRegion markers replacement policy = result := by
  cases h with
  | skipped hnone =>
    exact TargetFile.rewriteRegion_of_absent (isMarker_eq_false_of_noLine hnone) _ _
  | @refused before startLine after hs hnone =>
    obtain ⟨hl, hm⟩ := marks_of_firstLine hs (List.append_nil _).symm
      (isMarker_eq_false_of_noLine hnone) (by simp)
    rw [TargetFile.rewriteRegion_of_marks hl hm, if_pos ⟨rfl, rfl⟩]
  | @throughEnd before startLine after hs hnone =>
    obtain ⟨hl, hm⟩ := marks_of_firstLine hs (List.append_nil _).symm
      (isMarker_eq_false_of_noLine hnone) (by simp)
    rw [TargetFile.rewriteRegion_of_marks hl hm, if_neg (by simp), update_eq,
      joinLines_spliced_of_firstLine hs]
    rfl
  | @between _ before startLine after body stopLine rest hs he =>
    have hafter : (splitChars after.tail).map String.ofList =
        (splitChars body).map String.ofList ++
          String.ofList stopLine :: (splitChars rest.tail).map String.ofList := by
      rw [he.lineAt.splitChars_eq, List.map_append, List.map_cons]
    obtain ⟨hl, hm⟩ := marks_of_firstLine hs hafter (isMarker_eq_false_of_noLine he.none_before)
      (by simpa using (isMarker_ofList _ _).2 he.holds)
    have hrest : joinChars ((String.ofList stopLine ::
        (splitChars rest.tail).map String.ofList).map String.toList) =
        terminate (stopLine ++ rest) := by
      simp [Function.comp_def, he.lineAt.terminate_line_append, joinChars_splitChars]
    rw [TargetFile.rewriteRegion_of_marks hl hm, if_neg (by simp), update_eq,
      joinLines_spliced_of_firstLine hs, hrest]

theorem exists_regionRewrite (target : TargetFile) (markers : MarkerPair)
    (replacement : List String) (policy : EndMarkerPolicy) :
    ∃ result, RegionRewrite target markers replacement policy result := by
  rcases noLine_or_firstLine (Matches markers.start) target.content.toList with
    hnone | ⟨before, startLine, after, hs⟩
  · exact ⟨_, .skipped hnone⟩
  · rcases noLine_or_firstLine (Matches markers.stop) after.tail with
      hnone | ⟨body, stopLine, rest, he⟩
    · cases policy with
      | strict => exact ⟨_, .refused hs hnone⟩
      | throughEndOfFile => exact ⟨_, .throughEnd hs hnone⟩
    · exact ⟨_, .between hs he⟩

/-- A rewrite returns the one thing that the relation allows. -/
theorem rewriteRegion_eq_iff (target : TargetFile) (markers : MarkerPair)
    (replacement : List String) (policy : EndMarkerPolicy)
    (result : Except Error (TargetFile × Outcome)) :
    target.rewriteRegion markers replacement policy = result ↔
      RegionRewrite target markers replacement policy result := by
  constructor
  · rintro rfl
    obtain ⟨result, hr⟩ := exists_regionRewrite target markers replacement policy
    rw [hr.rewriteRegion_eq]
    exact hr
  · exact RegionRewrite.rewriteRegion_eq

end BindingRegions

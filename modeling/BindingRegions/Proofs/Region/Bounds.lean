import BindingRegions.Proofs.Region.Rewrite
import Mathlib.Order.Bounds.Image

/-! Regions by their indices. `findRegion` returns the least index of a start marker line
and the least one of an end marker line behind it (`findRegion_eq_some_iff`), and splicing
goes through at just the regions that lie within the lines (`splice?_eq_some_iff`).
A rewrite whose every access to the lines is checked, `rewriteRegion?`, therefore always
returns, and returns what `rewriteRegion` does (`rewriteRegion?_eq`). -/

namespace BindingRegions

open Text

/-- The indices of the lines that match a marker. -/
def matchIndices (marker : String) (lines : List String) : Set ℕ :=
  {i | ∃ line, lines[i]? = some line ∧ Matches marker line.toList}

/-- The region starts at the first start marker line and stops at the first end marker
line behind that, or nowhere if there is none. -/
structure Region.MarkedBy (r : Region) (markers : MarkerPair) (lines : List String) : Prop where
  start : IsLeast (matchIndices markers.start lines) r.start
  stop_eq_none_iff : r.stop = none ↔ ∀ i ∈ matchIndices markers.stop lines, i ≤ r.start
  stop_eq_some_iff (stop : ℕ) : r.stop = some stop ↔
    IsLeast {i ∈ matchIndices markers.stop lines | r.start < i} stop

/-! ### Searching -/

section Search

variable {marker : String} {lines : List String}

theorem mem_matchIndices_iff {i : ℕ} :
    i ∈ matchIndices marker lines ↔ ∃ h : i < lines.length, isMarker marker lines[i] = true := by
  simp only [matchIndices, Set.mem_ofPred_eq, List.getElem?_eq_some_iff, isMarker_iff]
  constructor
  · rintro ⟨line, ⟨hi, rfl⟩, hm⟩
    exact ⟨hi, hm⟩
  · rintro ⟨hi, hm⟩
    exact ⟨_, ⟨hi, rfl⟩, hm⟩

theorem lt_length_of_mem_matchIndices {i : ℕ} (h : i ∈ matchIndices marker lines) :
    i < lines.length := (mem_matchIndices_iff.1 h).1

theorem mem_matchIndices_drop_iff {i n : ℕ} :
    i ∈ matchIndices marker (lines.drop n) ↔ n + i ∈ matchIndices marker lines := by
  simp only [matchIndices, Set.mem_ofPred_eq, List.getElem?_drop]

theorem findIdx?_isMarker_eq_some_iff {i : ℕ} :
    lines.findIdx? (isMarker marker) = some i ↔ IsLeast (matchIndices marker lines) i := by
  rw [List.findIdx?_eq_some_iff_getElem]
  constructor
  · rintro ⟨hi, hm, hbefore⟩
    refine ⟨mem_matchIndices_iff.2 ⟨hi, hm⟩, fun j hj => ?_⟩
    obtain ⟨_, hmj⟩ := mem_matchIndices_iff.1 hj
    by_contra hji
    exact hbefore j (Nat.lt_of_not_le hji) hmj
  · rintro ⟨hmem, hleast⟩
    obtain ⟨hi, hm⟩ := mem_matchIndices_iff.1 hmem
    refine ⟨hi, hm, fun j hji hmj => ?_⟩
    exact Nat.not_le.2 hji (hleast (mem_matchIndices_iff.2 ⟨hji.trans hi, hmj⟩))

theorem findIdx?_isMarker_eq_none_iff :
    lines.findIdx? (isMarker marker) = none ↔ matchIndices marker lines = ∅ := by
  rw [List.findIdx?_eq_none_iff, List.forall_mem_iff_getElem, Set.eq_empty_iff_forall_notMem]
  simp only [mem_matchIndices_iff, not_exists, Bool.not_eq_true]

/-- The matches behind a line are those of the lines behind it, counted from the first line. -/
theorem matchIndices_behind (marker : String) (lines : List String) (start : ℕ) :
    {i ∈ matchIndices marker lines | start < i} =
      (start + 1 + ·) '' matchIndices marker (lines.drop (start + 1)) := by
  ext j
  simp only [Set.mem_sep_iff, Set.mem_image, mem_matchIndices_drop_iff]
  constructor
  · rintro ⟨hj, hlt⟩
    have hsplit : start + 1 + (j - (start + 1)) = j := by omega
    exact ⟨j - (start + 1), by rwa [hsplit], hsplit⟩
  · rintro ⟨i, hi, rfl⟩
    exact ⟨hi, by omega⟩

theorem map_findIdx?_drop_eq_some_iff {start stop : ℕ} :
    ((lines.drop (start + 1)).findIdx? (isMarker marker)).map (start + 1 + ·) = some stop ↔
      IsLeast {i ∈ matchIndices marker lines | start < i} stop := by
  have hmono : StrictMono (start + 1 + ·) := fun _ _ h => Nat.add_lt_add_left h (start + 1)
  simp only [Option.map_eq_some_iff, findIdx?_isMarker_eq_some_iff, matchIndices_behind]
  constructor
  · rintro ⟨i, hi, rfl⟩
    exact hmono.map_isLeast.2 hi
  · intro h
    obtain ⟨i, -, rfl⟩ := h.1
    exact ⟨i, hmono.map_isLeast.1 h, rfl⟩

theorem map_findIdx?_drop_eq_none_iff {start : ℕ} :
    ((lines.drop (start + 1)).findIdx? (isMarker marker)).map (start + 1 + ·) = none ↔
      ∀ i ∈ matchIndices marker lines, i ≤ start := by
  have hempty : (start + 1 + ·) '' matchIndices marker (lines.drop (start + 1)) = ∅ ↔
      ∀ i ∈ matchIndices marker lines, i ≤ start := by
    rw [← matchIndices_behind, Set.sep_eq_empty_iff_mem_false]
    simp only [not_lt]
  rw [Option.map_eq_none_iff, findIdx?_isMarker_eq_none_iff, ← hempty, Set.image_eq_empty]

theorem findRegion_eq_none_iff {markers : MarkerPair} :
    findRegion lines markers = none ↔ ∀ line ∈ lines, ¬ Matches markers.start line.toList := by
  simp only [findRegion, Option.map_eq_none_iff, List.findIdx?_eq_none_iff, ← isMarker_iff,
    Bool.not_eq_true]

theorem findRegion_eq_some_iff {markers : MarkerPair} {r : Region} :
    findRegion lines markers = some r ↔ r.MarkedBy markers lines := by
  rw [findRegion, Option.map_eq_some_iff]
  constructor
  · rintro ⟨start, hs, rfl⟩
    exact ⟨findIdx?_isMarker_eq_some_iff.1 hs, map_findIdx?_drop_eq_none_iff,
      fun _ => map_findIdx?_drop_eq_some_iff⟩
  · intro h
    refine ⟨r.start, findIdx?_isMarker_eq_some_iff.2 h.start, ?_⟩
    have hstop : ((lines.drop (r.start + 1)).findIdx? (isMarker markers.stop)).map
        (r.start + 1 + ·) = r.stop :=
      Option.ext fun stop => by rw [map_findIdx?_drop_eq_some_iff, h.stop_eq_some_iff]
    rw [hstop]

theorem Region.MarkedBy.start_lt {markers : MarkerPair} {r : Region}
    (h : r.MarkedBy markers lines) : r.start < lines.length :=
  lt_length_of_mem_matchIndices h.start.1

theorem Region.MarkedBy.stop_bounds {markers : MarkerPair} {r : Region}
    (h : r.MarkedBy markers lines) {stop : ℕ} (hstop : r.stop = some stop) :
    r.start + 1 ≤ stop ∧ stop < lines.length := by
  obtain ⟨hmem, hlt⟩ := ((h.stop_eq_some_iff stop).1 hstop).1
  exact ⟨hlt, lt_length_of_mem_matchIndices hmem⟩

end Search

/-! ### Splicing -/

section Splice

variable {lines : List String} {r : Region} {replacement : List String}

theorem replaceRange?_eq_some_iff {first stop : ℕ} {body result : List String} :
    replaceRange? lines first stop body = some result ↔
      first ≤ stop ∧ stop ≤ lines.length ∧
        result = lines.take first ++ body ++ lines.drop stop := by
  rw [replaceRange?, Option.ite_none_right_eq_some, Option.some.injEq, and_assoc, eq_comm]

theorem bodyLines_eq_map (startLine : String) (replacement : List String) :
    bodyLines startLine replacement = replacement.map fun text =>
      if startLine.toList.getLast? = some '\r' then text ++ "\r" else text := by
  rw [bodyLines, endsWithReturn]
  by_cases hr : startLine.toList.getLast? = some '\r' <;> simp [hr]

/-- A splice goes through just where the start line is a line and the body a run of lines. -/
theorem splice?_eq_some_iff {result : List String} :
    splice? lines r replacement = some result ↔
      ∃ h : r.start < lines.length,
        r.start + 1 ≤ r.bodyEnd lines ∧ r.bodyEnd lines ≤ lines.length ∧
        result = lines.take (r.start + 1) ++ bodyLines lines[r.start] replacement ++
          lines.drop (r.bodyEnd lines) := by
  simp only [splice?, Option.bind_eq_bind, Option.bind_eq_some_iff, List.getElem?_eq_some_iff,
    replaceRange?_eq_some_iff]
  constructor
  · rintro ⟨startLine, ⟨h, rfl⟩, hbounds⟩
    exact ⟨h, hbounds⟩
  · rintro ⟨h, hbounds⟩
    exact ⟨_, ⟨h, rfl⟩, hbounds⟩

example : splice? ["a"] ⟨0, none⟩ ["b"] = some ["a", "b"] ∧
    splice? ["a"] ⟨0, some 2⟩ ["b"] = none ∧ splice? ["a"] ⟨1, none⟩ ["b"] = none := by decide

theorem splice?_of_fits (fits : r.Fits lines) :
    splice? lines r replacement = some (splice lines r replacement fits) :=
  splice?_eq_some_iff.2 ⟨fits.start_lt, fits.1, fits.2, rfl⟩

end Splice

/-! ### Rewriting with every access checked -/

/-- The lines from an index on; nothing if the index is beyond their end. -/
def linesFrom? (lines : List String) (first : ℕ) : Option (List String) :=
  if first ≤ lines.length then some (lines.drop first) else none

/-- As `findRegion`, with the lines behind the start marker line taken by `linesFrom?`. -/
def findRegion? (lines : List String) (markers : MarkerPair) : Option (Option Region) :=
  match lines.findIdx? (isMarker markers.start) with
  | none => some none
  | some start => do
    let behind ← linesFrom? lines (start + 1)
    return some ⟨start, (behind.findIdx? (isMarker markers.stop)).map (start + 1 + ·)⟩

/-- As `rewriteRegion`, with nothing known of the region that is found and every access to
the lines checked: nothing if one of them is out of bounds. -/
def TargetFile.rewriteRegion? (target : TargetFile) (markers : MarkerPair)
    (replacement : List String) (policy : EndMarkerPolicy) :
    Option (Except Error (TargetFile × Outcome)) := do
  let lines := splitLines target.content
  match ← findRegion? lines markers with
  | none => return .ok (target, .markerNotFound)
  | some region =>
    if region.stop = none ∧ policy = .strict then
      return .error (.missingEndMarker target.path markers.stop)
    else
      let spliced ← splice? lines region replacement
      return .ok (target.update (joinLines spliced))

theorem findRegion?_eq (lines : List String) (markers : MarkerPair) :
    findRegion? lines markers = some (findRegion lines markers) := by
  rw [findRegion?, findRegion]
  cases hs : lines.findIdx? (isMarker markers.start) with
  | none => rfl
  | some start =>
    have hlt : start < lines.length :=
      lt_length_of_mem_matchIndices (findIdx?_isMarker_eq_some_iff.1 hs).1
    simp only [linesFrom?, if_pos (Nat.succ_le_of_lt hlt)]
    rfl

theorem TargetFile.rewriteRegion?_eq (target : TargetFile) (markers : MarkerPair)
    (replacement : List String) (policy : EndMarkerPolicy) :
    target.rewriteRegion? markers replacement policy =
      some (target.rewriteRegion markers replacement policy) := by
  simp only [rewriteRegion?, findRegion?_eq, Option.bind_eq_bind, Option.bind_some]
  cases hf : findRegion (splitLines target.content) markers with
  | none =>
    rw [rewriteRegion_of_not_found hf]
    rfl
  | some region =>
    simp only [rewriteRegion_of_found hf, update_eq, splice?_of_fits (fits_of_findRegion hf)]
    split_ifs <;> rfl

/-- The search finds the first marker lines, which lie within the lines. A splice goes
through at just the regions that do, found or not. So no access of a rewrite to the lines
of a text is out of bounds. -/
theorem findRegion_splice_within (lines : List String) (markers : MarkerPair) (r : Region)
    (replacement : List String) (target : TargetFile) (policy : EndMarkerPolicy) :
    (findRegion lines markers = none ↔
        ∀ line ∈ lines, ¬ Matches markers.start line.toList) ∧
      (findRegion lines markers = some r ↔ r.MarkedBy markers lines) ∧
      (findRegion lines markers = some r → r.start < lines.length ∧
        ∀ stop, r.stop = some stop → r.start + 1 ≤ stop ∧ stop < lines.length) ∧
      (∀ result, splice? lines r replacement = some result ↔
        ∃ h : r.start < lines.length,
          r.start + 1 ≤ r.stop.getD lines.length ∧ r.stop.getD lines.length ≤ lines.length ∧
          result = lines.take (r.start + 1) ++
            (replacement.map fun text =>
              if lines[r.start].toList.getLast? = some '\r' then text ++ "\r" else text) ++
            lines.drop (r.stop.getD lines.length)) ∧
      target.rewriteRegion? markers replacement policy =
        some (target.rewriteRegion markers replacement policy) := by
  refine ⟨findRegion_eq_none_iff, findRegion_eq_some_iff, fun h => ?_, fun result => ?_,
    target.rewriteRegion?_eq markers replacement policy⟩
  · have hmarked := findRegion_eq_some_iff.1 h
    exact ⟨hmarked.start_lt, fun _ => hmarked.stop_bounds⟩
  · simp only [← bodyLines_eq_map]
    exact splice?_eq_some_iff

end BindingRegions

import BindingRegions.Text.Lines

/-! Marked regions of a text. A region is the run of lines strictly between a
start marker line and the first end marker line after it. Markers are whole
lines, compared exactly apart from one carriage return at the line's end.

`findRegion` only returns regions that fit the lines it searched
(`fits_of_findRegion`), and fitting is what `splice` asks for. `splice?` takes any
region and finds out on its way. -/

namespace BindingRegions

open Text

/-- The literal lines around a region. -/
structure MarkerPair where
  start : String
  stop : String
  deriving DecidableEq, Repr

/-- Where a region was found: the index of its start marker line, and that of
its end marker line, if one follows. -/
structure Region where
  start : Nat
  stop : Option Nat
  deriving DecidableEq, Repr

def isMarker (marker line : String) : Bool :=
  dropReturn line == marker

/-- The first start marker line and the first end marker line after it. -/
def findRegion (lines : List String) (markers : MarkerPair) : Option Region :=
  (lines.findIdx? (isMarker markers.start)).map fun start =>
    ⟨start, ((lines.drop (start + 1)).findIdx? (isMarker markers.stop)).map (start + 1 + ·)⟩

namespace Region

/-- The index of the first line after the region's body. Without an end marker
the body runs to the last line. -/
def bodyEnd (r : Region) (lines : List String) : Nat :=
  r.stop.getD lines.length

/-- The region's body, possibly empty, lies within the lines. -/
def Fits (r : Region) (lines : List String) : Prop :=
  r.start + 1 ≤ r.bodyEnd lines ∧ r.bodyEnd lines ≤ lines.length

instance (r : Region) (lines : List String) : Decidable (r.Fits lines) :=
  inferInstanceAs (Decidable (_ ∧ _))

theorem Fits.start_lt {r : Region} {lines : List String} (h : r.Fits lines) :
    r.start < lines.length := Nat.lt_of_lt_of_le h.1 h.2

end Region

/-- The lines of a body as written below the given start marker line: they take
that line's ending. -/
def bodyLines (startLine : String) (replacement : List String) : List String :=
  if endsWithReturn startLine then replacement.map (· ++ "\r") else replacement

def splice (lines : List String) (r : Region) (replacement : List String)
    (fits : r.Fits lines) : List String :=
  have := fits.start_lt
  lines.take (r.start + 1) ++ bodyLines lines[r.start] replacement
    ++ lines.drop (r.bodyEnd lines)

/-- The lines with the run from `first` up to `stop` replaced, possibly an empty one; nothing
if the two bound no run of the lines. -/
def replaceRange? (lines : List String) (first stop : Nat) (body : List String) :
    Option (List String) :=
  if first ≤ stop ∧ stop ≤ lines.length then some (lines.take first ++ body ++ lines.drop stop)
  else none

/-- As `splice`, for any region at all: nothing if its start line is no line or its body no
run of the lines. -/
def splice? (lines : List String) (r : Region) (replacement : List String) :
    Option (List String) := do
  let startLine ← lines[r.start]?
  replaceRange? lines (r.start + 1) (r.bodyEnd lines) (bodyLines startLine replacement)

theorem fits_of_findRegion {lines : List String} {markers : MarkerPair} {r : Region}
    (h : findRegion lines markers = some r) : r.Fits lines := by
  simp only [findRegion, Option.map_eq_some_iff] at h
  obtain ⟨s, hs, rfl⟩ := h
  obtain ⟨hlt, -⟩ := List.findIdx?_eq_some_iff_getElem.1 hs
  cases ht : (lines.drop (s + 1)).findIdx? (isMarker markers.stop) with
  | none => simp only [Region.Fits, Region.bodyEnd, Option.map_none, Option.getD_none]; omega
  | some t =>
    obtain ⟨hlt', -⟩ := List.findIdx?_eq_some_iff_getElem.1 ht
    simp only [List.length_drop] at hlt'
    simp only [Region.Fits, Region.bodyEnd, Option.map_some, Option.getD_some]; omega

end BindingRegions

import BindingRegions.Proofs.Yaml.Charset
import Mathlib.Data.List.Basic

/-! Places behind what has been read. `Cursor.past` is the place behind some characters from here
on; every reading of written text ends at such a place, and where that is follows from the
characters alone (`rest_past`, `index_past`, `column_past_line`). -/

namespace BindingRegions.Yaml

open ScalarText

namespace Cursor

/-- The place behind the given characters, which are those from here on. -/
def past (here : Cursor) : List Char → Cursor
  | [] => here
  | c :: chars =>
    (if isBreak c then here.newLine (here.rest.drop 1) 1 else here.skip 1).past chars

variable {here : Cursor} {c : Char} {chars front tail : List Char} {p : Char → Bool}

@[simp] theorem past_nil (here : Cursor) : here.past [] = here := rfl

theorem past_cons (here : Cursor) (c : Char) (chars : List Char) :
    here.past (c :: chars) = (here.past [c]).past chars := rfl

theorem past_append (here : Cursor) (front back : List Char) :
    here.past (front ++ back) = (here.past front).past back := by
  induction front generalizing here with
  | nil => rfl
  | cons c front ih =>
    rw [List.cons_append, past_cons, past_cons here c front]
    exact ih _

@[simp] theorem size_past (here : Cursor) (chars : List Char) : (here.past chars).size = here.size := by
  induction chars generalizing here with
  | nil => rfl
  | cons c chars ih =>
    rw [past, ih]
    split <;> rfl

@[simp] theorem index_past (here : Cursor) (chars : List Char) :
    (here.past chars).index = here.index + chars.length := by
  induction chars generalizing here with
  | nil => rfl
  | cons c chars ih =>
    rw [past, ih, List.length_cons]
    split
    · show here.index + 1 + chars.length = _
      omega
    · show here.index + 1 + chars.length = _
      omega

theorem rest_past_eq_drop (here : Cursor) (chars : List Char) :
    (here.past chars).rest = here.rest.drop chars.length := by
  induction chars generalizing here with
  | nil => rfl
  | cons c chars ih =>
    have hstep : (if isBreak c then here.newLine (here.rest.drop 1) 1 else here.skip 1).rest =
        here.rest.drop 1 := by split <;> rfl
    rw [past, ih, hstep, List.drop_drop, List.length_cons, Nat.add_comm]

theorem rest_past (h : here.rest = chars ++ tail) : (here.past chars).rest = tail := by
  rw [rest_past_eq_drop, h]
  exact List.drop_left' rfl

theorem fits_past (h : here.rest.length ≤ here.size) :
    (here.past chars).rest.length ≤ (here.past chars).size := by
  rw [size_past, rest_past_eq_drop, List.length_drop]
  omega

/-- Within a line, moving on adds to the column. -/
theorem past_eq_skip (h : ∀ c ∈ chars, isBreak c = false) : here.past chars = here.skip chars.length := by
  induction chars generalizing here with
  | nil => cases here; simp [skip]
  | cons c chars ih =>
    rw [List.forall_mem_cons] at h
    rw [past, h.1, if_neg (by decide), ih h.2]
    simp only [skip, List.drop_drop, List.length_cons, Cursor.mk.injEq, true_and, and_true]
    refine ⟨?_, ?_, ?_⟩
    · rw [Nat.add_comm]
    · omega
    · omega

theorem column_past_inline (h : ∀ c ∈ chars, isBreak c = false) :
    (here.past chars).column = here.column + chars.length := by
  rw [past_eq_skip h, skip]

theorem line_past_inline (h : ∀ c ∈ chars, isBreak c = false) :
    (here.past chars).line = here.line := by
  rw [past_eq_skip h, skip]

theorem column_past_break (hc : isBreak c = true) : (here.past [c]).column = 0 := by
  rw [past, hc, if_pos rfl]
  rfl

/-- Behind a break, the column is what has been read of the line. -/
theorem column_past_line (hc : isBreak c = true) (h : ∀ c ∈ chars, isBreak c = false) :
    (here.past (front ++ c :: chars)).column = chars.length := by
  rw [past_append, past_cons, column_past_inline h, column_past_break hc, Nat.zero_add]

theorem column_past_breaks {breaks : List Char} (hbreaks : ∀ d ∈ c :: breaks, isBreak d = true)
    (h : ∀ d ∈ chars, isBreak d = false) : (here.past (c :: breaks ++ chars)).column = chars.length := by
  induction breaks generalizing here c with
  | nil => rw [past_append, column_past_inline h, column_past_break (hbreaks c List.mem_cons_self),
      Nat.zero_add]
  | cons d breaks ih => exact ih fun e he => hbreaks e (List.mem_cons_of_mem c he)

/-- From the start of a line, over breaks to what has been read of a later line. -/
theorem column_past_lead {lead : List Char} (hcolumn : here.column = 0)
    (hlead : ∀ d ∈ lead, isBreak d = true) (h : ∀ d ∈ chars, isBreak d = false) :
    (here.past (lead ++ chars)).column = chars.length := by
  cases lead with
  | nil => rw [List.nil_append, column_past_inline h, hcolumn, Nat.zero_add]
  | cons c lead => exact column_past_breaks hlead h

/-! ### Looking and moving on -/

theorem peek_eq (h : here.rest = c :: tail) : here.peek = some c := by
  rw [peek, h, List.head?_cons]

theorem lineBreak?_of_break (h : here.rest = c :: tail) (hp : isPrintable c = true)
    (hc : isBreak c = true) : here.lineBreak? = some (c, here.past [c]) := by
  have hdrop : here.rest.drop 1 = tail := by rw [h]; rfl
  rcases (isBreak_iff_of_isPrintable hp).1 hc with rfl | rfl | rfl <;>
    simp [lineBreak?, h, past, isBreak]

theorem lineBreak?_of_not_break (h : ∀ c ∈ here.rest.head?, isBreak c = false) :
    here.lineBreak? = none := by
  rw [lineBreak?]
  cases hr : here.rest with
  | nil => rfl
  | cons c rest =>
    have hc : isBreak c = false := h c (by simp [hr])
    have hreturn : c ≠ '\r' := by
      rintro rfl
      revert hc
      decide
    split
    · rename_i hsplit
      exact absurd (List.cons.inj hsplit).1 hreturn
    · rename_i hsplit
      obtain ⟨rfl, -⟩ := List.cons.inj hsplit
      rw [hc, if_neg (by decide)]
    · rfl

theorem lineBreak?_of_inline (h : here.rest = c :: tail) (hc : isBreak c = false) :
    here.lineBreak? = none :=
  lineBreak?_of_not_break (by simp [h, hc])

theorem takeWhile_eq (h : here.rest = chars ++ tail) (hin : ∀ c ∈ chars, p c = true)
    (hout : ∀ c ∈ tail.head?, p c = false) (hinline : ∀ c ∈ chars, isBreak c = false) :
    here.takeWhile p = (chars, here.past chars) := by
  have htake : here.rest.takeWhile p = chars := by
    rw [h, List.takeWhile_append_of_pos hin]
    cases tail with
    | nil => simp
    | cons c tail => simp [hout c rfl]
  rw [takeWhile, htake, past_eq_skip hinline]

theorem skipWhile_eq (h : here.rest = chars ++ tail) (hin : ∀ c ∈ chars, p c = true)
    (hout : ∀ c ∈ tail.head?, p c = false) (hinline : ∀ c ∈ chars, isBreak c = false) :
    here.skipWhile p = here.past chars := by
  rw [skipWhile, takeWhile_eq h hin hout hinline]

theorem skipWhile_eq_self (h : ∀ c ∈ here.rest.head?, p c = false) : here.skipWhile p = here :=
  skipWhile_eq (List.nil_append _).symm (by simp) h (by simp)

theorem atMark_of_head {d : Char} {mark : List Char} (h : here.rest = c :: tail) (hc : c ≠ d) :
    here.atMark (d :: mark) = false := by
  simp [atMark, h, List.isPrefixOf, Ne.symm hc]

theorem atDocumentMark_of_column (h : here.column ≠ 0) : here.atDocumentMark = false := by
  simp [atDocumentMark, atMark, h]

end Cursor

end BindingRegions.Yaml

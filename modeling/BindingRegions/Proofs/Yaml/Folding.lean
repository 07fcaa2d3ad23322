import BindingRegions.Proofs.Yaml.Cursor
import BindingRegions.Yaml.Folding

/-! Gaps between words, read back. Of spaces all stay, and of breaks too, unless the first one is
a newline; the spaces behind a break are indentation. -/

namespace BindingRegions.Yaml.Gap

open ScalarText

variable {column fuel k : Nat} {gap : Gap} {here : Cursor} {breaks tail : List Char}

theorem read_nil (hfuel : 0 < fuel) (htail : ∀ c ∈ here.rest.head?, endsWord (some c) = false) :
    read column fuel gap here = .ok (gap, here) := by
  obtain ⟨fuel, rfl⟩ : ∃ n, fuel = n + 1 := ⟨fuel - 1, by omega⟩
  have hbreak : here.lineBreak? = none :=
    Cursor.lineBreak?_of_not_break fun c hc => (endsWord_eq_false_iff.1 (htail c hc)).2
  rw [read, hbreak]
  cases hpeek : here.peek with
  | none => rfl
  | some c =>
    have hc := (endsWord_eq_false_iff.1 (htail c hpeek)).1
    simp only [hc, Bool.false_eq_true, if_false]

theorem read_spaces (h : here.rest = spaces k ++ tail) (hgap : gap.crossed = false)
    (htail : ∀ c ∈ tail.head?, endsWord (some c) = false) (hfuel : k < fuel) :
    read column fuel gap here =
      .ok ({ gap with blanks := gap.blanks ++ spaces k }, here.past (spaces k)) := by
  induction k generalizing fuel gap here with
  | zero =>
    have hrest : here.rest = tail := by simpa using h
    rw [read_nil hfuel (hrest ▸ htail)]
    simp
  | succ k ih =>
    obtain ⟨fuel, rfl⟩ : ∃ n, fuel = n + 1 := ⟨fuel - 1, by omega⟩
    rw [spaces_succ, List.cons_append] at h
    have hblank : isBlank ' ' = true := by decide
    have hskip : here.skip 1 = here.past [' '] := rfl
    rw [read, Cursor.lineBreak?_of_inline h (by decide), Cursor.peek_eq h]
    simp only [hblank, hgap, Bool.not_false, if_true, hskip]
    have hrest : (here.past [' ']).rest = spaces k ++ tail := Cursor.rest_past h
    rw [ih hrest rfl (by omega), spaces_succ, ← Cursor.past_cons]
    simp

/-- Behind a break, spaces are passed over. -/
theorem read_indentation (h : here.rest = spaces k ++ tail) (hgap : gap.crossed = true)
    (htail : ∀ c ∈ tail.head?, endsWord (some c) = false) (hfuel : k < fuel) :
    read column fuel gap here = .ok (gap, here.past (spaces k)) := by
  induction k generalizing fuel here with
  | zero =>
    have hrest : here.rest = tail := by simpa using h
    exact read_nil hfuel (hrest ▸ htail)
  | succ k ih =>
    obtain ⟨fuel, rfl⟩ : ∃ n, fuel = n + 1 := ⟨fuel - 1, by omega⟩
    rw [spaces_succ, List.cons_append] at h
    have hblank : isBlank ' ' = true := by decide
    have htab : (' ' = '\t') = False := by decide
    have hskip : here.skip 1 = here.past [' '] := rfl
    rw [read, Cursor.lineBreak?_of_inline h (by decide), Cursor.peek_eq h]
    simp only [hblank, hgap, Bool.not_true, if_true, Bool.false_eq_true, if_false, htab, decide_false,
      Bool.false_and, hskip]
    have hrest : (here.past [' ']).rest = spaces k ++ tail := Cursor.rest_past h
    rw [ih hrest (by omega), spaces_succ, ← Cursor.past_cons]

theorem read_more_breaks (h : here.rest = breaks ++ (spaces k ++ tail)) (hgap : gap.crossed = true)
    (hbreaks : ∀ c ∈ breaks, isPrintable c = true ∧ isBreak c = true)
    (htail : ∀ c ∈ tail.head?, endsWord (some c) = false) (hfuel : breaks.length + k < fuel) :
    read column fuel gap here =
      .ok ({ gap with trailing := gap.trailing ++ breaks }, here.past (breaks ++ spaces k)) := by
  induction breaks generalizing fuel gap here with
  | nil =>
    rw [read_indentation h hgap htail (by simpa using hfuel)]
    simp
  | cons c breaks ih =>
    obtain ⟨fuel, rfl⟩ : ∃ n, fuel = n + 1 := ⟨fuel - 1, by omega⟩
    rw [List.forall_mem_cons] at hbreaks
    rw [List.length_cons] at hfuel
    rw [List.cons_append] at h
    rw [read, Cursor.lineBreak?_of_break h hbreaks.1.1 hbreaks.1.2]
    simp only [hgap, if_true]
    have hrest : (here.past [c]).rest = breaks ++ (spaces k ++ tail) := Cursor.rest_past h
    rw [ih hrest rfl hbreaks.2 (by omega), List.cons_append, ← Cursor.past_cons]
    simp

theorem read_breaks {c : Char} (h : here.rest = c :: breaks ++ (spaces k ++ tail))
    (hgap : gap.crossed = false)
    (hbreaks : ∀ d ∈ c :: breaks, isPrintable d = true ∧ isBreak d = true)
    (htail : ∀ d ∈ tail.head?, endsWord (some d) = false) (hfuel : breaks.length + 1 + k < fuel) :
    read column fuel gap here =
      .ok ({ leading := some c, trailing := breaks, crossed := true },
        here.past (c :: breaks ++ spaces k)) := by
  obtain ⟨fuel, rfl⟩ : ∃ n, fuel = n + 1 := ⟨fuel - 1, by omega⟩
  rw [List.forall_mem_cons] at hbreaks
  rw [List.cons_append] at h
  rw [read, Cursor.lineBreak?_of_break h hbreaks.1.1 hbreaks.1.2]
  simp only [hgap, Bool.false_eq_true, if_false]
  have hrest : (here.past [c]).rest = breaks ++ (spaces k ++ tail) := Cursor.rest_past h
  rw [read_more_breaks hrest rfl hbreaks.2 htail (by omega), List.cons_append, ← Cursor.past_cons]
  simp

/-! ### Gaps from their start -/

theorem read_spaces_fresh (column : Nat) (h : here.rest = spaces k ++ tail)
    (htail : ∀ c ∈ tail.head?, endsWord (some c) = false) (hsize : here.rest.length ≤ here.size) :
    read column (here.size + 1) {} here = .ok ({ blanks := spaces k }, here.past (spaces k)) := by
  rw [h, List.length_append, length_spaces] at hsize
  exact read_spaces h rfl htail (by omega)

theorem read_breaks_fresh {c : Char} (column : Nat) (h : here.rest = c :: breaks ++ (spaces k ++ tail))
    (hbreaks : ∀ d ∈ c :: breaks, isPrintable d = true ∧ isBreak d = true)
    (htail : ∀ d ∈ tail.head?, endsWord (some d) = false) (hsize : here.rest.length ≤ here.size) :
    read column (here.size + 1) {} here =
      .ok ({ leading := some c, trailing := breaks, crossed := true },
        here.past (c :: breaks ++ spaces k)) := by
  rw [h] at hsize
  simp only [List.length_append, List.length_cons, length_spaces] at hsize
  exact read_breaks h rfl hbreaks htail (by omega)

end BindingRegions.Yaml.Gap

import BindingRegions.Text.Lowercase
import Mathlib.Tactic.Common

/-! What lower-casing keeps. No letter stands in front of the first capital in the order of
characters, and none has its small form there, so the characters from there stay where
they are, and none is added (`mem_lowercase_iff`). -/

namespace BindingRegions.Text

variable {d : Char}

theorem toLower_eq_iff (hd : d.toNat < 0x41) {c : Char} (hc : c.toNat < 0x80) :
    c.toLower = d ↔ c = d := by
  have hall : ∀ n < 0x80, (Char.ofNat n).toLower = Char.ofNat n ∨
      0x41 ≤ (Char.ofNat n).toLower.toNat ∧ 0x41 ≤ (Char.ofNat n).toNat := by
    decide +kernel
  rcases hall c.toNat hc with h | ⟨hlower, hcapital⟩ <;> rw [Char.ofNat_toNat] at *
  · rw [h]
  · constructor <;> rintro rfl <;> omega

/-- A number that is no character's stands for the null character. -/
theorem ofNat_ne (h0 : 0 < d.toNat) {n : Nat} (hn : d.toNat < n) : Char.ofNat n ≠ d := by
  rintro rfl
  by_cases hvalid : n.isValidChar
  · have hval : (Char.ofNat n).toNat = n := by
      rw [Char.ofNat, dif_pos hvalid]
      rfl
    omega
  · rw [Char.ofNat, dif_neg hvalid] at h0
    exact absurd h0 (by decide)

/-- The small letters of a run of capital ones all lie behind the first capital. -/
theorem lt_lower : ∀ run ∈ caseRuns, 0x41 < run.lower := by
  decide +kernel

theorem mem_lowerChar_iff (h0 : 0 < d.toNat) (hd : d.toNat < 0x41) (c : Char) :
    d ∈ lowerChar c ↔ c = d := by
  unfold lowerChar
  split
  · rename_i hascii
    rw [List.mem_singleton, eq_comm, toLower_eq_iff hd hascii]
  · rename_i hascii
    have hc : c ≠ d := by
      rintro rfl
      omega
    simp only [hc, iff_false]
    split
    · have hi : 'i'.toNat = 0x69 := by decide
      have hdot : '\u0307'.toNat = 0x307 := by decide
      simp only [List.mem_cons, List.not_mem_nil, or_false, not_or]
      constructor <;> rintro rfl <;> omega
    · split
      · rename_i run hrun
        have hlower := lt_lower run (List.mem_of_find?_eq_some hrun)
        rw [List.mem_singleton]
        exact Ne.symm (ofNat_ne h0 (by omega))
      · rw [List.mem_singleton]
        exact Ne.symm hc

theorem mem_lowerAfter_iff (h0 : 0 < d.toNat) (hd : d.toNat < 0x41) (before chars : List Char) :
    d ∈ lowerAfter before chars ↔ d ∈ chars := by
  induction chars generalizing before with
  | nil => rfl
  | cons c rest ih =>
    have hlower : d ∈ (if c = 'Σ' then
        [if startsCased before && !startsCased rest then 'ς' else 'σ'] else lowerChar c) ↔
        c = d := by
      split
      · rename_i hc
        subst hc
        have hsigma : 'Σ'.toNat = 0x3A3 ∧ 'ς'.toNat = 0x3C2 ∧ 'σ'.toNat = 0x3C3 := by decide
        have hne : 'Σ' ≠ d := by
          rintro rfl
          omega
        rw [List.mem_singleton]
        simp only [hne, iff_false]
        split <;> rintro rfl <;> omega
      · exact mem_lowerChar_iff h0 hd c
    rw [lowerAfter, List.mem_append, hlower, ih, List.mem_cons, eq_comm]

/-- Lower-casing neither makes nor removes characters in front of the letters. -/
theorem mem_lowercase_iff (h0 : 0 < d.toNat) (hd : d.toNat < 0x41) (text : String) :
    d ∈ (lowercase text).toList ↔ d ∈ text.toList := by
  rw [lowercase, String.toList_ofList, mem_lowerAfter_iff h0 hd]

end BindingRegions.Text

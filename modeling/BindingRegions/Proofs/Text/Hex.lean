import BindingRegions.Text.Character
import Mathlib.Tactic.Ring

/-! Hexadecimal digits read back: the last digits of a number, in upper case, are those of its
remainder. -/

namespace BindingRegions.Text

theorem hexValue?_toUpper_hexDigit : ∀ d < 16, hexValue? (hexDigit d).toUpper = some d := by decide

theorem length_hexPadded (count n : Nat) : (hexPadded count n).length = count := by
  simp [hexPadded]

/-- The digits start with the one of the highest place. -/
theorem hexPadded_succ (count n : Nat) :
    hexPadded (count + 1) n = hexDigit (n / 16 ^ count % 16) :: hexPadded count n := by
  rw [hexPadded, List.range_succ, List.map_append, List.reverse_append]
  rfl

theorem mem_hexPadded {count n : Nat} {c : Char} (h : c ∈ hexPadded count n) :
    ∃ d < 16, c = hexDigit d := by
  simp only [hexPadded, List.mem_reverse, List.mem_map] at h
  obtain ⟨place, -, rfl⟩ := h
  exact ⟨_, Nat.mod_lt _ (by decide), rfl⟩

theorem foldlM_hexValue? (count n start : Nat) :
    ((hexPadded count n).map Char.toUpper).foldlM
        (fun n c => (hexValue? c).map (16 * n + ·)) start =
      some (16 ^ count * start + n % 16 ^ count) := by
  induction count generalizing start with
  | zero => simp [hexPadded, Nat.mod_one]
  | succ count ih =>
    have hdigit := hexValue?_toUpper_hexDigit (n / 16 ^ count % 16) (Nat.mod_lt _ (by decide))
    rw [hexPadded_succ, List.map_cons, List.foldlM_cons, hdigit, Option.map_some, Option.bind_eq_bind,
      Option.bind_some, ih, Nat.pow_succ, Nat.mod_mul]
    congr 1
    ring

/-- A number with enough digits is read back. -/
theorem hexNumber?_hexPadded {count n : Nat} (h : n < 16 ^ count) :
    hexNumber? ((hexPadded count n).map Char.toUpper) = some n := by
  rw [hexNumber?, foldlM_hexValue?, Nat.mul_zero, Nat.zero_add, Nat.mod_eq_of_lt h]

end BindingRegions.Text

import BindingRegions.Yaml.ScalarText

/-! What the character classes have to do with one another. A character that needs no escape
may stand in a text, is no tab, and ends a line only if it is a newline or one of the two
Unicode separators; those are the breaks that a reader hands on as they are. -/

namespace BindingRegions.Yaml

open ScalarText

variable {c d : Char} {p q : Char → Bool} {chars : List Char}

/-- What can be decided of each character, decided of a list of them. Deciding the quantifier itself
may run through all characters there are. -/
theorem forall_mem_of_all {P : Char → Prop} [DecidablePred P] (h : (chars.all fun c => P c) = true) :
    ∀ c ∈ chars, P c := by
  simpa using h

theorem isBlank_iff : isBlank c = true ↔ c = ' ' ∨ c = '\t' := by
  simp [isBlank]

theorem isBreak_iff : isBreak c = true ↔
    c = '\n' ∨ c = '\r' ∨ c = '\u0085' ∨ c = '\u2028' ∨ c = '\u2029' := by
  simp [isBreak, or_assoc]

theorem endsWord_some : endsWord (some c) = (isBlank c || isBreak c) := rfl

theorem endsWord_eq_false_iff :
    endsWord (some c) = false ↔ isBlank c = false ∧ isBreak c = false := by
  rw [endsWord_some, Bool.or_eq_false_iff]

theorem ne_of_endsWord (hc : endsWord (some c) = false) (hd : endsWord (some d) = true) : c ≠ d := by
  rintro rfl
  exact Bool.noConfusion (hc.symm.trans hd)

theorem isAllowed_of_isPrintable (h : isPrintable c = true) : isAllowed c = true := by
  simp only [isPrintable, isAllowed, Bool.or_eq_true, Bool.and_eq_true, decide_eq_true_eq, bne_iff_ne,
    beq_iff_eq] at h ⊢
  omega

theorem ne_tab_of_isPrintable (h : isPrintable c = true) : c ≠ '\t' := by
  rintro rfl
  revert h
  decide

/-- Of the characters that end a line, these three need no escape. -/
theorem isBreak_iff_of_isPrintable (h : isPrintable c = true) :
    isBreak c = true ↔ c = '\n' ∨ c = '\u2028' ∨ c = '\u2029' := by
  have hreturn : c ≠ '\r' := by
    rintro rfl
    revert h
    decide
  have hnext : c ≠ '\u0085' := by
    rintro rfl
    revert h
    decide
  simp [isBreak_iff, hreturn, hnext]

theorem isBlank_iff_of_isPrintable (h : isPrintable c = true) : isBlank c = true ↔ c = ' ' := by
  rw [isBlank_iff]
  exact or_iff_left (ne_tab_of_isPrintable h)

theorem endsWord_of_isPrintable (h : isPrintable c = true) (hspace : c ≠ ' ') (hbreak : isBreak c = false) :
    endsWord (some c) = false := by
  refine endsWord_eq_false_iff.2 ⟨?_, hbreak⟩
  rwa [← Bool.not_eq_true, isBlank_iff_of_isPrintable h]

/-- The names of fields and policies: lower-case words joined by underscores. -/
def IsName (chars : List Char) : Prop :=
  chars ≠ [] ∧ ∀ c ∈ chars, (c = '_' || c.isLower) = true

instance (chars : List Char) : Decidable (IsName chars) :=
  decidable_of_iff (chars ≠ [] ∧ (chars.all fun c => c = '_' || c.isLower) = true)
    (and_congr_right' List.all_eq_true)

theorem ne_of_name (hc : (c = '_' || c.isLower) = true) (hd : (d = '_' || d.isLower) = false) :
    c ≠ d := by
  rintro rfl
  exact Bool.noConfusion (hc.symm.trans hd)

theorem endsWord_of_name (hc : (c = '_' || c.isLower) = true) : endsWord (some c) = false := by
  refine endsWord_eq_false_iff.2 ⟨?_, ?_⟩
  · rw [← Bool.not_eq_true, isBlank_iff, not_or]
    exact ⟨ne_of_name hc (by decide), ne_of_name hc (by decide)⟩
  · simp only [← Bool.not_eq_true, isBreak_iff, not_or]
    exact ⟨ne_of_name hc (by decide), ne_of_name hc (by decide), ne_of_name hc (by decide),
      ne_of_name hc (by decide), ne_of_name hc (by decide)⟩

theorem isBreak_of_isName (h : IsName chars) : ∀ c ∈ chars, isBreak c = false := fun c hc =>
  (endsWord_eq_false_iff.1 (endsWord_of_name (h.2 c hc))).2

theorem isPrintable_of_name (hc : (c = '_' || c.isLower) = true) : isPrintable c = true := by
  have hlower : c.isLower = (decide ('a'.val ≤ c.val) && decide (c.val ≤ 'z'.val)) := rfl
  simp only [Bool.or_eq_true, decide_eq_true_eq, hlower, Bool.and_eq_true, UInt32.le_iff_toNat_le] at hc
  obtain rfl | ⟨hlow, hhigh⟩ := hc
  · decide
  · have hlow : 97 ≤ c.toNat := hlow
    have hhigh : c.toNat ≤ 122 := hhigh
    simp only [isPrintable, Bool.or_eq_true, Bool.and_eq_true, decide_eq_true_eq]
    omega

/-- Spaces for indentation and between words. -/
def spaces (n : Nat) : List Char := List.replicate n ' '

@[simp] theorem spaces_zero : spaces 0 = [] := rfl

theorem spaces_succ (n : Nat) : spaces (n + 1) = ' ' :: spaces n := rfl

@[simp] theorem length_spaces (n : Nat) : (spaces n).length = n := List.length_replicate

theorem eq_space_of_mem_spaces {n : Nat} (h : c ∈ spaces n) : c = ' ' := List.eq_of_mem_replicate h

theorem getLast?_spaces_succ (n : Nat) : (spaces (n + 1)).getLast? = some ' ' := by
  rw [spaces, List.replicate_succ', List.getLast?_concat]

theorem isBreak_spaces {n : Nat} : ∀ c ∈ spaces n, isBreak c = false := by
  intro c hc
  rw [eq_space_of_mem_spaces hc]
  decide

/-! ### Neighbours -/

theorem hasPair_cons_cons (p q : Char → Bool) (c d : Char) (chars : List Char) :
    hasPair p q (c :: d :: chars) = (p c && q d || hasPair p q (d :: chars)) := by
  simp [hasPair]

theorem hasPair_of_cons (h : hasPair p q (c :: chars) = false) : hasPair p q chars = false := by
  cases chars with
  | nil => rfl
  | cons d chars =>
    rw [hasPair_cons_cons, Bool.or_eq_false_iff] at h
    exact h.2

theorem hasPair_of_append {front back : List Char} (h : hasPair p q (front ++ back) = false) :
    hasPair p q back = false := by
  induction front with
  | nil => exact h
  | cons c front ih => exact ih (hasPair_of_cons h)

/-- What follows a character of the first class is not of the second. -/
theorem hasPair_head (h : hasPair p q (c :: chars) = false) (hc : p c = true) :
    ∀ d ∈ chars.head?, q d = false := by
  cases chars with
  | nil => simp
  | cons d chars =>
    rw [hasPair_cons_cons, hc, Bool.true_and, Bool.or_eq_false_iff] at h
    simpa using h.1

/-- What follows a text that ends in the first class does not start in the second. -/
theorem hasPair_join {front back : List Char} (h : hasPair p q (front ++ back) = false)
    (hlast : front.getLast? = some c) (hc : p c = true) : ∀ d ∈ back.head?, q d = false := by
  obtain ⟨front, rfl⟩ := List.getLast?_eq_some_iff.1 hlast
  rw [List.append_assoc] at h
  exact hasPair_head (hasPair_of_append h) hc

end BindingRegions.Yaml

import BindingRegions.Proofs.Yaml.Charset

/-! Indented lines: text without breaks stands as it is, and so do breaks; what follows them is
indented, unless it is a break again. -/

namespace BindingRegions.Yaml.ScalarText

variable {n : Nat} {fresh : Bool} {c : Char} {front back breaks : List Char}

theorem indentLines_inline (h : ∀ c ∈ front, isBreak c = false) :
    indentLines n false (front ++ back) = front ++ indentLines n false back := by
  induction front with
  | nil => rfl
  | cons c front ih =>
    rw [List.forall_mem_cons] at h
    rw [List.cons_append, indentLines, h.1, ih h.2]
    rfl

theorem indentLines_breaks (h : ∀ c ∈ breaks, isBreak c = true) :
    indentLines n true (breaks ++ back) = breaks ++ indentLines n true back := by
  induction breaks with
  | nil => rfl
  | cons c breaks ih =>
    rw [List.forall_mem_cons] at h
    rw [List.cons_append, indentLines, h.1, if_pos rfl, ih h.2]
    rfl

theorem indentLines_of_inline (h : ∀ c ∈ front, isBreak c = false) :
    indentLines n false front = front := by
  rw [← List.append_nil front, indentLines_inline h]
  rfl

theorem indentLines_of_breaks (h : ∀ c ∈ breaks, isBreak c = true) :
    indentLines n true breaks = breaks := by
  rw [← List.append_nil breaks, indentLines_breaks h]
  rfl

theorem indentLines_break_cons (hc : isBreak c = true) :
    indentLines n fresh (c :: back) = c :: indentLines n true back := by
  rw [indentLines, hc, if_pos rfl]

theorem indentLines_fresh (hc : isBreak c = false) :
    indentLines n true (c :: back) = spaces n ++ indentLines n false (c :: back) := by
  rw [indentLines, indentLines, hc]
  rfl

theorem indentLines_append_breaks (h : ∀ c ∈ breaks, isBreak c = true) :
    indentLines n fresh (front ++ breaks) = indentLines n fresh front ++ breaks := by
  induction front generalizing fresh with
  | nil =>
    cases breaks with
    | nil => rfl
    | cons c breaks =>
      rw [List.forall_mem_cons] at h
      rw [List.nil_append, indentLines_break_cons h.1, indentLines_of_breaks h.2]
      rfl
  | cons c front ih =>
    rw [List.cons_append, indentLines, indentLines, ih, ih]
    split
    · rfl
    · rw [List.append_assoc, List.cons_append]

theorem getLast?_indentLines (n : Nat) (fresh : Bool) (chars : List Char) :
    (indentLines n fresh chars).getLast? = chars.getLast? := by
  induction chars generalizing fresh with
  | nil => rfl
  | cons c chars ih =>
    rw [indentLines]
    split
    · rw [List.getLast?_cons, List.getLast?_cons, ih]
    · rw [List.getLast?_append, List.getLast?_cons, List.getLast?_cons, ih]
      rfl

theorem mem_indentLines {chars : List Char} (h : c ∈ indentLines n fresh chars) : c = ' ' ∨ c ∈ chars := by
  induction chars generalizing fresh with
  | nil => simp [indentLines] at h
  | cons d chars ih =>
    rw [indentLines] at h
    split at h
    · obtain rfl | h := List.mem_cons.1 h
      · simp
      · exact (ih h).imp_right (List.mem_cons_of_mem d)
    · obtain h | h := List.mem_append.1 h
      · split at h
        · exact .inl (List.eq_of_mem_replicate h)
        · simp at h
      · obtain rfl | h := List.mem_cons.1 h
        · simp
        · exact (ih h).imp_right (List.mem_cons_of_mem d)

end BindingRegions.Yaml.ScalarText

import BindingRegions.Proofs.Text.Lines

/-! Lines at their places. A line is a longest piece of a text without newlines; the
newline at a text's end opens none. What splitting finds are exactly these
(`LineAt.splitChars_eq`, `exists_lineAt`), so that a property can be looked for along
the text or along its list of lines. -/

namespace BindingRegions.Text

/-- The text is `before`, then a line of it, then `after`. -/
structure LineAt (text before line after : List Char) : Prop where
  text_eq : text = before ++ line ++ after
  newline_not_mem : '\n' ∉ line
  opens : before = [] ∨ before.getLast? = some '\n'
  ends : after = [] ∨ after.head? = some '\n'
  ne_nil : line ≠ [] ∨ after ≠ []

/-- No line of the text has the property. -/
def NoLine (p : List Char → Prop) (text : List Char) : Prop :=
  ∀ before line after, LineAt text before line after → ¬ p line

/-- The first line of the text that has the property, at its place. -/
structure FirstLine (p : List Char → Prop) (text before line after : List Char) : Prop where
  lineAt : LineAt text before line after
  holds : p line
  none_before : NoLine p before

variable {text before line after : List Char} {p : List Char → Prop}

theorem terminate_eq_self (h : text = [] ∨ text.getLast? = some '\n') : terminate text = text := by
  rw [terminate_eq_ite, if_pos h]

theorem joinLines_splitLines_of_newline {content : String}
    (h : content.toList.getLast? = some '\n') : joinLines (splitLines content) = content := by
  rw [joinLines_splitLines, if_pos (.inr h)]

namespace LineAt

theorem after_eq (h : LineAt text before line after) (hne : after ≠ []) :
    after = '\n' :: after.tail := by
  cases after with
  | nil => exact absurd rfl hne
  | cons c after => have := h.ends; simp_all

theorem joinChars_before (h : LineAt text before line after) :
    joinChars (splitChars before) = before := by
  rw [joinChars_splitChars, terminate_eq_self h.opens]

theorem terminate_line_append (h : LineAt text before line after) :
    terminate (line ++ after) = line ++ '\n' :: terminate after.tail := by
  by_cases ha : after = []
  · subst ha
    rw [List.append_nil, terminate_line h.newline_not_mem (by simpa using h.ne_nil)]
    rfl
  · rw [h.after_eq ha, List.tail_cons, ← List.singleton_append, ← List.append_assoc]
    by_cases ht : after.tail = []
    · simp [ht, terminate_of_newline]
    · rw [terminate_append _ ht]; simp

theorem splitChars_eq (h : LineAt text before line after) :
    splitChars text = splitChars before ++ line :: splitChars after.tail := by
  rw [h.text_eq, ← h.joinChars_before, List.append_assoc,
    splitChars_joinChars_append fun _ => newline_not_mem_of_mem_splitChars,
    h.joinChars_before]
  congr 1
  by_cases ha : after = []
  · subst ha
    rw [List.append_nil, splitChars_line h.newline_not_mem (by simpa using h.ne_nil)]
    rfl
  · rw [h.after_eq ha, splitChars_line_append h.newline_not_mem, List.tail_cons]

end LineAt

/-- Every line that splitting finds stands at a place of the text. -/
theorem exists_lineAt {xs ys : List (List Char)} (h : splitChars text = xs ++ line :: ys) :
    ∃ before after, LineAt text before line after ∧
      splitChars before = xs ∧ splitChars after.tail = ys := by
  induction xs generalizing text with
  | nil =>
    obtain ⟨hline, ⟨rfl, hne, rfl⟩ | ⟨rest, rfl, hrest⟩⟩ := splitChars_eq_cons h
    · exact ⟨[], [], ⟨by simp, hline, .inl rfl, .inl rfl, .inl hne⟩, rfl, rfl⟩
    · exact ⟨[], '\n' :: rest, ⟨by simp, hline, .inl rfl, .inr rfl, .inr (by simp)⟩, rfl, hrest⟩
  | cons x xs ih =>
    obtain ⟨hx, ⟨-, -, hnil⟩ | ⟨rest, rfl, hrest⟩⟩ := splitChars_eq_cons h
    · simp at hnil
    · obtain ⟨before, after, hat, hxs, hys⟩ := ih hrest
      refine ⟨x ++ '\n' :: before, after, ⟨?_, hat.newline_not_mem, .inr ?_, hat.ends, hat.ne_nil⟩,
        ?_, hys⟩
      · rw [hat.text_eq]; simp
      · rcases hat.opens with rfl | hlast
        · simp
        · simp [List.getLast?_append, List.getLast?_cons, hlast]
      · rw [splitChars_line_append hx, hxs]

theorem noLine_iff : NoLine p text ↔ ∀ line ∈ splitChars text, ¬ p line := by
  constructor
  · intro h line hline
    obtain ⟨xs, ys, hs⟩ := List.append_of_mem hline
    obtain ⟨before, after, hat, -⟩ := exists_lineAt hs
    exact h before line after hat
  · intro h before line after hat
    exact h line (by rw [hat.splitChars_eq]; simp)

/-- Either no line has a property, or there is a first one. -/
theorem noLine_or_firstLine (p : List Char → Prop) (text : List Char) :
    NoLine p text ∨ ∃ before line after, FirstLine p text before line after := by
  classical
  cases hf : (splitChars text).find? (decide <| p ·) with
  | none =>
    left
    rw [noLine_iff]
    simpa using hf
  | some line =>
    right
    obtain ⟨hp, xs, ys, hs, hxs⟩ := List.find?_eq_some_iff_append.1 hf
    obtain ⟨before, after, hat, hb, -⟩ := exists_lineAt hs
    refine ⟨before, line, after, hat, by simpa using hp, noLine_iff.2 ?_⟩
    rw [hb]
    simpa using hxs

end BindingRegions.Text

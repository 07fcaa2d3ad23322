import BindingRegions.Proofs.Text.Hex
import BindingRegions.Proofs.Yaml.Indentation

/-! The four styles in which a text may be written, what each asks of it, and that all of them
keep to the characters that a text may have. -/

namespace BindingRegions.Yaml.ScalarText

variable {n : Nat} {chars scalar : List Char} {c : Char}

/-- The scalar for a text, and why it has its style. -/
inductive Styled (n : Nat) (chars : List Char) : List Char → Prop
  | literal (hfits : fitsLiteral chars = true) : Styled n chars (literal n chars)
  | plain (hfits : fitsPlain chars = true) (hne : chars ≠ []) : Styled n chars chars
  | single (hfits : fitsSingle chars = true) (hnewline : '\n' ∉ chars) :
      Styled n chars (singleQuoted n chars)
  | double : Styled n chars (doubleQuoted chars)

theorem styled_write (n : Nat) (text : String) : Styled n text.toList (write n text) := by
  rw [write]
  split_ifs with hnewline hliteral hplain hsingle
  · exact .literal hliteral
  · exact .double
  · rw [Bool.and_eq_true] at hplain
    refine .plain hplain.2 fun hempty => ?_
    obtain rfl : text = "" := by simpa using hempty
    exact absurd hplain.1 (by decide)
  · exact .single hsingle (by simpa using hnewline)
  · exact .double

theorem all_isPrintable_of_isRegular (h : isRegular chars = true) :
    ∀ c ∈ chars, isPrintable c = true := by
  simp only [isRegular, Bool.and_eq_true, List.all_eq_true] at h
  exact h.1

theorem isPrintable_escapeLetter {letter : Char} (h : escapeLetter? c = some letter) :
    isPrintable letter = true := by
  unfold escapeLetter? at h
  split at h <;> first | contradiction | (obtain rfl := Option.some.inj h; decide)

theorem mem_upperHex {count m : Nat} (h : c ∈ upperHex count m) :
    ∃ digit < 16, c = (Text.hexDigit digit).toUpper := by
  obtain ⟨d, hd, rfl⟩ := List.mem_map.1 h
  obtain ⟨digit, hdigit, rfl⟩ := Text.mem_hexPadded hd
  exact ⟨digit, hdigit, rfl⟩

theorem isPrintable_of_mem_upperHex {count m : Nat} (h : c ∈ upperHex count m) : isPrintable c = true := by
  obtain ⟨digit, hdigit, rfl⟩ := mem_upperHex h
  exact (by decide : ∀ digit < 16, isPrintable (Text.hexDigit digit).toUpper = true) digit hdigit

theorem isPrintable_of_mem_escape {d : Char} (h : d ∈ escape c) : isPrintable d = true := by
  have hmark : isPrintable '\\' = true := by decide
  rw [escape] at h
  split at h
  next letter hletter =>
    obtain rfl | rfl : d = '\\' ∨ d = letter := by simpa using h
    · exact hmark
    · exact isPrintable_escapeLetter hletter
  next =>
    have hdigits : ∀ mark count, isPrintable mark = true → d ∈ '\\' :: mark :: upperHex count c.toNat →
        isPrintable d = true := by
      rintro mark count hmark' hd
      obtain rfl | hd := List.mem_cons.1 hd
      · exact hmark
      obtain rfl | hd := List.mem_cons.1 hd
      · exact hmark'
      · exact isPrintable_of_mem_upperHex hd
    split_ifs at h with hprintable
    · rwa [List.mem_singleton.1 h]
    · exact hdigits 'x' 2 (by decide) h
    · exact hdigits 'u' 4 (by decide) h
    · exact hdigits 'U' 8 (by decide) h

theorem isPrintable_of_mem_literalHeader (h : c ∈ literalHeader chars) : isPrintable c = true := by
  have hmarks : c ∈ ['|', '2', '-', '+'] := by
    rw [literalHeader] at h
    revert h
    split_ifs <;> split <;> try split_ifs
    all_goals simp +contextual [or_imp]
  have hprintable : ∀ d ∈ ['|', '2', '-', '+'], isPrintable d = true := forall_mem_of_all (by decide)
  exact hprintable c hmarks

theorem isPrintable_of_mem_indentLines {fresh : Bool} (hchars : ∀ d ∈ chars, isPrintable d = true)
    (h : c ∈ indentLines n fresh chars) : isPrintable c = true := by
  obtain rfl | h := mem_indentLines h
  · decide
  · exact hchars c h

theorem isPrintable_of_mem_literal (hchars : ∀ d ∈ chars, isPrintable d = true) (h : c ∈ literal n chars) :
    isPrintable c = true := by
  rw [literal, List.mem_append, List.mem_cons] at h
  obtain h | rfl | h := h
  · exact isPrintable_of_mem_literalHeader h
  · decide
  · exact isPrintable_of_mem_indentLines hchars h

theorem isPrintable_of_mem_singleQuoted (hchars : ∀ d ∈ chars, isPrintable d = true)
    (h : c ∈ singleQuoted n chars) : isPrintable c = true := by
  have hforms : ∀ d ∈ chars.flatMap fun c => if c = '\'' then [c, c] else [c], isPrintable d = true := by
    intro d hd
    obtain ⟨e, he, hd⟩ := List.mem_flatMap.1 hd
    obtain rfl : d = e := by split at hd <;> simpa using hd
    exact hchars d he
  simp only [singleQuoted, List.cons_append, List.append_assoc, List.mem_cons, List.mem_append,
    List.not_mem_nil, or_false] at h
  obtain rfl | h | h | rfl := h
  · decide
  · exact isPrintable_of_mem_indentLines hforms h
  · split at h
    · rw [List.eq_of_mem_replicate h]
      decide
    · simp at h
  · decide

theorem isPrintable_of_mem_doubleQuoted (h : c ∈ doubleQuoted chars) : isPrintable c = true := by
  simp only [doubleQuoted, List.cons_append, List.mem_cons, List.mem_append, List.not_mem_nil,
    or_false] at h
  obtain rfl | h | rfl := h
  · decide
  · obtain ⟨d, -, h⟩ := List.mem_flatMap.1 h
    exact isPrintable_of_mem_escape h
  · decide

theorem Styled.all_isPrintable (h : Styled n chars scalar) : ∀ c ∈ scalar, isPrintable c = true := by
  intro c hc
  cases h with
  | literal hfits =>
    simp only [fitsLiteral, Bool.and_eq_true] at hfits
    exact isPrintable_of_mem_literal (all_isPrintable_of_isRegular hfits.1.1) hc
  | plain hfits =>
    simp only [fitsPlain, Bool.and_eq_true] at hfits
    exact all_isPrintable_of_isRegular hfits.1.1.1.1 c hc
  | single hfits =>
    simp only [fitsSingle, Bool.and_eq_true] at hfits
    exact isPrintable_of_mem_singleQuoted (all_isPrintable_of_isRegular hfits.1) hc
  | double => exact isPrintable_of_mem_doubleQuoted hc

end BindingRegions.Yaml.ScalarText

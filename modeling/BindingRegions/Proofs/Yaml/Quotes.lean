import BindingRegions.Proofs.Yaml.QuotedScalar
import BindingRegions.Proofs.Yaml.ScalarText

/-! The two styles of quotes. Between single quotes every character but the quote stands for
itself, and lines may be parted by the two Unicode separators; between double quotes every
text lies on one line. -/

namespace BindingRegions.Yaml

open ScalarText

namespace QuotedScalar

variable {chars next : List Char} {n : Nat} {here : Cursor} {c letter : Char}

/-! ### Single quotes -/

theorem writes_single (hchars : ∀ c ∈ chars, isPrintable c = true) (hnewline : '\n' ∉ chars) :
    Writes true (fun c => if c = '\'' then [c, c] else [c]) isBreak chars where
  space := by decide
  ends c hc hbreak := by
    have hne : c ≠ '\'' := by
      rintro rfl
      exact absurd hbreak (by decide)
    exact ⟨if_neg hne, hchars c hc, hbreak, fun h => hnewline (h ▸ hc)⟩
  solid c hc hspace hbreak := by
    have hends := endsWord_of_isPrintable (hchars c hc) hspace hbreak
    split <;> simp [hends]
  step c hc hspace hbreak {here tail} hrest {fuel word' after} hword := by
    have hends := endsWord_of_isPrintable (hchars c hc) hspace hbreak
    rw [Cursor.past_eq_skip (by split <;> simp [hbreak])] at hword
    rw [word]
    by_cases hquote : c = '\''
    · subst hquote
      rw [if_pos rfl] at hrest hword
      simp_all
    · rw [if_neg hquote] at hrest hword
      simp_all

/-! ### Double quotes -/

theorem escaped?_of_escapeLetter? (h : escapeLetter? c = some letter) :
    escaped? letter = some c ∧ endsWord (some letter) = false := by
  unfold escapeLetter? at h
  split at h
  all_goals first | contradiction | skip
  all_goals
    rename_i hc
    obtain rfl := Option.some.inj h
    obtain rfl : c = Char.ofNat _ := hc ▸ (Char.ofNat_toNat c).symm
    decide

theorem endsWord_of_mem_upperHex {count m : Nat} (h : c ∈ upperHex count m) :
    endsWord (some c) = false := by
  obtain ⟨digit, hdigit, rfl⟩ := mem_upperHex h
  exact (by decide : ∀ digit < 16, endsWord (some (Text.hexDigit digit).toUpper) = false) digit hdigit

theorem numbered?_upperHex {count : Nat} (h : c.toNat < 16 ^ count) :
    numbered? (upperHex count c.toNat) = some c := by
  have hvalid : c.toNat.isValidChar := c.valid
  rw [numbered?, upperHex, Text.hexNumber?_hexPadded h]
  simp [hvalid, Char.ofNat_toNat]

/-- The forms of a character between double quotes that is no space: an escape with a letter, the
character itself, and an escape with digits. -/
inductive EscapeForm (c : Char) : List Char → Prop
  | letter (letter : Char) (hends : endsWord (some letter) = false) (hshown : escaped? letter = some c) :
      EscapeForm c ['\\', letter]
  | bare (hends : endsWord (some c) = false) (hquote : c ≠ '"') (hescape : c ≠ '\\') : EscapeForm c [c]
  | digits (mark : Char) (count : Nat) (hends : endsWord (some mark) = false)
      (hmark : escaped? mark = none) (hlength : escapeLength? mark = some count)
      (hcount : c.toNat < 16 ^ count) : EscapeForm c ('\\' :: mark :: upperHex count c.toNat)

theorem escapeForm (hspace : c ≠ ' ') : EscapeForm c (escape c) := by
  rw [escape]
  cases hletter : escapeLetter? c with
  | some letter =>
    obtain ⟨hshown, hends⟩ := escaped?_of_escapeLetter? hletter
    exact .letter letter hends hshown
  | none =>
    have hne : ∀ d, escapeLetter? d ≠ none → c ≠ d := by
      rintro d hd rfl
      exact hd hletter
    have hlarge : c.toNat < 0x110000 := by
      have hvalid : c.toNat.isValidChar := c.valid
      rw [Nat.isValidChar] at hvalid
      omega
    split_ifs with hprintable hshort hmedium
    · have hbreak : isBreak c = false := by
        simp only [← Bool.not_eq_true, isBreak_iff_of_isPrintable hprintable, not_or]
        exact ⟨hne _ (by decide), hne _ (by decide), hne _ (by decide)⟩
      exact .bare (endsWord_of_isPrintable hprintable hspace hbreak) (hne _ (by decide)) (hne _ (by decide))
    · exact .digits 'x' 2 (by decide) (by decide) (by decide) (by omega)
    · exact .digits 'u' 4 (by decide) (by decide) (by decide) (by omega)
    · exact .digits 'U' 8 (by decide) (by decide) (by decide) (by omega)

theorem EscapeForm.solid {form : List Char} (h : EscapeForm c form) :
    form ≠ [] ∧ ∀ d ∈ form, endsWord (some d) = false := by
  have hescape : endsWord (some '\\') = false := by decide
  cases h with
  | letter letter hends => simp [hescape, hends]
  | bare hends => simp [hends]
  | digits mark count hends =>
    simp only [ne_eq, reduceCtorEq, not_false_eq_true, List.mem_cons, forall_eq_or_imp, hescape, hends,
      true_and]
    exact fun d => endsWord_of_mem_upperHex

theorem lineBreak?_behind {tail : List Char} {d : Char} (hrest : here.rest = c :: d :: tail)
    (hends : endsWord (some d) = false) : (here.skip 1).lineBreak? = none :=
  Cursor.lineBreak?_of_inline (by rw [Cursor.skip, hrest]; rfl) (endsWord_eq_false_iff.1 hends).2

theorem EscapeForm.step {form tail word' : List Char} {after : Cursor} {fuel : Nat} (h : EscapeForm c form)
    (hrest : here.rest = form ++ tail) (hword : word false fuel (here.past form) = .ok (word', false, after)) :
    word false (fuel + 1) here = .ok (c :: word', false, after) := by
  rw [Cursor.past_eq_skip fun d hd => (endsWord_eq_false_iff.1 (h.solid.2 d hd)).2] at hword
  have hmark : endsWord (some '\\') = false := by decide
  rw [word]
  cases h with
  | letter letter hends hshown =>
    have hbreak := lineBreak?_behind hrest hends
    simp_all
  | bare hends hquote hescape =>
    simp_all
  | digits mark count hends hnone hlength hcount =>
    have hbreak := lineBreak?_behind hrest hends
    have hdigits : (upperHex count c.toNat).length = count := by
      rw [upperHex, List.length_map, Text.length_hexPadded]
    have htake : ((upperHex count c.toNat) ++ tail).take count = upperHex count c.toNat := by
      rw [List.take_append_of_le_length hdigits.ge, List.take_of_length_le hdigits.le]
    have hshown := numbered?_upperHex hcount
    have hsize : ('\\' :: mark :: upperHex count c.toNat).length = 2 + count := by
      rw [List.length_cons, List.length_cons, hdigits]
      omega
    rw [hsize] at hword
    simp_all

theorem writes_double (chars : List Char) : Writes false escape (fun _ => false) chars where
  space := by decide
  ends c _ hbreak := by simp at hbreak
  solid c _ hspace _ := (escapeForm hspace).solid
  step c _ hspace _ {_ _} hrest {_ _ _} hword := (escapeForm hspace).step hrest hword

/-! ### Whole scalars -/

theorem read_eq {single : Bool} {form : Char → List Char} {breaks : Char → Bool}
    (h : Writes single form breaks chars) (hwords : Words breaks chars) (hn : 0 < n)
    (hrest : here.rest = quote single :: (body n form breaks chars ++ quote single :: next))
    (hnext : next.head? ≠ some '\'') (hsize : here.rest.length ≤ here.size) :
    read single here =
      .ok (String.ofList chars, here.past (quote single :: (body n form breaks chars ++ [quote single]))) := by
  have hopen : here.skip 1 = here.past [quote single] := by cases single <;> rfl
  have hquote : ∀ c ∈ [quote single], isBreak c = false :=
    forall_mem_of_all (by cases single <;> decide)
  have hcolumn : (here.past [quote single]).column ≠ 0 := by
    rw [Cursor.column_past_inline hquote]
    exact Nat.succ_ne_zero _
  have hfits : (here.past [quote single]).rest.length ≤ (here.past [quote single]).size :=
    Cursor.fits_past hsize
  rw [read, hopen, words_eq h hwords hn (Cursor.rest_past hrest) hnext hcolumn hfits
    (hfits.trans (by rw [Cursor.size_past]; exact Nat.le_succ _))]
  rfl

theorem singleQuoted_eq (n : Nat) (chars : List Char) :
    singleQuoted n chars = quote true ::
      (body n (fun c => if c = '\'' then [c, c] else [c]) isBreak chars ++ [quote true]) := by
  simp [singleQuoted, body, quote, spaces]

/-- Between double quotes nothing is a break that is kept, whatever the indentation. -/
theorem doubleQuoted_eq (n : Nat) (chars : List Char) :
    doubleQuoted chars = quote false :: (body n escape (fun _ => false) chars ++ [quote false]) := by
  rw [(writes_double chars).body_inline fun _ _ => rfl]
  rfl

theorem read_singleQuoted (hfits : fitsSingle chars = true) (hnewline : '\n' ∉ chars) (hn : 0 < n)
    (hrest : here.rest = singleQuoted n chars ++ next) (hnext : next.head? ≠ some '\'')
    (hsize : here.rest.length ≤ here.size) :
    read true here = .ok (String.ofList chars, here.past (singleQuoted n chars)) := by
  simp only [fitsSingle, isRegular, Bool.and_eq_true, Bool.not_eq_true', List.all_eq_true] at hfits
  obtain ⟨⟨hprintable, hspace⟩, hbreak⟩ := hfits
  rw [singleQuoted_eq] at hrest ⊢
  rw [List.cons_append, List.append_assoc] at hrest
  exact read_eq (writes_single hprintable hnewline) (words_of_hasPair _ _ hspace hbreak) hn hrest hnext hsize

theorem read_doubleQuoted (hrest : here.rest = doubleQuoted chars ++ next)
    (hnext : next.head? ≠ some '\'') (hsize : here.rest.length ≤ here.size) :
    read false here = .ok (String.ofList chars, here.past (doubleQuoted chars)) := by
  have hwords : Words (fun _ => false) chars :=
    words_of_hasPair _ _ (by simp [hasPair]) (by simp [hasPair])
  rw [doubleQuoted_eq 1] at hrest ⊢
  rw [List.cons_append, List.append_assoc] at hrest
  exact read_eq (writes_double chars) hwords Nat.one_pos hrest hnext hsize

end QuotedScalar

end BindingRegions.Yaml

import BindingRegions.Proofs.Failure
import BindingRegions.Proofs.Yaml.Folding
import BindingRegions.Proofs.Yaml.Words
import BindingRegions.Yaml.PlainScalar

/-! Plain scalars read back. A text in plain style lies on one line, and a reader that goes over
it word by word stops at the line's end, behind the indentation of the next line. -/

namespace BindingRegions.Yaml

open ScalarText

/-- What plain style needs of a text: it lies on one line, no blank is at its ends, and nothing
in it ends a plain scalar or starts a comment. -/
structure IsPlain (chars : List Char) : Prop where
  inline : ∀ c ∈ chars, c ≠ '\t' ∧ isBreak c = false
  start : ∀ c ∈ chars.head?, c ≠ ' ' ∧ c ≠ '#'
  last : ∃ c, chars.getLast? = some c ∧ c ≠ ' ' ∧ c ≠ ':'
  colon : hasPair (· = ':') (fun c => endsWord (some c)) chars = false
  comment : hasPair (fun c => endsWord (some c)) (· = '#') chars = false

namespace IsPlain

variable {chars word : List Char} {k : Nat}

theorem ne_nil (h : IsPlain chars) : chars ≠ [] := by
  rintro rfl
  obtain ⟨c, hc, -⟩ := h.last
  simp at hc

theorem endsWord_eq_false (h : IsPlain chars) {c : Char} (hc : c ∈ chars) (hspace : c ≠ ' ') :
    endsWord (some c) = false := by
  obtain ⟨htab, hbreak⟩ := h.inline c hc
  refine endsWord_eq_false_iff.2 ⟨?_, hbreak⟩
  rw [← Bool.not_eq_true, isBlank_iff, not_or]
  exact ⟨hspace, htab⟩

theorem inline_spaced {rest : List Char} (h : IsPlain (word ++ (spaces k ++ rest))) :
    ∀ c ∈ word ++ spaces k, isBreak c = false := by
  intro c hc
  have hmem : c ∈ word ++ spaces k ++ rest := List.mem_append_left rest hc
  exact (h.inline c (List.append_assoc .. ▸ hmem)).2

/-- Behind a space, a plain text goes on, with plain text. -/
theorem behind_space {rest : List Char} (h : IsPlain (word ++ (spaces (k + 1) ++ rest)))
    (hstart : StartsWord (fun _ => false) rest) : IsPlain rest := by
  have hspace : (word ++ spaces (k + 1)).getLast? = some ' ' := by
    rw [List.getLast?_append_of_ne_nil _ (by simp [spaces_succ]), getLast?_spaces_succ]
  have hne : rest ≠ [] := by
    rintro rfl
    obtain ⟨c, hc, hc', -⟩ := h.last
    rw [List.append_nil, hspace] at hc
    exact hc' (Option.some.inj hc).symm
  refine ⟨fun c hc => h.inline c (by simp [hc]), fun c hc => ⟨(hstart c hc).1, ?_⟩, ?_, ?_, ?_⟩
  · have hcomment := h.comment
    rw [← List.append_assoc] at hcomment
    simpa using hasPair_join hcomment hspace (by decide) c hc
  · obtain ⟨c, hc, hlast⟩ := h.last
    refine ⟨c, ?_, hlast⟩
    rwa [← List.append_assoc, List.getLast?_append_of_ne_nil _ hne] at hc
  · exact hasPair_of_append (hasPair_of_append h.colon)
  · exact hasPair_of_append (hasPair_of_append h.comment)

theorem peek_ne_comment {tail : List Char} {here : Cursor} (h : IsPlain chars)
    (hrest : here.rest = chars ++ tail) : here.peek ≠ some '#' := by
  rw [Cursor.peek, hrest, List.head?_append_of_ne_nil _ h.ne_nil]
  exact fun hc => (h.start _ hc).2 rfl

/-- A text that is written in plain style, and not as nothing at all. -/
theorem of_fitsPlain (h : fitsPlain chars = true) (hne : chars ≠ []) : IsPlain chars := by
  obtain ⟨c, chars, rfl⟩ := List.exists_cons_of_ne_nil hne
  simp only [fitsPlain, isRegular, hasIndicator, Bool.and_eq_true, Bool.not_eq_true', Bool.or_eq_false_iff,
    List.all_eq_true, List.any_eq_false, bne_iff_ne, ne_eq, String.contains_char_eq,
    decide_eq_false_iff_not] at h
  obtain ⟨⟨⟨⟨⟨hprintable, -⟩, hbreak⟩, hhead⟩, hlast⟩, -, ⟨⟨⟨hfirst, hmark⟩, hcolon⟩, hend⟩, hcomment⟩ := h
  have hstart : (decide (c = ':') && endsWord chars.head?) = false := by
    cases hw : endsWord chars.head? <;> simp_all
  refine ⟨fun d hd => ⟨ne_tab_of_isPrintable (hprintable d hd), by simpa using hbreak d hd⟩, ?_, ?_, ?_,
    hcomment⟩
  · rintro d hd
    obtain rfl : c = d := by simpa using hd
    refine ⟨by simpa using hhead, ?_⟩
    rintro rfl
    exact hfirst (by decide)
  · obtain ⟨last, hl⟩ : ∃ last, (c :: chars).getLast? = some last :=
      ⟨_, List.getLast?_eq_some_getLast (List.cons_ne_nil c chars)⟩
    refine ⟨last, hl, fun h => hlast (h ▸ hl), ?_⟩
    rintro rfl
    cases chars with
    | nil =>
      obtain rfl : c = ':' := by simpa using hl
      exact absurd hstart (by decide)
    | cons d chars =>
      rw [List.getLast?_cons_cons] at hl
      simp [hl] at hend
  · cases chars with
    | nil => rfl
    | cons d chars => rw [hasPair_cons_cons, hcolon, Bool.or_false]; exact hstart

/-- What plain style asks of a text's first character. -/
theorem first_of_fitsPlain {c : Char} (h : fitsPlain (c :: chars) = true) :
    c ∉ "#,[]\x7b\x7d&*!|>'\"%@\x60".toList ∧
      (c = '?' ∨ c = ':' ∨ c = '-' → endsWord chars.head? = false) := by
  simp only [fitsPlain, hasIndicator, Bool.and_eq_true, Bool.not_eq_true', Bool.or_eq_false_iff,
    String.contains_char_eq, decide_eq_false_iff_not] at h
  obtain ⟨-, -, ⟨⟨⟨hfirst, hmark⟩, -⟩, -⟩, -⟩ := h
  refine ⟨hfirst, fun hc => ?_⟩
  cases hw : endsWord chars.head? with
  | false => rfl
  | true =>
    exfalso
    revert hmark
    obtain rfl | rfl | rfl := hc <;> simp [hw]

end IsPlain

namespace PlainScalar

variable {chars tail next text : List Char} {indent k fuel : Nat} {gap : Gap} {here : Cursor}

/-- A word goes on to where another one could not start. -/
theorem word_eq (hword : ∀ c ∈ chars, endsWord (some c) = false) (hlast : chars.getLast? ≠ some ':')
    (htail : word false tail = .ok []) : word false (chars ++ tail) = .ok chars := by
  induction chars with
  | nil => exact htail
  | cons c chars ih =>
    rw [List.forall_mem_cons] at hword
    have hcolon : (decide (c = ':') && endsWord (chars ++ tail).head?) = false := by
      cases chars with
      | nil =>
        have hc : c ≠ ':' := by simpa using hlast
        simp [hc]
      | cons d chars =>
        rw [List.cons_append, List.head?_cons, hword.2 d List.mem_cons_self, Bool.and_false]
    have hrest : chars.getLast? ≠ some ':' := by
      cases chars with
      | nil => simp
      | cons d chars => rwa [List.getLast?_cons_cons] at hlast
    rw [List.cons_append, word]
    simp [hword.1, hcolon, -List.head?_append, ih hword.2 hrest]

theorem words_succ {chars : List Char} {after : Cursor} {gap' : Gap} (hmark : here.atDocumentMark = false)
    (hcomment : here.peek ≠ some '#') (hword : word false here.rest = .ok chars) (hne : chars ≠ [])
    (hinline : ∀ c ∈ chars, isBreak c = false)
    (hgap : Gap.read indent ((here.past chars).size + 1) {} (here.past chars) = .ok (gap', after)) :
    words false indent (fuel + 1) text gap here =
      if after.index = (here.past chars).index ∨ after.column < indent then
        .ok (text ++ gap.fold ++ chars, gap'.crossed, after)
      else words false indent fuel (text ++ gap.fold ++ chars) gap' after := by
  rw [Cursor.past_eq_skip hinline] at hgap ⊢
  rw [words]
  simp only [hmark, hcomment, hword, hne, hgap, decide_false, Bool.or_false, Bool.false_eq_true, if_false,
    Bool.not_false, Bool.true_and, Bool.or_eq_true, decide_eq_true_eq, ok_bind, pure_eq_ok]

/-- The last word, and the indentation of the next line. -/
theorem words_last (hplain : IsPlain chars) (hword : IsWord (fun _ => false) chars)
    (hrest : here.rest = chars ++ '\n' :: (spaces k ++ next)) (hsize : here.rest.length ≤ here.size)
    (hcolumn : indent ≤ here.column) (hk : k < indent)
    (hnext : ∀ c ∈ next.head?, endsWord (some c) = false) :
    words false indent (fuel + 1) text gap here =
      .ok (text ++ gap.fold ++ chars, true, here.past (chars ++ '\n' :: spaces k)) := by
  have hends : ∀ c ∈ chars, endsWord (some c) = false := fun c hc =>
    hplain.endsWord_eq_false hc (hword c hc).1
  have hread : word false here.rest = .ok chars := by
    obtain ⟨c, hc, -, hcolon⟩ := hplain.last
    rw [hrest]
    exact word_eq hends (by simpa [hc] using hcolon) rfl
  have hbehind : (here.past chars).rest = '\n' :: [] ++ (spaces k ++ next) := Cursor.rest_past hrest
  have hgap := Gap.read_breaks_fresh indent hbehind (forall_mem_of_all (by decide)) hnext
    (Cursor.fits_past hsize)
  have hafter : ((here.past chars).past ('\n' :: [] ++ spaces k)).column = k := by
    rw [← Cursor.past_append]
    exact (Cursor.column_past_line (by decide) isBreak_spaces).trans (length_spaces k)
  rw [words_succ (Cursor.atDocumentMark_of_column (by omega)) (hplain.peek_ne_comment hrest) hread
    hplain.ne_nil (fun c hc => (hplain.inline c hc).2) hgap, if_pos (.inr (by rwa [hafter])),
    ← Cursor.past_append]
  rfl

/-- A word with another one behind it on the line, and the spaces between them. -/
theorem words_spaced {rest : List Char} (hplain : IsPlain (chars ++ (spaces (k + 1) ++ rest)))
    (hword : IsWord (fun _ => false) chars) (hstart : StartsWord (fun _ => false) rest)
    (hrest : here.rest = chars ++ (spaces (k + 1) ++ (rest ++ next))) (hsize : here.rest.length ≤ here.size)
    (hcolumn : indent ≤ here.column) (hk : 0 < indent) :
    words false indent (fuel + 1) text gap here =
      words false indent fuel (text ++ gap.fold ++ chars) { blanks := spaces (k + 1) }
        (here.past (chars ++ spaces (k + 1))) := by
  have hbehind := hplain.behind_space hstart
  have hne : chars ≠ [] := by
    rintro rfl
    exact (hplain.start ' ' rfl).1 rfl
  have hends : ∀ c ∈ chars, endsWord (some c) = false := fun c hc =>
    hplain.endsWord_eq_false (List.mem_append_left _ hc) (hword c hc).1
  have hcolon : chars.getLast? ≠ some ':' := fun h =>
    absurd (hasPair_join hplain.colon h (by decide) ' ' rfl) (by decide)
  have hread : word false here.rest = .ok chars := hrest ▸ word_eq hends hcolon rfl
  have hstop : ∀ c ∈ (rest ++ next).head?, endsWord (some c) = false := by
    intro c hc
    rw [List.head?_append_of_ne_nil _ hbehind.ne_nil] at hc
    exact hbehind.endsWord_eq_false (List.mem_of_head? hc) (hstart c hc).1
  have hgap := Gap.read_spaces_fresh indent (Cursor.rest_past hrest) hstop (Cursor.fits_past hsize)
  have hcomment : here.peek ≠ some '#' :=
    hplain.peek_ne_comment (by simpa only [List.append_assoc] using hrest)
  have hcolumn' : here.column ≤ (here.past (chars ++ spaces (k + 1))).column := by
    rw [Cursor.column_past_inline hplain.inline_spaced]
    omega
  rw [words_succ (Cursor.atDocumentMark_of_column (by omega)) hcomment hread hne
    (fun c hc => hplain.inline_spaced c (List.mem_append_left _ hc)) hgap, ← Cursor.past_append, if_neg]
  -- The gap takes the reader on, and not to the left of the scalar.
  rw [Cursor.index_past, Cursor.index_past, List.length_append, length_spaces]
  omega

theorem words_eq (hwords : Words (fun _ => false) chars) (hplain : IsPlain chars)
    (hrest : here.rest = chars ++ '\n' :: (spaces k ++ next)) (hsize : here.rest.length ≤ here.size)
    (hcolumn : indent ≤ here.column) (hk : k < indent)
    (hnext : ∀ c ∈ next.head?, endsWord (some c) = false) (hfuel : chars.length ≤ fuel) :
    words false indent fuel text gap here =
      .ok (text ++ gap.fold ++ chars, true, here.past (chars ++ '\n' :: spaces k)) := by
  have hpositive := List.length_pos_iff.2 hplain.ne_nil
  obtain ⟨fuel, rfl⟩ : ∃ n, fuel = n + 1 := ⟨fuel - 1, by omega⟩
  induction hwords generalizing here text gap fuel with
  | word chars hword => exact words_last hplain hword hrest hsize hcolumn hk hnext
  | spaced chars j rest hword hstart tail ih =>
    have hbehind := hplain.behind_space hstart
    simp only [List.append_assoc] at hrest
    have hrest' := hrest
    rw [← List.append_assoc] at hrest'
    simp only [List.length_append, length_spaces] at hfuel
    have hpositive' := List.length_pos_iff.2 hbehind.ne_nil
    obtain ⟨fuel, rfl⟩ : ∃ n, fuel = n + 1 := ⟨fuel - 1, by omega⟩
    have hcolumn' : indent ≤ (here.past (chars ++ spaces (j + 1))).column := by
      rw [Cursor.column_past_inline hplain.inline_spaced]
      omega
    rw [words_spaced hplain hword hstart hrest hsize hcolumn (by omega),
      ih hbehind (Cursor.rest_past hrest') (Cursor.fits_past hsize) hcolumn' hpositive' fuel (by omega)]
    simp [Gap.fold, Cursor.past_append]
  | broken chars c breaks rest hword hgap =>
    exact absurd (hgap c List.mem_cons_self) (by simp)

/-- A text in plain style is read to where the next line's text starts, which must be left of the
scalar's own column. -/
theorem read_text (hplain : IsPlain chars) (hrest : here.rest = chars ++ '\n' :: (spaces k ++ next))
    (hsize : here.rest.length ≤ here.size) (hcolumn : indent ≤ here.column) (hk : k < indent)
    (hnext : ∀ c ∈ next.head?, endsWord (some c) = false) :
    read false indent here =
      .ok (String.ofList chars, true, here.past (chars ++ '\n' :: spaces k)) := by
  have hwords : Words (fun _ => false) chars :=
    words_of_hasPair _ chars (by simp [hasPair]) (by simp [hasPair])
  have hfuel : chars.length ≤ here.size + 1 := by
    rw [hrest, List.length_append] at hsize
    omega
  rw [read, words_eq hwords hplain hrest hsize hcolumn hk hnext hfuel]
  rfl

/-- A name is read to its colon. -/
theorem read_name (hname : IsName chars) (hrest : here.rest = chars ++ ':' :: tail)
    (htail : endsWord tail.head? = true) :
    read false indent here = .ok (String.ofList chars, false, here.past chars) := by
  obtain ⟨first, chars, rfl⟩ := List.exists_cons_of_ne_nil hname.1
  have hends : ∀ c ∈ first :: chars, endsWord (some c) = false := fun c hc =>
    endsWord_of_name (hname.2 c hc)
  have hfirst := hname.2 first List.mem_cons_self
  have hmark : here.atDocumentMark = false := by
    rw [Cursor.atDocumentMark, Cursor.atMark_of_head hrest (ne_of_name hfirst (by decide)),
      Cursor.atMark_of_head hrest (ne_of_name hfirst (by decide))]
    rfl
  have hcomment : here.peek ≠ some '#' := by
    rw [Cursor.peek_eq hrest]
    exact fun h => ne_of_name hfirst (by decide) (Option.some.inj h)
  have hword : word false here.rest = .ok (first :: chars) := by
    rw [hrest]
    refine word_eq hends (fun h => ?_) (by simp [word, htail])
    exact ne_of_name (hname.2 ':' (List.mem_of_getLast? h)) (by decide) rfl
  have hgap : Gap.read indent ((here.past (first :: chars)).size + 1) {} (here.past (first :: chars)) =
      .ok ({}, here.past (first :: chars)) := by
    refine Gap.read_nil (Nat.succ_pos _) ?_
    rw [Cursor.rest_past hrest, List.head?_cons]
    rintro c hc
    obtain rfl := Option.some.inj hc
    decide
  rw [read, words_succ hmark hcomment hword (List.cons_ne_nil _ _)
    (fun c hc => (endsWord_eq_false_iff.1 (hends c hc)).2) hgap, if_pos (.inl rfl)]
  rfl

end PlainScalar

end BindingRegions.Yaml

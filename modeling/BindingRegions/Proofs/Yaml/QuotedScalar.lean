import BindingRegions.Proofs.Failure
import BindingRegions.Proofs.Yaml.Folding
import BindingRegions.Proofs.Yaml.Indentation
import BindingRegions.Proofs.Yaml.Words
import BindingRegions.Yaml.QuotedScalar

/-! Quoted scalars read back. Both kinds of quotes put a form of its own in place of each
character and indent the lines behind the breaks that they keep; a reader takes one form after
another within a word, and one word after another. -/

namespace BindingRegions.Yaml

open ScalarText

namespace QuotedScalar

def quote (single : Bool) : Char := if single then '\'' else '"'

/-- How a style puts the characters of a text. A space stands for itself, and so does a break of
the given class; every other character has a form without blanks and breaks, in place of which the
reader takes the character. -/
structure Writes (single : Bool) (form : Char → List Char) (breaks : Char → Bool)
    (chars : List Char) : Prop where
  space : form ' ' = [' ']
  ends : ∀ c ∈ chars, breaks c = true →
    form c = [c] ∧ isPrintable c = true ∧ isBreak c = true ∧ c ≠ '\n'
  solid : ∀ c ∈ chars, c ≠ ' ' → breaks c = false →
    form c ≠ [] ∧ ∀ d ∈ form c, endsWord (some d) = false
  step : ∀ c ∈ chars, c ≠ ' ' → breaks c = false →
    ∀ {here : Cursor} {tail : List Char}, here.rest = form c ++ tail →
      ∀ {fuel : Nat} {word' : List Char} {after : Cursor},
        word single fuel (here.past (form c)) = .ok (word', false, after) →
          word single (fuel + 1) here = .ok (c :: word', false, after)

variable {single : Bool} {form : Char → List Char} {breaks : Char → Bool}
  {chars tail next text : List Char} {n fuel : Nat} {here : Cursor} {c : Char}

theorem Writes.mono {part : List Char} (h : Writes single form breaks chars)
    (hpart : ∀ c ∈ part, c ∈ chars) : Writes single form breaks part :=
  ⟨h.space, fun c hc => h.ends c (hpart c hc), fun c hc => h.solid c (hpart c hc),
    fun c hc => h.step c (hpart c hc)⟩

/-! ### Words -/

theorem word_of_gap (h : here.rest = c :: tail) (hc : endsWord (some c) = true) :
    word single (fuel + 1) here = .ok ([], false, here) := by
  rw [word]
  simp [h, hc]

theorem word_of_quote (h : here.rest = quote single :: next) (hnext : next.head? ≠ some '\'') :
    word single (fuel + 1) here = .ok ([], false, here) := by
  rw [word]
  cases single <;> simp [h, hnext, quote, endsWord, isBlank, isBreak]

/-- The forms of a word are read up to where no other word could start. -/
theorem word_eq (h : Writes single form breaks chars) (hword : IsWord breaks chars)
    (hrest : here.rest = chars.flatMap form ++ tail)
    (hstop : ∀ {here : Cursor} {fuel}, here.rest = tail →
      word single (fuel + 1) here = .ok ([], false, here))
    (hfuel : here.rest.length < fuel) :
    word single fuel here = .ok (chars, false, here.past (chars.flatMap form)) := by
  obtain ⟨fuel, rfl⟩ : ∃ n, fuel = n + 1 := ⟨fuel - 1, by omega⟩
  induction chars generalizing here fuel with
  | nil => exact hstop hrest
  | cons c chars ih =>
    obtain ⟨⟨hspace, hbreak⟩, hchars⟩ := List.forall_mem_cons.1 hword
    rw [List.flatMap_cons, List.append_assoc] at hrest
    have hne := (h.solid c List.mem_cons_self hspace hbreak).1
    have hshorter := List.length_pos_iff.2 hne
    have hrest' : (here.past (form c)).rest = chars.flatMap form ++ tail := Cursor.rest_past hrest
    obtain ⟨fuel, rfl⟩ : ∃ n, fuel = n + 1 := ⟨fuel - 1, by
      rw [hrest, List.length_append] at hfuel
      omega⟩
    rw [List.flatMap_cons, Cursor.past_append]
    refine h.step c List.mem_cons_self hspace hbreak hrest
      (ih (h.mono fun _ => List.mem_cons_of_mem c) hchars hrest' fuel ?_)
    rw [hrest, List.length_append] at hfuel
    rw [hrest']
    omega

/-! ### Between the quotes -/

/-- What a style puts between the quotes. -/
def body (n : Nat) (form : Char → List Char) (breaks : Char → Bool) (chars : List Char) : List Char :=
  indentLines n false (chars.flatMap form) ++ if chars.getLast?.any breaks then spaces n else []

theorem Writes.breaks_space (h : Writes single form breaks chars) (hmem : ' ' ∈ chars) :
    breaks ' ' = false := by
  rw [← Bool.not_eq_true]
  intro hbreak
  exact absurd (h.ends ' ' hmem hbreak).2.2.1 (by decide)

theorem Writes.flatMap_spaces (h : Writes single form breaks chars) (k : Nat) :
    (spaces k).flatMap form = spaces k := by
  induction k with
  | zero => rfl
  | succ k ih => rw [spaces_succ, List.flatMap_cons, h.space, ih, List.singleton_append]

theorem Writes.flatMap_breaks {gap : List Char} (h : Writes single form breaks gap)
    (hgap : ∀ c ∈ gap, breaks c = true) : gap.flatMap form = gap := by
  induction gap with
  | nil => rfl
  | cons c gap ih =>
    rw [List.flatMap_cons, (h.ends c List.mem_cons_self (hgap c List.mem_cons_self)).1,
      ih (h.mono fun _ => List.mem_cons_of_mem c) fun d hd => hgap d (List.mem_cons_of_mem c hd),
      List.singleton_append]

/-- Characters that are no breaks have their forms within the line. -/
theorem Writes.body_append {front rest : List Char} (h : Writes single form breaks (front ++ rest))
    (hfront : ∀ c ∈ front, breaks c = false) :
    body n form breaks (front ++ rest) = front.flatMap form ++ body n form breaks rest := by
  have hinline : ∀ d ∈ front.flatMap form, isBreak d = false := by
    intro d hd
    obtain ⟨c, hc, hd⟩ := List.mem_flatMap.1 hd
    by_cases hspace : c = ' '
    · rw [hspace, h.space, List.mem_singleton] at hd
      exact hd ▸ (by decide)
    · exact (endsWord_eq_false_iff.1
        ((h.solid c (List.mem_append_left _ hc) hspace (hfront c hc)).2 d hd)).2
  have hlast : (front ++ rest).getLast?.any breaks = rest.getLast?.any breaks := by
    rw [List.getLast?_append]
    cases rest.getLast? with
    | some c => rfl
    | none =>
      cases hc : front.getLast? with
      | none => rfl
      | some c => exact hfront c (List.mem_of_getLast? hc)
  rw [body, body, hlast, List.flatMap_append, indentLines_inline hinline, List.append_assoc]

theorem Writes.body_inline (h : Writes single form breaks chars) (hchars : ∀ c ∈ chars, breaks c = false) :
    body n form breaks chars = chars.flatMap form := by
  rw [← List.append_nil chars] at h ⊢
  rw [h.body_append hchars, List.append_nil]
  exact List.append_nil _

theorem Writes.body_spaces {word' rest : List Char} {k : Nat}
    (h : Writes single form breaks (word' ++ (spaces (k + 1) ++ rest))) (hword : IsWord breaks word') :
    body n form breaks (word' ++ (spaces (k + 1) ++ rest)) =
      word'.flatMap form ++ (spaces (k + 1) ++ body n form breaks rest) := by
  have hspaces : ∀ c ∈ spaces (k + 1), breaks c = false := fun c hc =>
    eq_space_of_mem_spaces hc ▸ h.breaks_space (by simp [spaces_succ])
  rw [h.body_append fun c hc => (hword c hc).2,
    (h.mono fun _ => List.mem_append_right _).body_append hspaces, h.flatMap_spaces]

/-- What follows breaks is indented, be it the closing quote. -/
theorem Writes.body_gap {gap rest : List Char} (h : Writes single form breaks (c :: gap ++ rest))
    (hgap : ∀ d ∈ c :: gap, breaks d = true) (hrest : StartsWord breaks rest) :
    body n form breaks (c :: gap ++ rest) = c :: gap ++ (spaces n ++ body n form breaks rest) := by
  have hgapForm := (h.mono fun _ => List.mem_append_left rest).flatMap_breaks hgap
  have hbreaks : ∀ d ∈ c :: gap, isBreak d = true := fun d hd =>
    (h.ends d (List.mem_append_left _ hd) (hgap d hd)).2.2.1
  obtain ⟨hc, hgap'⟩ := List.forall_mem_cons.1 hbreaks
  rw [body, List.flatMap_append, hgapForm, List.cons_append, indentLines_break_cons hc,
    indentLines_breaks hgap']
  rcases rest with - | ⟨d, rest⟩
  · obtain ⟨last, hlast⟩ : ∃ last, (c :: gap).getLast? = some last :=
      ⟨_, List.getLast?_eq_some_getLast (List.cons_ne_nil c gap)⟩
    have hbreak := hgap last (List.mem_of_getLast? hlast)
    rw [List.append_nil, hlast]
    simp [hbreak, body, indentLines]
  · obtain ⟨hspace, hword⟩ := hrest d rfl
    obtain ⟨hne, hsolid⟩ := h.solid d (by simp) hspace hword
    obtain ⟨e, tail, he⟩ := List.exists_cons_of_ne_nil hne
    have hinline := (endsWord_eq_false_iff.1 (hsolid e (he ▸ List.mem_cons_self))).2
    rw [body, List.getLast?_append_of_ne_nil _ (List.cons_ne_nil d rest), List.flatMap_cons, he]
    simp only [List.cons_append]
    rw [indentLines_fresh hinline]
    simp

/-- What is put for a text that starts with a word starts with no blank and no break, and neither
does the closing quote. -/
theorem Writes.startsWord_body (h : Writes single form breaks chars) (hstart : StartsWord breaks chars) :
    ∀ d ∈ (body n form breaks chars ++ quote single :: next).head?, endsWord (some d) = false := by
  cases chars with
  | nil =>
    intro d hd
    obtain rfl : quote single = d := by simpa [body, indentLines] using hd
    cases single <;> decide
  | cons c chars =>
    obtain ⟨hspace, hbreak⟩ := hstart c rfl
    obtain ⟨hne, hsolid⟩ := h.solid c List.mem_cons_self hspace hbreak
    rw [← List.singleton_append, h.body_append (by simpa using hbreak), List.flatMap_singleton,
      List.append_assoc, List.head?_append_of_ne_nil _ hne]
    exact fun d hd => hsolid d (List.mem_of_head? hd)

/-! ### From word to word -/

theorem words_next {word' : List Char} {mid after : Cursor} {gap : Gap} (hmark : here.atDocumentMark = false)
    (hne : here.rest ≠ []) (hfuel : 0 < fuel)
    (hword : word single (here.size + 1) here = .ok (word', false, mid))
    (hquote : mid.peek ≠ some (quote single))
    (hgap : Gap.read 0 (mid.size + 1) {} mid = .ok (gap, after)) :
    words single fuel text here = words single (fuel - 1) (text ++ word' ++ gap.fold) after := by
  obtain ⟨fuel, rfl⟩ : ∃ n, fuel = n + 1 := ⟨fuel - 1, by omega⟩
  rw [quote] at hquote
  rw [words]
  simp [hmark, hne, hword, hquote, hgap]

theorem words_closed {word' : List Char} {mid : Cursor} (hmark : here.atDocumentMark = false)
    (hne : here.rest ≠ []) (hfuel : 0 < fuel)
    (hword : word single (here.size + 1) here = .ok (word', false, mid))
    (hquote : mid.peek = some (quote single)) :
    words single fuel text here = .ok (text ++ word', mid.skip 1) := by
  obtain ⟨fuel, rfl⟩ : ∃ n, fuel = n + 1 := ⟨fuel - 1, by omega⟩
  rw [quote] at hquote
  rw [words]
  simp [hmark, hne, hword, hquote]

theorem Writes.words_spaced {word' rest : List Char} {k : Nat}
    (h : Writes single form breaks (word' ++ (spaces (k + 1) ++ rest))) (hword : IsWord breaks word')
    (hstart : StartsWord breaks rest)
    (hrest : here.rest = word'.flatMap form ++
      (spaces (k + 1) ++ (body n form breaks rest ++ quote single :: next)))
    (hcolumn : here.column ≠ 0) (hsize : here.rest.length ≤ here.size) (hfuel : 0 < fuel) :
    words single fuel text here = words single (fuel - 1) (text ++ word' ++ spaces (k + 1))
      (here.past (word'.flatMap form ++ spaces (k + 1))) := by
  have hmid := Cursor.rest_past hrest
  have hread := word_eq (h.mono fun _ => List.mem_append_left _) hword hrest
    (fun hr => word_of_gap hr (by decide)) (Nat.lt_succ_of_le hsize)
  have hquote : (here.past (word'.flatMap form)).peek ≠ some (quote single) := by
    rw [Cursor.peek_eq hmid]
    cases single <;> decide
  have hgap := Gap.read_spaces_fresh 0 hmid
    ((h.mono fun _ hc => List.mem_append_right _ (List.mem_append_right _ hc)).startsWord_body hstart)
    (Cursor.fits_past hsize)
  rw [words_next (Cursor.atDocumentMark_of_column hcolumn) (by simp [hrest, spaces_succ]) hfuel hread hquote
    hgap, Cursor.past_append]
  rfl

/-- A word and the breaks behind it, with the indentation of what follows. -/
theorem Writes.words_broken {word' gap rest : List Char}
    (h : Writes single form breaks (word' ++ (c :: gap ++ rest))) (hword : IsWord breaks word')
    (hgap : ∀ d ∈ c :: gap, breaks d = true) (hstart : StartsWord breaks rest)
    (hrest : here.rest = word'.flatMap form ++
      (c :: gap ++ (spaces n ++ (body n form breaks rest ++ quote single :: next))))
    (hcolumn : here.column ≠ 0) (hsize : here.rest.length ≤ here.size) (hfuel : 0 < fuel) :
    words single fuel text here = words single (fuel - 1) (text ++ word' ++ (c :: gap))
      (here.past (word'.flatMap form ++ (c :: gap ++ spaces n))) := by
  have hbreaks : ∀ d ∈ c :: gap, isPrintable d = true ∧ isBreak d = true ∧ d ≠ '\n' := fun d hd =>
    (h.ends d (List.mem_append_right _ (List.mem_append_left _ hd)) (hgap d hd)).2
  obtain ⟨-, hc, hnewline⟩ := hbreaks c List.mem_cons_self
  have hmid := Cursor.rest_past hrest
  have hread := word_eq (h.mono fun _ => List.mem_append_left _) hword hrest
    (fun hr => word_of_gap hr (by simp [endsWord, hc])) (Nat.lt_succ_of_le hsize)
  have hquote : (here.past (word'.flatMap form)).peek ≠ some (quote single) := by
    rw [Cursor.peek_eq hmid]
    rintro heq
    obtain rfl := Option.some.inj heq
    cases single <;> revert hc <;> decide
  have hgapRead := Gap.read_breaks_fresh 0 hmid (fun d hd => ⟨(hbreaks d hd).1, (hbreaks d hd).2.1⟩)
    ((h.mono fun _ hd => List.mem_append_right _ (List.mem_append_right _ hd)).startsWord_body hstart)
    (Cursor.fits_past hsize)
  rw [words_next (Cursor.atDocumentMark_of_column hcolumn) (by simp [hrest]) hfuel hread hquote hgapRead,
    ← Cursor.past_append]
  simp [Gap.fold, hnewline]

/-- What a style puts between the quotes is read as the text, up to the closing quote. -/
theorem words_eq (h : Writes single form breaks chars) (hwords : Words breaks chars) (hn : 0 < n)
    (hrest : here.rest = body n form breaks chars ++ quote single :: next)
    (hnext : next.head? ≠ some '\'') (hcolumn : here.column ≠ 0) (hsize : here.rest.length ≤ here.size)
    (hfuel : here.rest.length ≤ fuel) :
    words single fuel text here =
      .ok (text ++ chars, here.past (body n form breaks chars ++ [quote single])) := by
  -- The column is never that of a document mark: behind breaks, the line is indented.
  induction hwords generalizing here text fuel with
  | word chars hword =>
    rw [h.body_inline fun c hc => (hword c hc).2] at hrest ⊢
    have hlength := congrArg List.length hrest
    simp only [List.length_append, List.length_cons] at hlength
    rw [words_closed (Cursor.atDocumentMark_of_column hcolumn) (by simp [hrest]) (by omega)
      (word_eq h hword hrest (fun hr => word_of_quote hr hnext) (by omega))
      (Cursor.peek_eq (Cursor.rest_past hrest)), Cursor.past_append]
    cases single <;> rfl
  | spaced chars k rest hword hstart tail ih =>
    rw [h.body_spaces hword] at hrest ⊢
    simp only [List.append_assoc] at hrest
    have hlength := congrArg List.length hrest
    simp only [List.length_append, List.length_cons, length_spaces] at hlength
    rw [h.words_spaced hword hstart hrest hcolumn hsize (by omega)]
    rw [← List.append_assoc] at hrest
    have hrest' := Cursor.rest_past hrest
    have hcolumn' : (here.past (chars.flatMap form ++ spaces (k + 1))).column ≠ 0 := by
      rw [Cursor.past_append, Cursor.column_past_inline isBreak_spaces, length_spaces]
      omega
    rw [ih (h.mono fun c hc => by simp [hc]) hrest' hcolumn' (Cursor.fits_past hsize) (by
      rw [hrest', List.length_append, List.length_cons]
      omega)]
    simp [Cursor.past_append]
  | broken chars c gap rest hword hgap hstart tail ih =>
    have hbreaks : ∀ d ∈ c :: gap, isBreak d = true := fun d hd =>
      (h.ends d (List.mem_append_right _ (List.mem_append_left _ hd)) (hgap d hd)).2.2.1
    rw [h.body_append fun c hc => (hword c hc).2,
      (h.mono fun _ => List.mem_append_right _).body_gap hgap hstart] at hrest ⊢
    simp only [List.append_assoc] at hrest
    have hlength := congrArg List.length hrest
    simp only [List.length_append, List.length_cons, length_spaces] at hlength
    rw [h.words_broken hword hgap hstart hrest hcolumn hsize (by omega)]
    rw [← List.append_assoc (c :: gap), ← List.append_assoc] at hrest
    have hrest' := Cursor.rest_past hrest
    have hcolumn' : (here.past (chars.flatMap form ++ (c :: gap ++ spaces n))).column = n := by
      rw [Cursor.past_append, Cursor.column_past_breaks hbreaks isBreak_spaces, length_spaces]
    rw [ih (h.mono fun c hc => by simp [hc]) hrest' (by omega) (Cursor.fits_past hsize) (by
      rw [hrest', List.length_append, List.length_cons]
      omega)]
    simp [← Cursor.past_append]

end QuotedScalar

end BindingRegions.Yaml

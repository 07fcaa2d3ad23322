import BindingRegions.Proofs.Failure
import BindingRegions.Proofs.Yaml.Cursor
import BindingRegions.Proofs.Yaml.Indentation
import BindingRegions.Yaml.BlockScalar

/-! Literal blocks read back. A text is lines and the breaks between them, with breaks in front
and behind; the reader takes line by line, and the header says what the breaks behind the last
line become. -/

namespace BindingRegions.Yaml

open ScalarText

/-- A text that starts and ends with a line, in which breaks stand only between lines. -/
inductive LineText : List Char → Prop
  | last (line : List Char) (hne : line ≠ []) (hline : ∀ c ∈ line, isBreak c = false) : LineText line
  | more (line : List Char) (c : Char) (breaks rest : List Char) (hne : line ≠ [])
      (hline : ∀ d ∈ line, isBreak d = false) (hbreaks : ∀ d ∈ c :: breaks, isBreak d = true)
      (tail : LineText rest) : LineText (line ++ (c :: breaks ++ rest))

theorem LineText.exists_cons {chars : List Char} (h : LineText chars) :
    ∃ c rest, chars = c :: rest ∧ isBreak c = false := by
  cases h with
  | last line hne hline =>
    obtain ⟨c, rest, rfl⟩ := List.exists_cons_of_ne_nil hne
    exact ⟨c, rest, rfl, hline c List.mem_cons_self⟩
  | more line d breaks rest hne hline =>
    obtain ⟨c, front, rfl⟩ := List.exists_cons_of_ne_nil hne
    exact ⟨c, _, rfl, hline c List.mem_cons_self⟩

namespace BlockScalar

variable {n k fuel widest : Nat} {breaks tail next chars : List Char} {here : Cursor} {c : Char}

/-! ### Indentation and empty lines -/

/-- How many of the spaces at a place are skipped. -/
def skipped (here : Cursor) : Option Nat → Nat
  | some n => min (here.rest.takeWhile (· = ' ')).length (n - here.column)
  | none => (here.rest.takeWhile (· = ' ')).length

theorem skipEmpty_succ {indent : Option Nat} {acc : List Char} (hskipped : skipped here indent = k)
    (hrest : here.rest = spaces k ++ tail) (htab : tail.head? ≠ some '\t') :
    skipEmpty indent (fuel + 1) widest acc here =
      match (here.past (spaces k)).lineBreak? with
      | some (newline, after) =>
        skipEmpty indent fuel (max widest (here.column + k)) (acc ++ [newline]) after
      | none => .ok (max widest (here.column + k), acc, here.past (spaces k)) := by
  have hpast : here.past (spaces k) = here.skip (spaces k).length := Cursor.past_eq_skip isBreak_spaces
  rw [length_spaces] at hpast
  have hpeek : (here.skip k).peek ≠ some '\t' := by
    rwa [← hpast, Cursor.peek, Cursor.rest_past hrest]
  have hcolumn : (here.skip k).column = here.column + k := rfl
  rw [hpast]
  cases indent <;>
  · simp only [skipped] at hskipped
    simp only [skipEmpty, hskipped, hpeek, hcolumn, decide_false, Bool.false_and, Bool.false_eq_true, if_false]
    rfl

theorem takeWhile_spaces (htail : ∀ d ∈ tail.head?, d ≠ ' ') :
    ((spaces k ++ tail).takeWhile (· = ' ')).length = k := by
  rw [List.takeWhile_append_of_pos (by simpa using fun d => eq_space_of_mem_spaces)]
  cases tail with
  | nil => simp
  | cons d tail => simp [htail d rfl]

/-- What may stand behind skipped indentation of the given width: no break and no tab, and no space
left of the block's column. Blanks right of that column belong to the line. -/
def StopsSkip (n k : Nat) (tail : List Char) : Prop :=
  ∀ d ∈ tail.head?, isBreak d = false ∧ d ≠ '\t' ∧ (k < n → d ≠ ' ')

theorem stopsSkip_of_endsWord (h : ∀ d ∈ next.head?, endsWord (some d) = false) : StopsSkip n k next :=
  fun d hd => ⟨(endsWord_eq_false_iff.1 (h d hd)).2, ne_of_endsWord (h d hd) (by decide),
    fun _ => ne_of_endsWord (h d hd) (by decide)⟩

theorem StopsSkip.lineBreak?_eq_none (h : StopsSkip n k tail) (hrest : here.rest = spaces k ++ tail) :
    (here.past (spaces k)).lineBreak? = none :=
  Cursor.lineBreak?_of_not_break (by
    rw [Cursor.rest_past hrest]
    exact fun d hd => (h d hd).1)

theorem skipped_some (hrest : here.rest = spaces k ++ tail) (hcolumn : here.column = 0) (hk : k ≤ n)
    (htail : StopsSkip n k tail) : skipped here (some n) = k := by
  rw [skipped, hrest, hcolumn]
  obtain hlt | rfl := Nat.lt_or_eq_of_le hk
  · rw [takeWhile_spaces fun d hd => (htail d hd).2.2 hlt]
    omega
  · rw [List.takeWhile_append_of_pos (by simpa using fun d => eq_space_of_mem_spaces),
      List.length_append, length_spaces]
    omega

/-- At the start of a line, breaks and the indentation behind them are skipped. -/
theorem skipEmpty_eq {acc : List Char} (hrest : here.rest = breaks ++ (spaces k ++ tail))
    (hcolumn : here.column = 0) (hbreaks : ∀ d ∈ breaks, isPrintable d = true ∧ isBreak d = true)
    (hk : k ≤ n) (htail : StopsSkip n k tail) (hfuel : breaks.length < fuel) :
    skipEmpty (some n) fuel widest acc here =
      .ok (max widest k, acc ++ breaks, here.past (breaks ++ spaces k)) := by
  induction breaks generalizing here widest fuel acc with
  | nil =>
    obtain ⟨fuel, rfl⟩ : ∃ m, fuel = m + 1 := ⟨fuel - 1, by omega⟩
    rw [List.nil_append] at hrest
    rw [skipEmpty_succ (skipped_some hrest hcolumn hk htail) hrest fun h => (htail _ h).2.1 rfl,
      htail.lineBreak?_eq_none hrest, hcolumn]
    simp
  | cons c breaks ih =>
    obtain ⟨fuel, rfl⟩ : ∃ m, fuel = m + 1 := ⟨fuel - 1, by omega⟩
    obtain ⟨⟨hprintable, hbreak⟩, hbreaks⟩ := List.forall_mem_cons.1 hbreaks
    have hspace : c ≠ ' ' := by
      rintro rfl
      exact absurd hbreak (by decide)
    have hskipped : skipped here (some n) = 0 := by simp [skipped, hrest, hspace]
    have hnone : here.rest = spaces 0 ++ c :: (breaks ++ (spaces k ++ tail)) := hrest
    rw [List.length_cons] at hfuel
    rw [skipEmpty_succ hskipped hnone (by simpa using ne_tab_of_isPrintable hprintable), spaces_zero,
      Cursor.past_nil, Cursor.lineBreak?_of_break hrest hprintable hbreak, hcolumn]
    show skipEmpty (some n) fuel _ _ (here.past [c]) = _
    rw [ih (Cursor.rest_past hrest) (Cursor.column_past_break hbreak) hbreaks (by omega)]
    simp [← Cursor.past_cons]

theorem skipEmpty_fresh (hrest : here.rest = breaks ++ (spaces k ++ tail)) (hcolumn : here.column = 0)
    (hbreaks : ∀ d ∈ breaks, isPrintable d = true ∧ isBreak d = true) (hk : k ≤ n)
    (htail : StopsSkip n k tail) (hsize : here.rest.length ≤ here.size) :
    skipEmpty (some n) (here.size + 1) 0 [] here = .ok (k, breaks, here.past (breaks ++ spaces k)) := by
  rw [hrest, List.length_append] at hsize
  rw [skipEmpty_eq hrest hcolumn hbreaks hk htail (by omega), Nat.zero_max, List.nil_append]

/-! ### Lines -/

/-- One line, the breaks behind it and the indentation of what follows. -/
theorem readLines_succ (fuel : Nat) (lines : Lines) {line : List Char} (hne : line ≠ [])
    (hline : ∀ d ∈ line, isBreak d = false)
    (hrest : here.rest = line ++ (c :: breaks ++ (spaces k ++ tail))) (hcolumn : here.column = n)
    (hbreaks : ∀ d ∈ c :: breaks, isPrintable d = true ∧ isBreak d = true) (hk : k ≤ n)
    (htail : StopsSkip n k tail) (hsize : here.rest.length ≤ here.size) :
    ∃ indented, readLines false n (fuel + 1) lines here =
      readLines false n fuel
        ⟨lines.text ++ (lines.leading.toList ++ lines.trailing) ++ line, some c, breaks, indented⟩
        (here.past (line ++ (c :: breaks ++ spaces k))) := by
  obtain ⟨first, line, rfl⟩ := List.exists_cons_of_ne_nil hne
  obtain ⟨⟨hprintable, hbreak⟩, hbreaks⟩ := List.forall_mem_cons.1 hbreaks
  have htake : here.takeWhile (fun d => !isBreak d) = (first :: line, here.past (first :: line)) :=
    Cursor.takeWhile_eq hrest (by simpa using hline) (by simp [hbreak]) hline
  have hmid := Cursor.rest_past hrest
  have hend : (here.past (first :: line)).lineBreak? = some (c, (here.past (first :: line)).past [c]) :=
    Cursor.lineBreak?_of_break hmid hprintable hbreak
  have hbehind : ((here.past (first :: line)).past [c]).rest = breaks ++ (spaces k ++ tail) :=
    Cursor.rest_past hmid
  have hskip := skipEmpty_fresh hbehind (Cursor.column_past_break hbreak) hbreaks hk htail
    (Cursor.fits_past (Cursor.fits_past hsize))
  refine ⟨isBlank first, ?_⟩
  rw [readLines]
  simp only [hcolumn, Cursor.peek_eq hrest, htake, hend, hskip, Lines.joint, ne_eq, not_true_eq_false,
    if_false, ok_bind, Bool.false_and, Bool.false_eq_true]
  rw [← Cursor.past_append, ← Cursor.past_append]
  simp

theorem readLines_end {lines : Lines} (h : here.column ≠ n) :
    readLines false n fuel lines here = .ok (lines, here) := by
  cases fuel with
  | zero => rfl
  | succ fuel =>
    rw [readLines]
    simp [h]

/-- A line with another one behind it. -/
theorem indentLines_line {line gap rest : List Char} {d e : Char} (hline : ∀ c ∈ line, isBreak c = false)
    (hgap : ∀ c ∈ d :: gap, isBreak c = true) (he : isBreak e = false) :
    indentLines n false (line ++ (d :: gap ++ e :: rest)) =
      line ++ (d :: gap ++ (spaces n ++ indentLines n false (e :: rest))) := by
  rw [List.forall_mem_cons] at hgap
  rw [indentLines_inline hline, List.cons_append, indentLines_break_cons hgap.1, indentLines_breaks hgap.2,
    indentLines_fresh he]
  rfl

theorem indentLines_cons (hc : isBreak c = false) :
    indentLines n false (c :: chars) = c :: indentLines n false chars := by
  rw [indentLines, hc]
  rfl

/-- The lines of a block, from where the first one's text starts, to where no line of the block
follows. -/
theorem readLines_eq (fuel : Nat) (lines : Lines) (h : LineText chars)
    (hrest : here.rest = indentLines n false chars ++ (c :: breaks ++ (spaces k ++ next)))
    (hcolumn : here.column = n) (hchars : ∀ d ∈ chars, isPrintable d = true)
    (hbreaks : ∀ d ∈ c :: breaks, isPrintable d = true ∧ isBreak d = true) (hk : k < n)
    (hnext : ∀ d ∈ next.head?, endsWord (some d) = false)
    (hsize : here.rest.length ≤ here.size) (hfuel : here.rest.length ≤ fuel) :
    ∃ indented, readLines false n fuel lines here =
      .ok (⟨lines.text ++ (lines.leading.toList ++ lines.trailing) ++ chars, some c, breaks, indented⟩,
        here.past (indentLines n false chars ++ (c :: breaks ++ spaces k))) := by
  have hpositive : 0 < here.rest.length := by
    rw [hrest, List.length_append, List.cons_append, List.length_cons]
    omega
  obtain ⟨fuel, rfl⟩ : ∃ m, fuel = m + 1 := ⟨fuel - 1, by omega⟩
  -- Behind each line but the last the reader is at the block's column again.
  induction h generalizing here lines fuel with
  | last line hne hline =>
    rw [indentLines_of_inline hline] at hrest ⊢
    have hend : (here.past (line ++ (c :: breaks ++ spaces k))).column ≠ n := by
      rw [Cursor.past_append, Cursor.column_past_breaks (fun d hd => (hbreaks d hd).2) isBreak_spaces,
        length_spaces]
      exact Nat.ne_of_lt hk
    obtain ⟨indented, hstep⟩ := readLines_succ fuel lines hne hline hrest hcolumn hbreaks (Nat.le_of_lt hk)
      (stopsSkip_of_endsWord hnext) hsize
    exact ⟨indented, hstep.trans (readLines_end hend)⟩
  | more line d gap rest hne hline hgap tail ih =>
    obtain ⟨e, rest, rfl, he⟩ := tail.exists_cons
    have hgap' : ∀ c ∈ d :: gap, isPrintable c = true ∧ isBreak c = true := fun c hc =>
      ⟨hchars c (List.mem_append_right _ (List.mem_append_left _ hc)), hgap c hc⟩
    have htab : e ≠ '\t' := ne_tab_of_isPrintable (hchars e (by simp))
    rw [indentLines_line hline hgap he] at hrest ⊢
    simp only [List.append_assoc] at hrest
    obtain ⟨_, hstep⟩ := readLines_succ fuel lines hne hline hrest hcolumn hgap' (Nat.le_refl n)
      (by simp [StopsSkip, indentLines_cons he, he, htab]) hsize
    have hbehind : (here.past (line ++ (d :: gap ++ spaces n))).rest =
        indentLines n false (e :: rest) ++ (c :: breaks ++ (spaces k ++ next)) :=
      Cursor.rest_past (by simp [hrest])
    have hcolumn' : (here.past (line ++ (d :: gap ++ spaces n))).column = n := by
      rw [Cursor.past_append, Cursor.column_past_breaks hgap isBreak_spaces, length_spaces]
    have hlength := congrArg List.length hrest
    have hlength' := congrArg List.length hbehind
    simp only [List.length_append, List.length_cons, length_spaces] at hlength hlength'
    obtain ⟨fuel, rfl⟩ : ∃ m, fuel = m + 1 := ⟨fuel - 1, by omega⟩
    obtain ⟨indented, hlines⟩ := ih _ hbehind hcolumn'
      (fun c hc => hchars c (List.mem_append_right _ (List.mem_append_right _ hc))) (Cursor.fits_past hsize)
      (by omega) fuel (by omega)
    refine ⟨indented, hstep.trans (hlines.trans ?_)⟩
    rw [← Cursor.past_append]
    simp

/-! ### The header -/

/-- The header's marks: a hint, and what becomes of the breaks at the end. -/
def marks (hint : Bool) (chomping : Chomping) : List Char :=
  (if hint then ['2'] else []) ++
    match chomping with
    | .strip => ['-']
    | .clip => []
    | .keep => ['+']

theorem header_eq {hint : Bool} {chomping : Chomping}
    (hrest : here.rest = marks hint chomping ++ '\n' :: tail) :
    header here =
      .ok (⟨chomping, if hint then some 2 else none⟩, here.past (marks hint chomping ++ ['\n'])) := by
  have hinline : ∀ c ∈ marks hint chomping, isBreak c = false :=
    forall_mem_of_all (by cases hint <;> cases chomping <;> decide)
  have hmarks : indicators here =
      (⟨chomping, if hint then some 2 else none⟩, here.past (marks hint chomping)) := by
    rw [Cursor.past_eq_skip hinline, indicators, Cursor.peek, Cursor.ahead, hrest]
    cases hint <;> cases chomping <;> simp [marks, chomping?, increment?, Cursor.skip]
  have hmid : (here.past (marks hint chomping)).rest = '\n' :: tail := Cursor.rest_past hrest
  have hblank : (here.past (marks hint chomping)).skipWhile isBlank = here.past (marks hint chomping) :=
    Cursor.skipWhile_eq_self (by simp [hmid]; decide)
  have hend := Cursor.lineBreak?_of_break hmid (by decide) (by decide)
  rw [header, hmarks]
  cases hint <;> simp [hblank, Cursor.peek_eq hmid, hend, Cursor.past_append]

/-! ### The whole scalar -/

/-- The column of a block: given by the header's hint, or else by the first line, which must then
show it. -/
def column? (hint : Bool) (n : Nat) : Option Nat := if hint then some n else none

theorem skipEmpty_opening {hint : Bool} {lead : List Char}
    (hhint : hint = false → lead = [] ∧ tail.head? ≠ some ' ')
    (hrest : here.rest = lead ++ (spaces n ++ tail)) (hcolumn : here.column = 0)
    (hlead : ∀ d ∈ lead, isPrintable d = true ∧ isBreak d = true) (htail : StopsSkip n n tail)
    (hsize : here.rest.length ≤ here.size) :
    skipEmpty (column? hint n) (here.size + 1) 0 [] here = .ok (n, lead, here.past (lead ++ spaces n)) := by
  cases hint with
  | true => exact skipEmpty_fresh hrest hcolumn hlead (Nat.le_refl n) htail hsize
  | false =>
    obtain ⟨rfl, hspace⟩ := hhint rfl
    rw [List.nil_append] at hrest
    have hskipped : skipped here none = n := by
      rw [skipped, hrest, takeWhile_spaces]
      rintro d hd rfl
      exact hspace hd
    rw [column?, if_neg (by decide), skipEmpty_succ hskipped hrest fun h => (htail _ h).2.1 rfl,
      htail.lineBreak?_eq_none hrest, hcolumn]
    simp

/-- The place behind the header line. -/
def start (here : Cursor) (hint : Bool) (chomping : Chomping) : Cursor :=
  here.past ('|' :: (marks hint chomping ++ ['\n']))

theorem column_start (here : Cursor) (hint : Bool) (chomping : Chomping) :
    (start here hint chomping).column = 0 := by
  rw [start, ← List.cons_append, Cursor.past_append]
  exact Cursor.column_past_break (by decide)

theorem rest_start {hint : Bool} {chomping : Chomping}
    (hrest : here.rest = '|' :: (marks hint chomping ++ '\n' :: tail)) :
    (start here hint chomping).rest = tail :=
  Cursor.rest_past (by rw [hrest]; simp)

/-- What a block's lines and the breaks behind them come to. -/
def chomped (chomping : Chomping) (lines : Lines) : List Char :=
  match chomping with
  | .strip => lines.text
  | .clip => lines.text ++ lines.leading.toList
  | .keep => lines.text ++ lines.leading.toList ++ lines.trailing

/-- The parts of a block: its header, the empty lines in front, and its lines. -/
theorem read_eq {enclosing : Nat} {hint : Bool} {chomping : Chomping} {lead : List Char} {lines : Lines}
    {mid after : Cursor} (hrest : here.rest = '|' :: (marks hint chomping ++ '\n' :: tail))
    (hwidest : hint = false → widest = enclosing + 2)
    (hlead : skipEmpty (column? hint (enclosing + 2)) ((start here hint chomping).size + 1) 0 []
      (start here hint chomping) = .ok (widest, lead, mid))
    (hlines : readLines false (enclosing + 2) (mid.size + 1) ⟨[], none, lead, false⟩ mid =
      .ok (lines, after)) :
    read false enclosing here = .ok (String.ofList (chomped chomping lines), after) := by
  have hbehind : (here.past ['|']).rest = marks hint chomping ++ '\n' :: tail := Cursor.rest_past hrest
  have hheader := header_eq hbehind
  rw [← Cursor.past_append] at hheader
  have hknown : (if hint then some 2 else none).map (fun m => (max (enclosing : Int) 0).toNat + m) =
      column? hint (enclosing + 2) := by
    cases hint <;> simp [column?]
  have hindent : (column? hint (enclosing + 2)).getD
      (max (max widest ((enclosing : Int) + 1).toNat) 1) = enclosing + 2 := by
    cases hint
    · simp [column?, hwidest rfl]
    · rfl
  have hopen : here.skip 1 = here.past ['|'] := rfl
  rw [start] at hlead
  rw [read, hopen, hheader]
  simp only [hknown, List.singleton_append, hlead, hindent, hlines, ok_bind]
  cases chomping <;> rfl

/-- A block that has a line. The breaks behind the last one are read too, and the indentation of
what follows. -/
theorem read_lines {enclosing : Nat} {hint : Bool} {chomping : Chomping} {lead text : List Char}
    (htext : LineText text) (hprintable : ∀ d ∈ text, isPrintable d = true)
    (hlead : ∀ d ∈ lead, isPrintable d = true ∧ isBreak d = true)
    (hbreaks : ∀ d ∈ c :: breaks, isPrintable d = true ∧ isBreak d = true)
    (hhint : hint = false → lead = [] ∧ text.head? ≠ some ' ') (hk : k < enclosing + 2)
    (hrest : here.rest = '|' :: (marks hint chomping ++ '\n' :: (lead ++ (spaces (enclosing + 2) ++
      (indentLines (enclosing + 2) false text ++ (c :: breaks ++ (spaces k ++ next)))))))
    (hnext : ∀ d ∈ next.head?, endsWord (some d) = false) (hsize : here.rest.length ≤ here.size) :
    ∃ indented, read false enclosing here =
      .ok (String.ofList (chomped chomping ⟨lead ++ text, some c, breaks, indented⟩),
        here.past ('|' :: (marks hint chomping ++ '\n' :: (lead ++ (spaces (enclosing + 2) ++
          (indentLines (enclosing + 2) false text ++ (c :: breaks ++ spaces k))))))) := by
  have hstart := rest_start hrest
  have hcolumn := column_start here hint chomping
  have hfits : (start here hint chomping).rest.length ≤ (start here hint chomping).size :=
    Cursor.fits_past hsize
  obtain ⟨first, rest, rfl, hfirst⟩ := htext.exists_cons
  have htab : first ≠ '\t' := ne_tab_of_isPrintable (hprintable first List.mem_cons_self)
  have hopening := skipEmpty_opening
    (fun h => ⟨(hhint h).1, by simpa [indentLines_cons hfirst] using (hhint h).2⟩) hstart hcolumn hlead
    (by simp [StopsSkip, indentLines_cons hfirst, hfirst, htab]) hfits
  rw [← List.append_assoc] at hstart
  have hlineColumn : ((start here hint chomping).past (lead ++ spaces (enclosing + 2))).column =
      enclosing + 2 := by
    rw [Cursor.column_past_lead hcolumn (fun d hd => (hlead d hd).2) isBreak_spaces, length_spaces]
  obtain ⟨indented, hlines⟩ := readLines_eq
    (((start here hint chomping).past (lead ++ spaces (enclosing + 2))).size + 1) ⟨[], none, lead, false⟩ htext
    (Cursor.rest_past hstart) hlineColumn hprintable hbreaks hk hnext (Cursor.fits_past hfits)
    (Nat.le_trans (Cursor.fits_past hfits) (Nat.le_succ _))
  refine ⟨indented, (read_eq hrest (fun _ => rfl) hopening hlines).trans ?_⟩
  simp [start, ← Cursor.past_append]

/-- A block without lines, all of whose breaks are kept. -/
theorem read_breaks {enclosing : Nat} {lead : List Char}
    (hlead : ∀ d ∈ lead, isPrintable d = true ∧ isBreak d = true) (hk : k < enclosing + 2)
    (hrest : here.rest = '|' :: (marks true .keep ++ '\n' :: (lead ++ (spaces k ++ next))))
    (hnext : ∀ d ∈ next.head?, endsWord (some d) = false) (hsize : here.rest.length ≤ here.size) :
    read false enclosing here =
      .ok (String.ofList lead, here.past ('|' :: (marks true .keep ++ '\n' :: (lead ++ spaces k)))) := by
  have hcolumn := column_start here true .keep
  have hskip := skipEmpty_fresh (rest_start hrest) hcolumn hlead (Nat.le_of_lt hk)
    (stopsSkip_of_endsWord hnext) (Cursor.fits_past hsize)
  have hend : ((start here true .keep).past (lead ++ spaces k)).column ≠ enclosing + 2 := by
    rw [Cursor.column_past_lead hcolumn (fun d hd => (hlead d hd).2) isBreak_spaces, length_spaces]
    exact Nat.ne_of_lt hk
  rw [read_eq hrest nofun hskip (readLines_end hend)]
  simp [chomped, start, ← Cursor.past_append]

end BlockScalar

end BindingRegions.Yaml

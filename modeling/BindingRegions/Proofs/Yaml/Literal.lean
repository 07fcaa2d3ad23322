import BindingRegions.Proofs.Yaml.BlockScalar
import BindingRegions.Proofs.Yaml.Words
import BindingRegions.Yaml.ScalarText

/-! Literal blocks as they are written. A text is cut into the breaks in front, its lines and
the breaks behind; where there are none behind, the writer adds a newline and has the header say
so. -/

namespace BindingRegions.Yaml

open ScalarText BlockScalar

variable {chars next : List Char} {k : Nat} {here : Cursor} {c : Char}

/-- A text that starts with a line is lines up to the breaks behind the last one. -/
theorem exists_lineText (chars : List Char) (hne : chars ≠ [])
    (hfirst : ∀ c ∈ chars.head?, isBreak c = false) :
    ∃ text ends, chars = text ++ ends ∧ LineText text ∧ ∀ c ∈ ends, isBreak c = true := by
  have hline : ∀ c ∈ chars.takeWhile (fun c => !isBreak c), isBreak c = false := fun c hc => by
    simpa using List.mem_takeWhile_imp hc
  have hlineNe : chars.takeWhile (fun c => !isBreak c) ≠ [] := by
    obtain ⟨c, chars, rfl⟩ := List.exists_cons_of_ne_nil hne
    simp [hfirst c rfl]
  have hcut := List.takeWhile_append_dropWhile (p := fun c => !isBreak c) (l := chars)
  have hend : ∀ c ∈ (chars.dropWhile fun c => !isBreak c).head?, (!isBreak c) = false :=
    head?_dropWhile_eq_false
  rcases hrest : chars.dropWhile (fun c => !isBreak c) with - | ⟨c, rest⟩
  · rw [hrest, List.append_nil] at hcut
    exact ⟨chars, [], (List.append_nil _).symm, hcut ▸ .last _ hlineNe hline, by simp⟩
  have hc : isBreak c = true := by simpa [hrest] using hend
  have hgap : ∀ d ∈ c :: rest.takeWhile isBreak, isBreak d = true :=
    List.forall_mem_cons.2 ⟨hc, fun _ => List.mem_takeWhile_imp⟩
  rw [hrest, ← List.takeWhile_append_dropWhile (p := isBreak) (l := rest)] at hcut
  by_cases hback : rest.dropWhile isBreak = []
  · rw [hback, List.append_nil] at hcut
    exact ⟨_, c :: rest.takeWhile isBreak, hcut.symm, .last _ hlineNe hline, hgap⟩
  · obtain ⟨text, ends, hrest', htext, hends⟩ :=
      exists_lineText (rest.dropWhile isBreak) hback head?_dropWhile_eq_false
    refine ⟨_, ends, hcut.symm.trans ?_, .more _ c _ text hlineNe hline hgap htext, hends⟩
    rw [hrest']
    simp
termination_by chars.length
decreasing_by
  have hshorter := List.length_dropWhile_le isBreak rest
  have hlength := congrArg List.length (List.takeWhile_append_dropWhile (p := fun c => !isBreak c) (l := chars))
  rw [hrest, List.length_append, List.length_cons] at hlength
  omega

theorem LineText.exists_concat (h : LineText chars) :
    ∃ front c, chars = front ++ [c] ∧ isBreak c = false := by
  induction h with
  | last line hne hline =>
    refine ⟨line.dropLast, line.getLast hne, (List.dropLast_concat_getLast hne).symm, ?_⟩
    exact hline _ (List.getLast_mem hne)
  | more line d gap rest hne hline hgap tail ih =>
    obtain ⟨front, c, rfl, hc⟩ := ih
    exact ⟨line ++ (d :: gap ++ front), c, by simp, hc⟩

/-- What the header says about the breaks behind the last line. -/
def chompingOf : List Char → Chomping
  | [] => .strip
  | [_] => .clip
  | _ => .keep

/-- Whether the header must give the block's column. -/
def hinted (chars : List Char) : Bool := chars.head?.any fun c => c = ' ' || isBreak c

/-- The header looks at the last two characters only. -/
theorem literalHeader_eq (front : List Char) {ends : List Char} (hc : isBreak c = false)
    (hends : ∀ d ∈ ends, isBreak d = true) :
    literalHeader (front ++ c :: ends) = '|' :: marks (hinted (front ++ c :: ends)) (chompingOf ends) := by
  rw [literalHeader, hinted, List.cons_append, List.reverse_append, List.reverse_cons]
  refine congrArg (List.cons '|' ∘ List.append _) ?_
  rcases List.eq_nil_or_concat ends with rfl | ⟨ends, last, rfl⟩
  · cases front.reverse <;> simp [chompingOf, hc]
  have hlast : isBreak last = true := hends last (by simp)
  rcases List.eq_nil_or_concat ends with rfl | ⟨ends, previous, rfl⟩
  · simp [chompingOf, hlast, hc]
  have hprevious : isBreak previous = true := hends previous (by simp)
  cases ends <;> simp [chompingOf, hlast, hprevious]

theorem literalHeader_breaks (hne : chars ≠ []) (hchars : ∀ d ∈ chars, isBreak d = true) :
    literalHeader chars = '|' :: marks true .keep := by
  have hhint : hinted chars = true := by
    obtain ⟨c, chars, rfl⟩ := List.exists_cons_of_ne_nil hne
    simp [hinted, hchars c]
  have hreverse : ∀ d ∈ chars.reverse, isBreak d = true := fun d hd => hchars d (List.mem_reverse.1 hd)
  rw [hinted] at hhint
  rw [literalHeader, hhint, marks]
  rcases hlast : chars.reverse with - | ⟨last, - | ⟨previous, rest⟩⟩
  · exact absurd (List.reverse_eq_nil_iff.1 hlast) hne
  · simp [hreverse last (by simp [hlast])]
  · simp [hreverse last (by simp [hlast]), hreverse previous (by simp [hlast])]

/-- The newline that a scalar without a break at its end is given. -/
def ending (chars : List Char) : List Char :=
  if chars.getLast?.any isBreak then [] else ['\n']

theorem ending_concat (h : isBreak c = false) (front : List Char) : ending (front ++ [c]) = ['\n'] := by
  simp [ending, h]

theorem ending_literal (n : Nat) (hne : chars ≠ []) : ending (literal n chars) = ending chars := by
  have hbody : indentLines n true chars ≠ [] := by
    intro h
    have hlast := getLast?_indentLines n true chars
    rw [h, List.getLast?_nil] at hlast
    exact hne (List.getLast?_eq_none_iff.1 hlast.symm)
  rw [ending, ending, literal, List.getLast?_append_of_ne_nil _ (List.cons_ne_nil _ _),
    ← List.singleton_append, List.getLast?_append_of_ne_nil _ hbody, getLast?_indentLines]

/-- The breaks behind the last line, of which there is one at least; the header has the reader keep
those of the text. -/
theorem exists_breaks (front : List Char) {ends : List Char} (hc : isBreak c = false)
    (hends : ∀ d ∈ ends, isPrintable d = true ∧ isBreak d = true) :
    ∃ d breaks, ends ++ ending (front ++ c :: ends) = d :: breaks ∧
      (∀ e ∈ d :: breaks, isPrintable e = true ∧ isBreak e = true) ∧
      ∀ text indented, chomped (chompingOf ends) ⟨text, some d, breaks, indented⟩ = text ++ ends := by
  rcases ends with - | ⟨d, breaks⟩
  · exact ⟨'\n', [], by rw [ending_concat hc, List.nil_append], forall_mem_of_all (by decide),
      by simp [chompingOf, chomped]⟩
  · have hending : ending (front ++ c :: d :: breaks) = [] := by
      obtain ⟨last, hlast⟩ : ∃ last, (d :: breaks).getLast? = some last :=
        ⟨_, List.getLast?_eq_some_getLast (List.cons_ne_nil d breaks)⟩
      have hbreak := (hends last (List.mem_of_getLast? hlast)).2
      rw [ending, List.getLast?_append_of_ne_nil _ (List.cons_ne_nil _ _), List.getLast?_cons_cons, hlast]
      simp [hbreak]
    refine ⟨d, breaks, by rw [hending, List.append_nil], hends, fun text indented => ?_⟩
    cases breaks <;> simp [chompingOf, chomped]

/-- A text of breaks alone stands under a header that keeps them all. -/
theorem literal_breaks (n : Nat) (hne : chars ≠ []) (hchars : ∀ c ∈ chars, isBreak c = true) :
    literal n chars = '|' :: (marks true .keep ++ '\n' :: chars) ∧ ending chars = [] := by
  obtain ⟨last, hlast⟩ : ∃ last, chars.getLast? = some last := ⟨_, List.getLast?_eq_some_getLast hne⟩
  refine ⟨?_, by simp [ending, hlast, hchars last (List.mem_of_getLast? hlast)]⟩
  rw [literal, literalHeader_breaks hne hchars, indentLines_of_breaks hchars, List.cons_append]

/-- The column is shown by the text only if that starts with a line, and the line with no space. -/
theorem eq_nil_of_not_hinted {lead text tail : List Char} (hlead : ∀ c ∈ lead, isBreak c = true)
    (htext : LineText text) (h : hinted (lead ++ (text ++ tail)) = false) :
    lead = [] ∧ text.head? ≠ some ' ' := by
  obtain ⟨first, rest, rfl, -⟩ := htext.exists_cons
  cases lead with
  | nil =>
    refine ⟨rfl, ?_⟩
    rintro hspace
    simp_all [hinted]
  | cons e lead => simp [hinted, hlead e] at h

/-- A text with a line in it: the breaks in front, the lines, and the breaks behind, of which the
header says how many the text has. -/
theorem exists_literal {lead text ends : List Char} (n : Nat) (hlead : ∀ c ∈ lead, isBreak c = true)
    (htext : LineText text) (hends : ∀ d ∈ ends, isPrintable d = true ∧ isBreak d = true) :
    ∃ hint chomping d breaks, (hint = false → lead = [] ∧ text.head? ≠ some ' ') ∧
      (∀ e ∈ d :: breaks, isPrintable e = true ∧ isBreak e = true) ∧
      (∀ text indented, chomped chomping ⟨text, some d, breaks, indented⟩ = text ++ ends) ∧
      ∀ tail, literal n (lead ++ (text ++ ends)) ++ (ending (lead ++ (text ++ ends)) ++ tail) =
        '|' :: (marks hint chomping ++ '\n' :: (lead ++ (spaces n ++ (indentLines n false text ++
          (d :: breaks ++ tail))))) := by
  obtain ⟨front, c, hlast, hc⟩ := htext.exists_concat
  obtain ⟨d, breaks, hbehind, hbreaks, hchomped⟩ := exists_breaks (lead ++ front) hc hends
  have hchars : lead ++ front ++ c :: ends = lead ++ (text ++ ends) := by simp [hlast]
  have hheader := literalHeader_eq (lead ++ front) hc fun e he => (hends e he).2
  rw [hchars] at hbehind hheader
  refine ⟨hinted (lead ++ (text ++ ends)), _, d, breaks, eq_nil_of_not_hinted hlead htext, hbreaks,
    hchomped, fun tail => ?_⟩
  obtain ⟨first, rest, rfl, hfirst⟩ := htext.exists_cons
  rw [literal, hheader, indentLines_breaks hlead, indentLines_append_breaks fun e he => (hends e he).2,
    indentLines_fresh hfirst, ← hbehind]
  simp

/-- A text in a literal block is read to where the next line's text starts, which must be left of the
block's column. -/
theorem read_literal {enclosing : Nat} (hprintable : ∀ c ∈ chars, isPrintable c = true) (hne : chars ≠ [])
    (hk : k < enclosing + 2)
    (hrest : here.rest = literal (enclosing + 2) chars ++ (ending chars ++ (spaces k ++ next)))
    (hnext : ∀ d ∈ next.head?, endsWord (some d) = false) (hsize : here.rest.length ≤ here.size) :
    BlockScalar.read false enclosing here =
      .ok (String.ofList chars, here.past (literal (enclosing + 2) chars ++ (ending chars ++ spaces k))) := by
  obtain ⟨lead, rest, rfl, hlead, hrest'⟩ : ∃ lead rest, chars = lead ++ rest ∧
      (∀ c ∈ lead, isBreak c = true) ∧ ∀ c ∈ rest.head?, isBreak c = false :=
    ⟨_, _, List.takeWhile_append_dropWhile.symm, fun _ => List.mem_takeWhile_imp, head?_dropWhile_eq_false⟩
  have hlead' : ∀ c ∈ lead, isPrintable c = true ∧ isBreak c = true := fun c hc =>
    ⟨hprintable c (List.mem_append_left _ hc), hlead c hc⟩
  by_cases hlines : rest = []
  · subst hlines
    rw [List.append_nil] at hne hrest ⊢
    obtain ⟨hliteral, hending⟩ := literal_breaks (enclosing + 2) hne hlead
    rw [hliteral, hending] at hrest ⊢
    simp only [List.cons_append, List.append_assoc, List.nil_append] at hrest ⊢
    exact read_breaks hlead' hk hrest hnext hsize
  · obtain ⟨text, ends, rfl, htext, hends⟩ := exists_lineText rest hlines hrest'
    obtain ⟨hint, chomping, d, breaks, hhint, hbreaks, hchomped, hwritten⟩ :=
      exists_literal (enclosing + 2) hlead htext fun d hd => ⟨hprintable d (by simp [hd]), hends d hd⟩
    rw [hwritten] at hrest ⊢
    obtain ⟨indented, hread⟩ := read_lines htext (fun e he => hprintable e (by simp [he])) hlead' hbreaks hhint
      hk hrest hnext hsize
    rw [hread, hchomped, List.append_assoc]

end BindingRegions.Yaml

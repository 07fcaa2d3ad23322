import BindingRegions.Text.Lines
import Mathlib.Data.List.Basic

/-! The lines of a text and the text of lines. `splitChars` and `joinChars` undo one
another, up to the newline that joining puts behind an unterminated last line, and so do
`splitLines` and `joinLines` (`joinLines_splitLines`, `splitLines_joinLines_eq_self_iff`).
A line at its place in a text is a `LineAt`; those are exactly the lines that splitting
finds (`LineAt.splitChars_eq`, `exists_lineAt`). -/

namespace BindingRegions.Text

/-- The characters of lines, each with its newline. -/
def joinChars (lines : List (List Char)) : List Char := lines.flatMap (· ++ ['\n'])

/-- The text with a newline behind its last line, if that has none. -/
def terminate (text : List Char) : List Char :=
  if text.getLast?.all (· = '\n') then text else text ++ ['\n']

@[simp] theorem joinChars_nil : joinChars [] = [] := rfl

@[simp] theorem joinChars_cons (line : List Char) (lines : List (List Char)) :
    joinChars (line :: lines) = line ++ '\n' :: joinChars lines := by
  simp [joinChars]

@[simp] theorem joinChars_append (xs ys : List (List Char)) :
    joinChars (xs ++ ys) = joinChars xs ++ joinChars ys := by
  simp [joinChars]

@[simp] theorem terminate_nil : terminate [] = [] := rfl

theorem terminate_eq_ite (text : List Char) :
    terminate text =
      if text = [] ∨ text.getLast? = some '\n' then text else text ++ ['\n'] := by
  rcases List.eq_nil_or_concat text with rfl | ⟨init, last, rfl⟩
  · rfl
  · rw [List.concat_eq_append]
    simp [terminate]

theorem terminate_of_newline (text : List Char) : terminate (text ++ ['\n']) = text ++ ['\n'] := by
  simp [terminate]

/-- What lies before the last part of a text does not count for its termination. -/
theorem terminate_append (before : List Char) {text : List Char} (h : text ≠ []) :
    terminate (before ++ text) = before ++ terminate text := by
  obtain ⟨c, hc⟩ := Option.ne_none_iff_exists'.1 (mt List.getLast?_eq_none_iff.1 h)
  simp only [terminate, List.getLast?_append, hc, Option.some_or]
  split <;> simp

theorem terminate_line {line : List Char} (h : '\n' ∉ line) (hne : line ≠ []) :
    terminate line = line ++ ['\n'] := by
  have hlast : line.getLast hne ≠ '\n' := fun he => h (he ▸ List.getLast_mem hne)
  simp [terminate, List.getLast?_eq_some_getLast hne, hlast]

theorem terminate_joinChars (lines : List (List Char)) :
    terminate (joinChars lines) = joinChars lines := by
  rcases List.eq_nil_or_concat lines with rfl | ⟨first, line, rfl⟩
  · rfl
  · rw [List.concat_eq_append, joinChars_append, joinChars_cons, joinChars_nil,
      ← List.append_assoc, terminate_of_newline]

/-! ### Splitting -/

theorem splitChars_eq_nil_iff {text : List Char} : splitChars text = [] ↔ text = [] := by
  refine ⟨fun h => ?_, fun h => h ▸ rfl⟩
  cases text with
  | nil => rfl
  | cons c text =>
    rw [splitChars] at h
    split at h
    · cases h
    · split at h <;> cases h

theorem splitChars_line_append {line : List Char} (h : '\n' ∉ line) (rest : List Char) :
    splitChars (line ++ '\n' :: rest) = line :: splitChars rest := by
  induction line with
  | nil => simp
  | cons c line ih =>
    obtain ⟨hc, hline⟩ := not_or.1 (mt List.mem_cons.2 h)
    rw [List.cons_append, splitChars, if_neg (Ne.symm hc), ih hline]

theorem splitChars_line {line : List Char} (h : '\n' ∉ line) (hne : line ≠ []) :
    splitChars line = [line] := by
  induction line with
  | nil => exact absurd rfl hne
  | cons c line ih =>
    obtain ⟨hc, hline⟩ := not_or.1 (mt List.mem_cons.2 h)
    rw [splitChars, if_neg (Ne.symm hc)]
    by_cases hl : line = []
    · subst hl; rfl
    · rw [ih hline hl]

/-- The first line of a text is the whole text, or it ends with the first newline. -/
theorem splitChars_eq_cons {text line : List Char} {lines : List (List Char)}
    (h : splitChars text = line :: lines) :
    '\n' ∉ line ∧ (text = line ∧ line ≠ [] ∧ lines = [] ∨
      ∃ rest, text = line ++ '\n' :: rest ∧ splitChars rest = lines) := by
  induction text generalizing line lines with
  | nil => simp at h
  | cons c text ih =>
    by_cases hc : c = '\n'
    · subst hc
      rw [splitChars_newline, List.cons.injEq] at h
      obtain ⟨rfl, hrest⟩ := h
      exact ⟨List.not_mem_nil, .inr ⟨text, rfl, hrest⟩⟩
    · rw [splitChars, if_neg hc] at h
      cases hs : splitChars text with
      | nil =>
        rw [hs] at h
        simp only [List.cons.injEq] at h
        obtain ⟨rfl, rfl⟩ := h
        rw [splitChars_eq_nil_iff.1 hs]
        exact ⟨by simpa using Ne.symm hc, .inl ⟨rfl, by simp, rfl⟩⟩
      | cons first later =>
        rw [hs] at h
        simp only [List.cons.injEq] at h
        obtain ⟨rfl, rfl⟩ := h
        obtain ⟨hfirst, hcut⟩ := ih hs
        refine ⟨by simp [Ne.symm hc, hfirst], ?_⟩
        rcases hcut with ⟨rfl, -, hnil⟩ | ⟨rest, rfl, hrest⟩
        · exact .inl ⟨rfl, by simp, hnil⟩
        · exact .inr ⟨rest, rfl, hrest⟩

theorem newline_not_mem_of_mem_splitChars {text line : List Char} (h : line ∈ splitChars text) :
    '\n' ∉ line := by
  obtain ⟨before, after, hs⟩ := List.append_of_mem h
  induction before generalizing text with
  | nil => exact (splitChars_eq_cons hs).1
  | cons first before ih =>
    rcases (splitChars_eq_cons hs).2 with ⟨-, -, hnil⟩ | ⟨rest, -, hrest⟩
    · simp at hnil
    · exact ih (hrest ▸ by simp) hrest

theorem splitChars_joinChars_append {lines : List (List Char)} (h : ∀ line ∈ lines, '\n' ∉ line)
    (rest : List Char) : splitChars (joinChars lines ++ rest) = lines ++ splitChars rest := by
  induction lines with
  | nil => rfl
  | cons line lines ih =>
    rw [joinChars_cons, List.append_assoc, List.cons_append,
      splitChars_line_append (h line (by simp)), ih fun l hl => h l (by simp [hl]),
      List.cons_append]

theorem splitChars_joinChars {lines : List (List Char)} (h : ∀ line ∈ lines, '\n' ∉ line) :
    splitChars (joinChars lines) = lines := by
  simpa using splitChars_joinChars_append h []

theorem joinChars_splitChars (text : List Char) : joinChars (splitChars text) = terminate text := by
  generalize hs : splitChars text = lines
  induction lines generalizing text with
  | nil => rw [splitChars_eq_nil_iff.1 hs]; rfl
  | cons line lines ih =>
    obtain ⟨hline, ⟨rfl, hne, rfl⟩ | ⟨rest, rfl, hrest⟩⟩ := splitChars_eq_cons hs
    · rw [terminate_line hline hne, joinChars_cons, joinChars_nil]
    · rw [joinChars_cons, ih rest hrest, ← List.singleton_append, ← List.append_assoc]
      by_cases hr : rest = []
      · subst hr; simp [terminate_of_newline]
      · rw [← terminate_append _ hr]; simp

/-- A text is some lines with their newlines, and what is left behind the last newline. -/
theorem exists_joinChars_append (text : List Char) : ∃ lines last,
    text = joinChars lines ++ last ∧ (∀ line ∈ lines, '\n' ∉ line) ∧ '\n' ∉ last := by
  induction text with
  | nil => exact ⟨[], [], rfl, by simp, by simp⟩
  | cons c text ih =>
    obtain ⟨lines, last, rfl, hlines, hlast⟩ := ih
    by_cases hc : c = '\n'
    · subst hc
      exact ⟨[] :: lines, last, by simp, by simpa using hlines, hlast⟩
    · cases lines with
      | nil => exact ⟨[], c :: last, by simp, by simp, by simp [Ne.symm hc, hlast]⟩
      | cons line lines =>
        rw [List.forall_mem_cons] at hlines
        refine ⟨(c :: line) :: lines, last, by simp, ?_, hlast⟩
        rw [List.forall_mem_cons]
        exact ⟨by simp [Ne.symm hc, hlines.1], hlines.2⟩

theorem splitChars_joinChars_line {lines : List (List Char)} {last : List Char}
    (h : ∀ line ∈ lines, '\n' ∉ line) (hlast : '\n' ∉ last) :
    splitChars (joinChars lines ++ (last ++ ['\n'])) = lines ++ [last] := by
  rw [splitChars_joinChars_append h, splitChars_line_append hlast, splitChars_nil]

/-- A newline in a text is where its lines part. -/
theorem splitChars_append_newline (text rest : List Char) :
    splitChars (text ++ '\n' :: rest) = splitChars (text ++ ['\n']) ++ splitChars rest := by
  obtain ⟨lines, last, rfl, hlines, hlast⟩ := exists_joinChars_append text
  simp only [List.append_assoc, splitChars_joinChars_append hlines, splitChars_line_append hlast,
    splitChars_nil, List.cons_append, List.nil_append]

/-- Joined texts that may hold newlines themselves come apart one by one. -/
theorem splitChars_joinChars_eq_flatMap (texts : List (List Char)) :
    splitChars (joinChars texts) = texts.flatMap fun text => splitChars (text ++ ['\n']) := by
  induction texts with
  | nil => rfl
  | cons text texts ih =>
    rw [joinChars_cons, splitChars_append_newline, ih, List.flatMap_cons]

/-! ### Lines of strings -/

theorem toList_joinLines_eq (lines : List String) :
    (joinLines lines).toList = joinChars (lines.map String.toList) := by
  rw [toList_joinLines, joinChars, List.flatMap_map]

theorem joinLines_append (xs ys : List String) :
    joinLines (xs ++ ys) = joinLines xs ++ joinLines ys := by
  apply String.toList_inj.1
  rw [String.toList_append]
  simp only [toList_joinLines_eq, List.map_append, joinChars_append]

theorem map_toList_splitLines (content : String) :
    (splitLines content).map String.toList = splitChars content.toList := by
  simp [splitLines, List.map_map, Function.comp_def]

theorem newline_not_mem_of_mem_splitLines {content line : String}
    (h : line ∈ splitLines content) : '\n' ∉ line.toList := by
  have hmem : line.toList ∈ splitChars content.toList := by
    rw [← map_toList_splitLines]
    exact List.mem_map_of_mem h
  exact newline_not_mem_of_mem_splitChars hmem

theorem splitLines_joinLines {lines : List String} (h : ∀ line ∈ lines, '\n' ∉ line.toList) :
    splitLines (joinLines lines) = lines := by
  rw [splitLines, toList_joinLines_eq, splitChars_joinChars (by simpa using h), List.map_map]
  simp [Function.comp_def]

theorem mem_splitLines_joinLines_iff {line : String} {texts : List String} :
    line ∈ splitLines (joinLines texts) ↔
      ∃ text ∈ texts, line.toList ∈ splitChars (text.toList ++ ['\n']) := by
  have hinj : Function.Injective String.toList := fun _ _ => String.toList_injective
  rw [← List.mem_map_of_injective hinj, map_toList_splitLines, toList_joinLines_eq,
    splitChars_joinChars_eq_flatMap, List.flatMap_map, List.mem_flatMap]

theorem toList_joinLines_splitLines (content : String) :
    (joinLines (splitLines content)).toList = terminate content.toList := by
  rw [toList_joinLines_eq, map_toList_splitLines, joinChars_splitChars]

theorem joinLines_splitLines_joinLines (lines : List String) :
    joinLines (splitLines (joinLines lines)) = joinLines lines := by
  apply String.toList_inj.1
  rw [toList_joinLines_splitLines, toList_joinLines_eq, terminate_joinChars]

/-! ### Splitting and joining undo one another -/

theorem joinLines_splitLines (content : String) :
    joinLines (splitLines content) =
      if content = "" ∨ content.toList.getLast? = some '\n' then content else content ++ "\n" := by
  apply String.toList_inj.1
  rw [toList_joinLines_splitLines, terminate_eq_ite]
  simp only [String.toList_eq_nil_iff]
  split_ifs with h
  · rfl
  · rw [String.toList_append]
    rfl

theorem splitLines_joinLines_eq_self_iff {lines : List String} :
    splitLines (joinLines lines) = lines ↔ ∀ line ∈ lines, '\n' ∉ line.toList := by
  refine ⟨fun h line hline => ?_, splitLines_joinLines⟩
  rw [← h] at hline
  exact newline_not_mem_of_mem_splitLines hline

theorem splitLines_joinLines_eq_flatMap (texts : List String) :
    splitLines (joinLines texts) = texts.flatMap fun text => splitLines (text ++ "\n") := by
  have hnewline : "\n".toList = ['\n'] := rfl
  simp only [splitLines, toList_joinLines_eq, splitChars_joinChars_eq_flatMap, List.flatMap_map,
    List.map_flatMap, String.toList_append, hnewline]

/-- Joining undoes splitting but for the newline behind an unterminated last line; splitting
undoes joining just where no text holds a newline, and takes the others apart one by one. -/
theorem splitLines_joinLines_inverse (content : String) (lines : List String) :
    joinLines (splitLines content) =
        (if content = "" ∨ content.toList.getLast? = some '\n' then content
          else content ++ "\n") ∧
      (∀ line ∈ splitLines content, '\n' ∉ line.toList) ∧
      (splitLines (joinLines lines) = lines ↔ ∀ line ∈ lines, '\n' ∉ line.toList) ∧
      splitLines (joinLines lines) = lines.flatMap fun text => splitLines (text ++ "\n") :=
  ⟨joinLines_splitLines content, fun _ => newline_not_mem_of_mem_splitLines,
    splitLines_joinLines_eq_self_iff, splitLines_joinLines_eq_flatMap lines⟩

end BindingRegions.Text

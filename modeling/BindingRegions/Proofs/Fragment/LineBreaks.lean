import BindingRegions.Generate
import BindingRegions.Proofs.Region.Cut
import BindingRegions.Proofs.Text.Lowercase

/-! Line breaks in fragments. A fragment has a line break inside one of its lines just
when a name in it has one: lower-casing neither makes nor removes any, and nothing else
that a line is put together from holds one (`newline_not_mem_line_iff`). No line of a fragment
ends with a carriage return, so the ending that it takes in a file makes no marker of it
that it was not before (`isMarker_emitted`). -/

namespace BindingRegions

open Text

theorem newline_not_mem_joinWith_iff {separator : String} (h : '\n' ∉ separator.toList)
    (parts : List String) :
    '\n' ∉ (joinWith separator parts).toList ↔ ∀ part ∈ parts, '\n' ∉ part.toList := by
  induction parts with
  | nil => simp [joinWith]
  | cons part rest ih =>
    cases rest with
    | nil => simp [joinWith]
    | cons next rest =>
      simp only [joinWith, String.toList_append, List.mem_append, h, or_false, not_or, ih,
        List.forall_mem_cons]

theorem newline_not_mem_parameterList_iff (arguments : List String) :
    '\n' ∉ (parameterList arguments).toList ↔ ∀ name ∈ arguments, '\n' ∉ name.toList := by
  have hvoid : '\n' ∉ "void* ".toList := by decide
  have hconst : '\n' ∉ "const char* ".toList := by decide
  have htype : '\n' ∉ "Type".toList := by decide
  rw [parameterList, newline_not_mem_joinWith_iff (by decide), List.forall_mem_flatMap]
  simp only [List.forall_mem_cons, List.not_mem_nil, IsEmpty.forall_iff, implies_true, and_true,
    String.toList_append, List.mem_append, hvoid, hconst, htype, false_or, or_false, and_self]

namespace FragmentKind

/-- The names that the line of a function spells. -/
def names (function : Function) : FragmentKind → List String
  | declarations => function.name :: function.arguments
  | stubs => function.name :: function.arguments
  | symbols => [function.name]

theorem line_declarations (namePrefix : String) (function : Function) :
    declarations.line namePrefix function =
      "LANTERN_API void (LANTERN_PTR " ++ bindingName namePrefix function.name ++ ")("
        ++ parameterList function.arguments ++ ");" := rfl

theorem line_stubs (namePrefix : String) (function : Function) :
    stubs.line namePrefix function =
      "void " ++ bindingName namePrefix function.name ++ "("
        ++ parameterList function.arguments ++ ") \x7b\x7d" := rfl

theorem line_symbols (namePrefix : String) (function : Function) :
    symbols.line namePrefix function =
      "  LOAD_SYMBOL(" ++ bindingName namePrefix function.name ++ ")" := rfl

/-- The line of a function is put together from its names, in lower case for the first,
and from texts without line breaks. -/
theorem newline_not_mem_line_iff {namePrefix : String} (h : '\n' ∉ namePrefix.toList)
    (function : Function) (kind : FragmentKind) :
    '\n' ∉ (kind.line namePrefix function).toList ↔
      ∀ name ∈ kind.names function, '\n' ∉ name.toList := by
  have hname : '\n' ∈ (bindingName namePrefix function.name).toList ↔
      '\n' ∈ function.name.toList := by
    rw [bindingName, String.toList_append, List.mem_append, mem_lowercase_iff (by decide) (by decide)]
    exact or_iff_right h
  have hparameters := newline_not_mem_parameterList_iff function.arguments
  cases kind with
  | declarations =>
    have hopen : '\n' ∉ "LANTERN_API void (LANTERN_PTR ".toList := by decide
    have hmid : '\n' ∉ ")(".toList := by decide
    have hclose : '\n' ∉ ");".toList := by decide
    rw [line_declarations, names, List.forall_mem_cons]
    simp only [String.toList_append, List.mem_append, hopen, hmid, hclose, hname, false_or, or_false,
      not_or, hparameters]
  | stubs =>
    have hopen : '\n' ∉ "void ".toList := by decide
    have hmid : '\n' ∉ "(".toList := by decide
    have hclose : '\n' ∉ ") \x7b\x7d".toList := by decide
    rw [line_stubs, names, List.forall_mem_cons]
    simp only [String.toList_append, List.mem_append, hopen, hmid, hclose, hname, false_or, or_false,
      not_or, hparameters]
  | symbols =>
    have hopen : '\n' ∉ "  LOAD_SYMBOL(".toList := by decide
    have hclose : '\n' ∉ ")".toList := by decide
    rw [line_symbols, names, List.forall_mem_singleton]
    simp only [String.toList_append, List.mem_append, hopen, hclose, hname, false_or, or_false]

/-- All lines of a fragment are single lines just when no name in it has a line break. -/
theorem newline_not_mem_lines_iff {namePrefix : String} (h : '\n' ∉ namePrefix.toList)
    (kind : FragmentKind) (schema : Schema) :
    (∀ line ∈ kind.lines schema namePrefix, '\n' ∉ line.toList) ↔
      ∀ function ∈ schema.functions, ∀ name ∈ kind.names function, '\n' ∉ name.toList := by
  have hfirst : '\n' ∉ kind.frame.1.toList := by cases kind <;> decide
  have hlast : '\n' ∉ kind.frame.2.toList := by cases kind <;> decide
  rw [lines, List.forall_mem_append, List.forall_mem_cons, List.forall_mem_singleton,
    List.forall_mem_map]
  simp only [hfirst, hlast, not_false_eq_true, true_and, and_true, newline_not_mem_line_iff h]

/-! ### Endings -/

theorem endsWithReturn_append (front : String) {back : String} (h : back.toList ≠ []) :
    endsWithReturn (front ++ back) = endsWithReturn back := by
  obtain ⟨c, hc⟩ := Option.ne_none_iff_exists'.1 (mt List.getLast?_eq_none_iff.1 h)
  rw [endsWithReturn, endsWithReturn, String.toList_append, List.getLast?_append, hc,
    Option.some_or]

theorem endsWithReturn_line (namePrefix : String) (function : Function) (kind : FragmentKind) :
    endsWithReturn (kind.line namePrefix function) = false := by
  cases kind with
  | declarations => rw [line_declarations, endsWithReturn_append _ (by decide)]; decide
  | stubs => rw [line_stubs, endsWithReturn_append _ (by decide)]; decide
  | symbols => rw [line_symbols, endsWithReturn_append _ (by decide)]; decide

theorem endsWithReturn_of_mem_lines {kind : FragmentKind} {schema : Schema} {namePrefix line : String}
    (h : line ∈ kind.lines schema namePrefix) : endsWithReturn line = false := by
  simp only [lines, List.cons_append, List.mem_cons, List.mem_append, List.mem_map,
    List.not_mem_nil, or_false] at h
  rcases h with rfl | ⟨function, -, rfl⟩ | rfl
  · cases kind <;> decide
  · exact endsWithReturn_line namePrefix function kind
  · cases kind <;> decide

end FragmentKind

/-- A carriage return at the end of a text goes to the last of its lines. -/
theorem exists_splitChars_return (text : List Char) :
    ∃ lines last, splitChars (text ++ ['\n']) = lines ++ [last] ∧
      splitChars (text ++ ['\r', '\n']) = lines ++ [last ++ ['\r']] ∧
      (last.getLast? = some '\r' → text.getLast? = some '\r') := by
  obtain ⟨lines, last, rfl, hlines, hlast⟩ := exists_joinChars_append text
  have hlast' : '\n' ∉ last ++ ['\r'] := by simpa using hlast
  refine ⟨lines, last, ?_, ?_, fun hr => ?_⟩
  · rw [List.append_assoc, splitChars_joinChars_line hlines hlast]
  · rw [← splitChars_joinChars_line hlines hlast']
    simp
  · rw [List.getLast?_append, hr, Option.some_or]

/-- A marker among the lines of a text that takes a carriage return is one among its lines
before. -/
theorem exists_isMarker_of_return {text line marker : String}
    (hplain : endsWithReturn text = false)
    (hline : line.toList ∈ splitChars ((text ++ "\r").toList ++ ['\n']))
    (hmarker : isMarker marker line = true) :
    ∃ plain : String, plain.toList ∈ splitChars (text.toList ++ ['\n']) ∧
      isMarker marker plain = true := by
  obtain ⟨lines, last, hsplit, hsplit', hreturn⟩ := exists_splitChars_return text.toList
  have hended : (text ++ "\r").toList ++ ['\n'] = text.toList ++ ['\r', '\n'] := by simp
  rw [hended, hsplit', List.mem_append, List.mem_singleton] at hline
  rw [hsplit]
  rcases hline with hline | hline
  · exact ⟨line, List.mem_append_left _ hline, hmarker⟩
  · have hlast : endsWithReturn (String.ofList last) = false := by
      rw [endsWithReturn, String.toList_ofList, beq_eq_false_iff_ne]
      intro hr
      simp [endsWithReturn, hreturn hr] at hplain
    have hline' : line = String.ofList last ++ "\r" := by
      apply String.toList_inj.1
      rw [hline]
      simp
    rw [hline', isMarker_append_return] at hmarker
    exact ⟨String.ofList last, by simp, (isMarker_iff_of_not_return hlast).2 hmarker⟩

/-- A marker among the lines that a fragment comes out as is one among its lines before
they take an ending. -/
theorem isMarker_emitted {startLine line marker : String} {replacement : List String}
    (hplain : ∀ text ∈ replacement, endsWithReturn text = false)
    (hline : line ∈ emitted startLine replacement) (hmarker : isMarker marker line = true) :
    ∃ plain ∈ splitLines (joinLines replacement), isMarker marker plain = true := by
  rw [emitted, bodyLines] at hline
  split at hline
  · rw [mem_splitLines_joinLines_iff] at hline
    obtain ⟨ended, hended, hpiece⟩ := hline
    obtain ⟨text, htext, rfl⟩ := List.mem_map.1 hended
    obtain ⟨plain, hpiece', hmarker'⟩ :=
      exists_isMarker_of_return (hplain text htext) hpiece hmarker
    exact ⟨plain, mem_splitLines_joinLines_iff.2 ⟨text, htext, hpiece'⟩, hmarker'⟩
  · exact ⟨line, hline, hmarker⟩

/-- So single lines that are no markers come out as lines that are none. -/
theorem isMarker_emitted_eq_false {startLine marker : String} {replacement : List String}
    (hsingle : ∀ text ∈ replacement, '\n' ∉ text.toList)
    (hplain : ∀ text ∈ replacement, endsWithReturn text = false)
    (hclear : ∀ text ∈ replacement, isMarker marker text = false) :
    ∀ line ∈ emitted startLine replacement, isMarker marker line = false := by
  intro line hline
  rw [← Bool.not_eq_true]
  intro hmarker
  obtain ⟨plain, hmem, hmarker⟩ := isMarker_emitted hplain hline hmarker
  rw [splitLines_joinLines hsingle] at hmem
  rw [hclear plain hmem] at hmarker
  cases hmarker

end BindingRegions

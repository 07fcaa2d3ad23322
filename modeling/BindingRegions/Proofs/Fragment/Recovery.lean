import BindingRegions.Proofs.Fragment.LineBreaks
import BindingRegions.Proofs.Region.Settled

/-! What can be read back from a fragment. A comma ends a parameter and an opening bracket
ends a name, so where no argument has the one and no function's name the other, the
lines of a fragment tell the names in lower case and, but for the symbols, the arguments
(`FragmentKind.lines_eq_iff`). Fragments of different kinds are told apart by their frames or
by their functions. -/

namespace BindingRegions

open Text

/-- A separator that is in neither front cuts both texts at the same place. -/
theorem append_cons_inj {α : Type} {xs ys zs ws : List α} {a : α} (hx : a ∉ xs) (hz : a ∉ zs)
    (h : xs ++ a :: ys = zs ++ a :: ws) : xs = zs ∧ ys = ws := by
  rcases append_cons_eq_append_cons h with ⟨hfront, -, hback⟩ | ⟨mid, rfl, -⟩ | ⟨mid, rfl, -⟩
  · exact ⟨hfront, hback⟩
  · simp at hz
  · simp at hx

/-! ### Parameters -/

theorem toList_joinWith_cons_cons (part next : String) (rest : List String) :
    (joinWith ", " (part :: next :: rest)).toList =
      part.toList ++ ',' :: ' ' :: (joinWith ", " (next :: rest)).toList := by
  simp [joinWith]

theorem joinWith_cons_ne {part : String} (h : part ≠ "") (rest : List String) :
    joinWith ", " (part :: rest) ≠ "" := by
  intro he
  cases rest with
  | nil => exact h he
  | cons next rest =>
    have hnil := congrArg String.toList he
    simp [toList_joinWith_cons_cons] at hnil

/-- The first comma, if any, ends the first part. -/
theorem joinWith_cons_inj {part part' : String} {rest rest' : List String}
    (h : ',' ∉ part.toList) (h' : ',' ∉ part'.toList)
    (heq : joinWith ", " (part :: rest) = joinWith ", " (part' :: rest')) :
    part = part' ∧ joinWith ", " rest = joinWith ", " rest' := by
  have hlist := congrArg String.toList heq
  cases rest with
  | nil =>
    cases rest' with
    | nil => exact ⟨heq, rfl⟩
    | cons next' rest' =>
      rw [toList_joinWith_cons_cons, joinWith] at hlist
      simp [hlist] at h
  | cons next rest =>
    cases rest' with
    | nil =>
      rw [toList_joinWith_cons_cons, joinWith] at hlist
      simp [← hlist] at h'
    | cons next' rest' =>
      rw [toList_joinWith_cons_cons, toList_joinWith_cons_cons] at hlist
      obtain ⟨hpart, htail⟩ := append_cons_inj h h' hlist
      rw [List.cons.injEq] at htail
      exact ⟨String.toList_inj.1 hpart, String.toList_inj.1 htail.2⟩

/-- Parts without a comma, and of at least one character, can be read back. -/
theorem joinWith_inj {parts parts' : List String}
    (h : ∀ part ∈ parts, part ≠ "" ∧ ',' ∉ part.toList)
    (h' : ∀ part ∈ parts', part ≠ "" ∧ ',' ∉ part.toList)
    (heq : joinWith ", " parts = joinWith ", " parts') : parts = parts' := by
  induction parts generalizing parts' with
  | nil =>
    cases parts' with
    | nil => rfl
    | cons part' rest' => exact absurd heq.symm (joinWith_cons_ne (h' part' (by simp)).1 rest')
  | cons part rest ih =>
    cases parts' with
    | nil => exact absurd heq (joinWith_cons_ne (h part (by simp)).1 rest)
    | cons part' rest' =>
      obtain ⟨hpart, hrest⟩ := joinWith_cons_inj (h part (by simp)).2 (h' part' (by simp)).2 heq
      rw [hpart, ih (fun x hx => h x (by simp [hx])) (fun x hx => h' x (by simp [hx])) hrest]

/-- The two parameters of an argument. -/
def parametersOf (name : String) : List String :=
  ["void* " ++ name, "const char* " ++ name ++ "Type"]

theorem parameterList_eq (names : List String) :
    parameterList names = joinWith ", " (names.flatMap parametersOf) := rfl

theorem ne_empty_of_mem_parametersOf {name part : String} (h : ',' ∉ name.toList)
    (hpart : part ∈ parametersOf name) : part ≠ "" ∧ ',' ∉ part.toList := by
  simp only [parametersOf, List.mem_cons, List.not_mem_nil, or_false] at hpart
  rcases hpart with rfl | rfl <;>
    exact ⟨fun he => by simpa using congrArg String.toList he, by simp [h]⟩

theorem flatMap_parametersOf_inj {names names' : List String}
    (h : names.flatMap parametersOf = names'.flatMap parametersOf) : names = names' := by
  induction names generalizing names' with
  | nil =>
    cases names' with
    | nil => rfl
    | cons name' rest' => simp [parametersOf] at h
  | cons name rest ih =>
    cases names' with
    | nil => simp [parametersOf] at h
    | cons name' rest' =>
      simp only [List.flatMap_cons, parametersOf, List.cons_append, List.nil_append,
        List.cons.injEq] at h
      rw [ih h.2.2, String.append_right_inj _ |>.1 h.1]

/-- Arguments without a comma can be read back from their parameter list. -/
theorem parameterList_inj {names names' : List String} (h : ∀ name ∈ names, ',' ∉ name.toList)
    (h' : ∀ name ∈ names', ',' ∉ name.toList) (heq : parameterList names = parameterList names') :
    names = names' := by
  rw [parameterList_eq, parameterList_eq] at heq
  refine flatMap_parametersOf_inj (joinWith_inj ?_ ?_ heq) <;>
    rw [List.forall_mem_flatMap]
  · exact fun name hname part hpart => ne_empty_of_mem_parametersOf (h name hname) hpart
  · exact fun name hname part hpart => ne_empty_of_mem_parametersOf (h' name hname) hpart

/-! ### Lines -/

/-- Names that can be told from the brackets, commas and line breaks around them. -/
structure Function.Plain (function : Function) : Prop where
  name : '(' ∉ function.name.toList
  arguments : ∀ name ∈ function.arguments, ',' ∉ name.toList
  single : ∀ name ∈ function.name :: function.arguments, '\n' ∉ name.toList

/-- The first opening bracket ends a name without one. -/
theorem bracketed_inj {name name' parameters parameters' close : String}
    (h : '(' ∉ name.toList) (h' : '(' ∉ name'.toList)
    (heq : name ++ ("(" ++ (parameters ++ close)) = name' ++ ("(" ++ (parameters' ++ close))) :
    name = name' ∧ parameters = parameters' := by
  have hlist := congrArg String.toList heq
  simp only [String.toList_append] at hlist
  obtain ⟨hname, htail⟩ := append_cons_inj h h' hlist
  exact ⟨String.toList_inj.1 hname,
    String.toList_inj.1 (List.append_cancel_right (htail : _ ++ _ = _ ++ _))⟩

namespace FragmentKind

/-- What the line of a function tells of it: the name in lower case and the arguments, of
which a symbol has none. -/
def binding (function : Function) : FragmentKind → String × List String
  | declarations => (lowercase function.name, function.arguments)
  | stubs => (lowercase function.name, function.arguments)
  | symbols => (lowercase function.name, [])

variable {kind : FragmentKind} {f g : Function} {a b : Schema}

theorem bracket_not_mem_lowercase (h : '(' ∉ f.name.toList) :
    '(' ∉ (lowercase f.name).toList := by
  rwa [mem_lowercase_iff (by decide) (by decide)]

/-- A line tells the binding, and nothing else. -/
theorem line_eq_iff (hf : f.Plain) (hg : g.Plain) (namePrefix : String) :
    kind.line namePrefix f = kind.line namePrefix g ↔ kind.binding f = kind.binding g := by
  have hname := bracket_not_mem_lowercase hf.name
  have hname' := bracket_not_mem_lowercase hg.name
  cases kind with
  | declarations =>
    rw [line_declarations, line_declarations, binding, binding, Prod.mk.injEq]
    constructor
    · intro h
      have hsplit : ")(" = ")" ++ "(" := by decide
      have hcut : lowercase f.name ++ ")" ++ ("(" ++ (parameterList f.arguments ++ ");")) =
          lowercase g.name ++ ")" ++ ("(" ++ (parameterList g.arguments ++ ");")) := by
        simpa only [bindingName, hsplit, String.append_assoc, String.append_right_inj] using h
      obtain ⟨hnames, hparameters⟩ := bracketed_inj (by simp [hname]) (by simp [hname']) hcut
      exact ⟨(String.append_left_inj _).1 hnames,
        parameterList_inj hf.arguments hg.arguments hparameters⟩
    · rintro ⟨hnames, harguments⟩
      rw [bindingName, bindingName, hnames, harguments]
  | stubs =>
    rw [line_stubs, line_stubs, binding, binding, Prod.mk.injEq]
    constructor
    · intro h
      simp only [bindingName, String.append_assoc, String.append_right_inj] at h
      obtain ⟨hnames, hparameters⟩ := bracketed_inj hname hname' h
      exact ⟨hnames, parameterList_inj hf.arguments hg.arguments hparameters⟩
    · rintro ⟨hnames, harguments⟩
      rw [bindingName, bindingName, hnames, harguments]
  | symbols =>
    rw [line_symbols, line_symbols, binding, binding, Prod.mk.injEq]
    simp only [bindingName, String.append_assoc, String.append_right_inj, String.append_left_inj,
      and_true]

end FragmentKind

/-- Two maps that take the same elements to the same images take the same lists to the same
images. -/
theorem map_eq_map_iff_of {α β γ : Type} {f : α → β} {g : α → γ} {xs ys : List α}
    (h : ∀ x ∈ xs, ∀ y ∈ ys, f x = f y ↔ g x = g y) :
    xs.map f = ys.map f ↔ xs.map g = ys.map g := by
  induction xs generalizing ys with
  | nil => simp
  | cons x xs ih =>
    cases ys with
    | nil => simp
    | cons y ys =>
      have hrest : xs.map f = ys.map f ↔ xs.map g = ys.map g :=
        ih fun a ha b hb => h a (by simp [ha]) b (by simp [hb])
      rw [List.map_cons, List.map_cons, List.map_cons, List.map_cons, List.cons.injEq,
        List.cons.injEq, h x (by simp) y (by simp), hrest]

namespace FragmentKind

variable {kind : FragmentKind} {a b : Schema}

/-- A fragment tells the bindings of its functions, one by one. -/
theorem lines_eq_iff (kind : FragmentKind) (ha : ∀ function ∈ a.functions, function.Plain)
    (hb : ∀ function ∈ b.functions, function.Plain) (namePrefix : String) :
    kind.lines a namePrefix = kind.lines b namePrefix ↔
      a.functions.map (kind.binding ·) = b.functions.map (kind.binding ·) := by
  rw [lines, lines, List.cons_append, List.cons_append, List.cons.injEq, List.append_left_inj]
  simp only [true_and]
  exact map_eq_map_iff_of fun f hf g hg => line_eq_iff (ha f hf) (hb g hg) namePrefix

theorem line_stubs_ne_declarations (namePrefix : String) (f g : Function) :
    stubs.line namePrefix f ≠ declarations.line namePrefix g := by
  rw [line_stubs, line_declarations]
  intro h
  have hhead := congrArg (·.toList.head?) h
  simp at hhead

/-- Stubs and declarations have one frame, and begin their lines differently. -/
theorem lines_stubs_eq_declarations_iff {namePrefix : String} :
    stubs.lines a namePrefix = declarations.lines b namePrefix ↔
      a.functions = [] ∧ b.functions = [] := by
  rw [lines, lines, List.cons_append, List.cons_append, List.cons.injEq]
  cases ha : a.functions with
  | nil => cases hb : b.functions <;> simp [frame]
  | cons f fs =>
    cases hb : b.functions with
    | nil => simp [frame]
    | cons g gs => simp [line_stubs_ne_declarations]

/-- Symbols have a frame of their own. -/
theorem lines_ne_symbols (h : kind ≠ symbols) (namePrefix : String) :
    kind.lines a namePrefix ≠ symbols.lines b namePrefix := by
  intro heq
  have hhead := (List.cons.inj heq).1
  cases kind with
  | declarations => exact absurd hhead (by decide)
  | stubs => exact absurd hhead (by decide)
  | symbols => exact h rfl

theorem newline_not_mem_of_plain (ha : ∀ function ∈ a.functions, function.Plain)
    {namePrefix : String} (hname : '\n' ∉ namePrefix.toList) :
    ∀ line ∈ kind.lines a namePrefix, '\n' ∉ line.toList := by
  rw [newline_not_mem_lines_iff hname]
  intro function hfunction name hname
  refine (ha function hfunction).single name ?_
  cases kind with
  | declarations => exact hname
  | stubs => exact hname
  | symbols => exact List.mem_cons.2 (.inl (List.mem_singleton.1 hname))

end FragmentKind

end BindingRegions

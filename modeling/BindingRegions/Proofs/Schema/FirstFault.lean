import BindingRegions.Proofs.Schema.Grammar

/-! The first fault of a document. Of all that is wrong with a sequence of entries, the message
tells what is wrong first: in the first entry that is not well formed, the first thing that
keeps it from being so (`Schema.ofValue_firstFault`). Nothing behind that place counts, and
what is in front of it counts only as being well formed. -/

namespace BindingRegions

variable {value value' : Value} {name text : String} {fields : List (String × Value)}

/-- What is said of a value that has no name. -/
inductive Unnamed : Value → String → Prop
  | notAMapping {value : Value} :
    (∀ fields, value ≠ .mapping fields) →
    Unnamed value (": expected a mapping, found " ++ value.kind.text)
  | missing {fields : List (String × Value)} :
    Value.lookup "name" fields = none →
    Unnamed (.mapping fields) ": missing field \"name\""
  | notAScalar {fields : List (String × Value)} {field : Value} :
    Value.lookup "name" fields = some field → ¬ field.IsScalar →
    Unnamed (.mapping fields) (": \"name\" must be a scalar, found " ++ field.kind.text)

/-- What is said of an entry that is not well formed. Each line has a fault only where those
above have none. -/
inductive FirstFault : Value → String → Prop
  | unnamed {value : Value} {text : String} :
    Unnamed value text → FirstFault value text
  | missingArguments {fields : List (String × Value)} {name : String} :
    Names (.mapping fields) name → Value.lookup "arguments" fields = none →
    FirstFault (.mapping fields) (" (" ++ name ++ "): missing field \"arguments\"")
  | notASequence {fields : List (String × Value)} {name : String} {field : Value} :
    Names (.mapping fields) name → Value.lookup "arguments" fields = some field →
    (∀ items, field ≠ .sequence items) →
    FirstFault (.mapping fields)
      (" (" ++ name ++ "): \"arguments\" must be a sequence, found " ++ field.kind.text)
  | argument {fields : List (String × Value)} {name text : String} {before after : List Value}
      {item : Value} :
    Names (.mapping fields) name →
    Value.lookup "arguments" fields = some (.sequence (before ++ item :: after)) →
    (∀ earlier ∈ before, HasName earlier) → Unnamed item text →
    FirstFault (.mapping fields)
      (" (" ++ name ++ "), argument " ++ Decimal.digitsText before.length ++ text)

/-- Entries that are one and the same, or that have the same name and a first fault in the
same argument at the same place. -/
inductive SameFault : Value → Value → Prop
  | refl (value : Value) : SameFault value value
  | argument {fields fields' : List (String × Value)} {name : String}
      {before after before' after' : List Value} {item : Value} :
    Names (.mapping fields) name → Names (.mapping fields') name →
    Value.lookup "arguments" fields = some (.sequence (before ++ item :: after)) →
    Value.lookup "arguments" fields' = some (.sequence (before' ++ item :: after')) →
    before'.length = before.length →
    (∀ earlier ∈ before, HasName earlier) → (∀ earlier ∈ before', HasName earlier) →
    ¬ HasName item → SameFault (.mapping fields) (.mapping fields')

/-! ### Names -/

theorem not_hasName_iff : ¬ HasName value ↔ ∃ fault, nameOf value = .error fault := by
  simp only [hasName_iff, ← nameOf_eq_ok_iff]
  cases nameOf value <;> simp

theorem unnamed_of_nameOf {fault : NameFault} (h : nameOf value = .error fault) :
    ∃ text, Unnamed value text ∧ ∀ location, fault.message location = location ++ text := by
  cases value with
  | mapping fields =>
    rw [nameOf] at h
    cases hname : Value.lookup "name" fields with
    | none =>
      simp only [hname, Except.error.injEq] at h
      subst h
      exact ⟨_, .missing hname, fun location => rfl⟩
    | some field =>
      cases htext : field.scalarText? with
      | some text => simp [hname, htext] at h
      | none =>
        simp only [hname, htext, Option.elim_none, Except.error.injEq] at h
        subst h
        have hscalar : ¬ field.IsScalar := by
          simp [isScalar_iff, ← scalarText?_eq_some_iff, htext]
        refine ⟨_, .notAScalar hname hscalar, fun location => ?_⟩
        rw [NameFault.message, String.append_assoc]
  | _ =>
    cases h
    refine ⟨_, .notAMapping (by simp), fun location => ?_⟩
    rw [NameFault.message, String.append_assoc]

/-! ### Entries -/

namespace Function

theorem argumentsOf_eq_of_item {before after : List Value} {item : Value} {fault : NameFault}
    (hfield : Value.lookup "arguments" fields = some (.sequence (before ++ item :: after)))
    (hbefore : ∀ earlier ∈ before, HasName earlier) (hitem : nameOf item = .error fault) :
    argumentsOf name (.mapping fields) = .error (.argument name before.length fault) := by
  have hread : readIndexed nameOf 0 (before ++ item :: after) = .error (before.length, fault) := by
    refine readIndexed_eq_error_iff.2 ⟨before, item, after, rfl, (Nat.zero_add _).symm, ?_, hitem⟩
    simpa only [nameOf_eq_ok_iff, ← hasName_iff] using hbefore
  rw [argumentsOf, hfield]
  simp only [hread, mapError_error]

theorem ofValue_of_names (hname : Names value name) :
    ofValue value = (argumentsOf name value).map (⟨name, ·⟩) := by
  simp only [ofValue, nameOf_eq_ok_iff.2 hname, mapError_ok, ok_bind]
  cases argumentsOf name value <;> rfl

theorem firstFault_of_argumentsOf {fault : EntryFault} (hname : Names (.mapping fields) name)
    (h : argumentsOf name (.mapping fields) = .error fault) :
    ∃ text, FirstFault (.mapping fields) text ∧
      ∀ location, fault.message location = location ++ text := by
  rw [argumentsOf] at h
  cases hfield : Value.lookup "arguments" fields with
  | none =>
    simp only [hfield, Except.error.injEq] at h
    subst h
    refine ⟨_, .missingArguments hname hfield, fun location => ?_⟩
    simp only [EntryFault.message, String.append_assoc]
  | some field =>
    cases field with
    | sequence items =>
      simp only [hfield, mapError_eq_error_iff] at h
      obtain ⟨⟨index, fault⟩, hread, rfl⟩ := h
      obtain ⟨before, item, after, rfl, hindex, hbefore, hitem⟩ := readIndexed_eq_error_iff.1 hread
      simp only [nameOf_eq_ok_iff, ← hasName_iff] at hbefore
      obtain ⟨text, hunnamed, htext⟩ := unnamed_of_nameOf hitem
      refine ⟨_, .argument hname hfield hbefore hunnamed, fun location => ?_⟩
      obtain rfl : index = before.length := by omega
      simp only [EntryFault.message, htext, String.append_assoc]
    | _ =>
      simp only [hfield, Except.error.injEq] at h
      subst h
      refine ⟨_, .notASequence hname hfield (by simp), fun location => ?_⟩
      simp only [EntryFault.message, String.append_assoc]

theorem firstFault_of_ofValue {fault : EntryFault} (h : ofValue value = .error fault) :
    ∃ text, FirstFault value text ∧ ∀ location, fault.message location = location ++ text := by
  cases hname : nameOf value with
  | error e =>
    simp only [ofValue, hname, mapError_error, error_bind, Except.error.injEq] at h
    subst h
    obtain ⟨text, hunnamed, htext⟩ := unnamed_of_nameOf hname
    exact ⟨text, .unnamed hunnamed, htext⟩
  | ok name =>
    have hnames := nameOf_eq_ok_iff.1 hname
    rw [ofValue_of_names hnames] at h
    obtain ⟨fields, rfl⟩ : ∃ fields, value = .mapping fields := by
      cases hnames
      exact ⟨_, rfl⟩
    cases harguments : argumentsOf name (.mapping fields) with
    | ok arguments => simp [harguments, Except.map] at h
    | error e =>
      rw [harguments] at h
      cases h
      exact firstFault_of_argumentsOf hnames harguments

theorem ofValue_of_sameFault {fault : EntryFault} (hsame : SameFault value value')
    (h : ofValue value = .error fault) : ofValue value' = .error fault := by
  cases hsame with
  | refl => exact h
  | argument hname hname' hfield hfield' hlength hbefore hbefore' hitem =>
    obtain ⟨e, hitem⟩ := not_hasName_iff.1 hitem
    rw [ofValue_of_names hname, argumentsOf_eq_of_item hfield hbefore hitem] at h
    rw [ofValue_of_names hname', argumentsOf_eq_of_item hfield' hbefore' hitem, hlength]
    exact h

end Function

theorem isEntry_iff_ofValue : IsEntry value ↔ ∃ function, Function.ofValue value = .ok function := by
  simp only [isEntry_iff, Function.ofValue_eq_ok_iff]

/-! ### Documents -/

namespace Schema

theorem ofValue_sequence_eq_error_iff {entries : List Value} {fault : ShapeFault} :
    ofValue (.sequence entries) = .error fault ↔
      ∃ before entry after e, entries = before ++ entry :: after ∧
        (∀ earlier ∈ before, IsEntry earlier) ∧ Function.ofValue entry = .error e ∧
        fault = .entry before.length e := by
  have hread : ofValue (.sequence entries) = .error fault ↔
      ∃ e, readIndexed Function.ofValue 0 entries = .error e ∧ .entry e.1 e.2 = fault := by
    rw [ofValue]
    cases readIndexed Function.ofValue 0 entries <;> simp
  simp only [hread, readIndexed_eq_error_iff, isEntry_iff_ofValue]
  constructor
  · rintro ⟨⟨index, e⟩, ⟨before, entry, after, hsplit, hindex, hbefore, hentry⟩, rfl⟩
    obtain rfl : index = before.length := by
      rw [← Nat.zero_add before.length]
      exact hindex
    exact ⟨before, entry, after, e, hsplit, hbefore, hentry, rfl⟩
  · rintro ⟨before, entry, after, e, hsplit, hbefore, hentry, rfl⟩
    exact ⟨(before.length, e), ⟨before, entry, after, hsplit, (Nat.zero_add _).symm, hbefore, hentry⟩,
      rfl⟩

/-- The message is about the first entry that is not well formed, and tells its first fault.
It stays the same whatever comes behind that entry, whichever well formed entries come in
front of it, and, if the fault is in an argument, whatever comes behind that argument and
whichever arguments with names come in front of it. -/
theorem ofValue_firstFault {entries : List Value} {fault : ShapeFault}
    (h : ofValue (.sequence entries) = .error fault) :
    ∃ before entry after text, entries = before ++ entry :: after ∧
      (∀ earlier ∈ before, IsEntry earlier) ∧ ¬ IsEntry entry ∧ FirstFault entry text ∧
      fault.message = "entry " ++ Decimal.digitsText before.length ++ text ∧
      ∀ before' entry' after', before'.length = before.length →
        (∀ earlier ∈ before', IsEntry earlier) → SameFault entry entry' →
        ofValue (.sequence (before' ++ entry' :: after')) = .error fault := by
  obtain ⟨before, entry, after, e, hsplit, hbefore, hentry, rfl⟩ := ofValue_sequence_eq_error_iff.1 h
  obtain ⟨text, hfirst, htext⟩ := Function.firstFault_of_ofValue hentry
  have hnot : ¬ IsEntry entry := by
    rw [isEntry_iff_ofValue, hentry]
    simp
  refine ⟨before, entry, after, text, hsplit, hbefore, hnot, hfirst, ?_, ?_⟩
  · exact htext _
  · intro before' entry' after' hlength hbefore' hsame
    rw [ofValue_sequence_eq_error_iff]
    exact ⟨before', entry', after', e, rfl, hbefore', Function.ofValue_of_sameFault hsame hentry,
      by rw [hlength]⟩

/-- A function with the argument in front of one without a name, and something else behind it. -/
def faulty (argument rest : Value) : Value :=
  .mapping [("name", .string "Foo"),
    ("arguments", .sequence [.mapping [("name", argument)], .mapping [], rest])]

def faultless (name : String) : Value :=
  .mapping [("name", .string name), ("arguments", .sequence [])]

theorem ofValue_firstFault_argument :
    ofValue (.sequence [faultless "B", faulty (.bool true) (.mapping [])]) =
        .error (.entry 1 (.argument "Foo" 1 .missing)) ∧
      (ShapeFault.entry 1 (.argument "Foo" 1 .missing)).message =
        "entry 1 (Foo), argument 1: missing field \"name\"" := by
  have h : ofValue (.sequence [faultless "A", faulty (.string "a") .null, .null]) =
      .error (.entry 1 (.argument "Foo" 1 .missing)) := by decide +kernel
  have hfaultless (name : String) : IsEntry (faultless name) :=
    isEntry_iff_ofValue.2 ⟨⟨name, []⟩, rfl⟩
  have hfaulty : ¬ IsEntry (faulty (.string "a") .null) := by
    have hread : Function.ofValue (faulty (.string "a") .null) = .error (.argument "Foo" 1 .missing) :=
      rfl
    simp [isEntry_iff_ofValue, hread]
  have hsame : SameFault (faulty (.string "a") .null) (faulty (.bool true) (.mapping [])) := by
    have hitems (argument rest : Value) : Value.lookup "arguments"
        [("name", .string "Foo"),
          ("arguments", .sequence [.mapping [("name", argument)], .mapping [], rest])] =
        some (.sequence ([.mapping [("name", argument)]] ++ .mapping [] :: [rest])) := rfl
    have hnamed (scalar : Value) (name : String) (h : Spells scalar name) :
        ∀ earlier ∈ [Value.mapping [("name", scalar)]], HasName earlier := by
      rw [List.forall_mem_singleton]
      exact hasName_iff.2 ⟨name, .mapping rfl h⟩
    exact .argument (.mapping rfl (.string "Foo")) (.mapping rfl (.string "Foo"))
      (hitems (.string "a") .null) (hitems (.bool true) (.mapping [])) rfl
      (hnamed _ "a" (.string "a")) (hnamed _ "true" .true) (not_hasName_iff.2 ⟨.missing, rfl⟩)
  obtain ⟨before, entry, after, text, hsplit, hbefore, hentry, -, -, hstays⟩ := ofValue_firstFault h
  refine ⟨?_, by decide +kernel⟩
  match before with
  | [] =>
    cases hsplit
    exact absurd (hfaultless "A") hentry
  | [first] =>
    cases hsplit
    exact hstays [faultless "B"] _ [] rfl (by simp [hfaultless]) hsame
  | first :: second :: before =>
    obtain ⟨-, hsecond⟩ := List.cons.inj hsplit
    obtain ⟨rfl, -⟩ := List.cons.inj hsecond
    exact absurd (hbefore _ (by simp)) hfaulty

end Schema

end BindingRegions

import BindingRegions.Proofs.Failure
import BindingRegions.Schema
import Mathlib.Data.List.Forall2

/-! The grammar of schema documents. A document is null or a sequence of functions, a function
a mapping with a name and a sequence of arguments, and an argument a mapping with a name; a
name is a string, a number or a boolean. Just these are read, and the schema has one
function for each entry and one argument for each of its arguments, in their order
(`Schema.ofValue_eq_ok_iff`). Nothing but these fields is looked at (`AlikeDocument.ofValue_eq`). -/

namespace BindingRegions

open List (Forall₂)

variable {α β ε : Type} {read : α → Except ε β} {index : Nat} {items others : List α}
  {results : List β} {fields : List (String × Value)} {value value' : Value} {name : String}
  {function : Function} {schema : Schema}

/-! ### What is well formed -/

/-- Strings, numbers and booleans. -/
def Value.IsScalar (value : Value) : Prop :=
  value.kind = .string ∨ value.kind = .number ∨ value.kind = .boolean

/-- A mapping whose field `name` is a scalar. -/
def HasName (value : Value) : Prop :=
  ∃ fields scalar, value = .mapping fields ∧
    Value.lookup "name" fields = some scalar ∧ scalar.IsScalar

/-- A mapping with a name and a sequence of mappings with names. -/
def IsEntry (value : Value) : Prop :=
  HasName value ∧ ∃ fields items, value = .mapping fields ∧
    Value.lookup "arguments" fields = some (.sequence items) ∧ ∀ item ∈ items, HasName item

/-- A document that should be read. -/
def IsDocument (value : Value) : Prop :=
  value = .null ∨ ∃ entries, value = .sequence entries ∧ ∀ entry ∈ entries, IsEntry entry

/-! ### What it says -/

/-- The text of a scalar. -/
inductive Spells : Value → String → Prop
  | string (text : String) : Spells (.string text) text
  | number (number : Number) : Spells (.number number) number.text
  | true : Spells (.bool true) "true"
  | false : Spells (.bool false) "false"

/-- The mapping has the name. -/
inductive Names : Value → String → Prop
  | mapping {fields : List (String × Value)} {scalar : Value} {name : String} :
    Value.lookup "name" fields = some scalar → Spells scalar name → Names (.mapping fields) name

/-- The entry declares the function, each argument by one item. -/
inductive Declares : Value → Function → Prop
  | mapping {fields : List (String × Value)} {name : String} {items : List Value}
      {arguments : List String} :
    Names (.mapping fields) name → Value.lookup "arguments" fields = some (.sequence items) →
    Forall₂ Names items arguments → Declares (.mapping fields) ⟨name, arguments⟩

/-- The document describes the schema, each function by one entry. -/
inductive Describes : Value → Schema → Prop
  | null : Describes .null ⟨[]⟩
  | sequence {entries : List Value} {functions : List Function} :
    Forall₂ Declares entries functions → Describes (.sequence entries) ⟨functions⟩

/-! ### What does not matter -/

/-- Values that are equal but for fields other than `name`. -/
inductive AlikeArgument : Value → Value → Prop
  | refl (value : Value) : AlikeArgument value value
  | mapping {fields fields' : List (String × Value)} :
    Value.lookup "name" fields = Value.lookup "name" fields' →
    AlikeArgument (.mapping fields) (.mapping fields')

/-- Fields `arguments` that are equal, or both sequences, item by item alike. -/
inductive AlikeArguments : Option Value → Option Value → Prop
  | refl (field : Option Value) : AlikeArguments field field
  | sequence {items items' : List Value} :
    Forall₂ AlikeArgument items items' →
    AlikeArguments (some (.sequence items)) (some (.sequence items'))

/-- Values that are equal but for fields other than `name` and `arguments`, in them and in
their arguments. -/
inductive AlikeEntry : Value → Value → Prop
  | refl (value : Value) : AlikeEntry value value
  | mapping {fields fields' : List (String × Value)} :
    Value.lookup "name" fields = Value.lookup "name" fields' →
    AlikeArguments (Value.lookup "arguments" fields) (Value.lookup "arguments" fields') →
    AlikeEntry (.mapping fields) (.mapping fields')

/-- Documents that are equal but for such fields of their entries. -/
inductive AlikeDocument : Value → Value → Prop
  | refl (value : Value) : AlikeDocument value value
  | sequence {entries entries' : List Value} :
    Forall₂ AlikeEntry entries entries' → AlikeDocument (.sequence entries) (.sequence entries')

/-! ### Items one by one -/

theorem readIndexed_eq_ok_iff :
    readIndexed read index items = .ok results ↔
      Forall₂ (fun item result => read item = .ok result) items results := by
  induction items generalizing index results with
  | nil => simp [readIndexed, eq_comm]
  | cons item rest ih =>
    rw [readIndexed, List.forall₂_cons_left_iff]
    cases hitem : read item with
    | error fault => simp
    | ok result =>
      cases hrest : readIndexed read (index + 1) rest with
      | error fault =>
        have hnone : ∀ results, ¬ Forall₂ (fun item result => read item = .ok result) rest results :=
          fun results h => by simp [ih.2 h] at hrest
        simp [hnone]
      | ok later =>
        constructor
        · intro h
          cases h
          exact ⟨result, later, rfl, ih.1 hrest, rfl⟩
        · rintro ⟨_, _, h, hlater, rfl⟩
          cases h
          rw [ih.2 hlater] at hrest
          cases hrest
          rfl

/-- The place of the first item that cannot be read, counted from an index, and its fault: every item
in front can be read. -/
def StopsAt (read : α → Except ε β) (index : Nat) (items : List α) (fault : Nat × ε) : Prop :=
  ∃ before item after, items = before ++ item :: after ∧ fault.1 = index + before.length ∧
    (∀ earlier ∈ before, ∃ result, read earlier = .ok result) ∧ read item = .error fault.2

theorem stopsAt_cons_of_error {item : α} {rest : List α} {e : ε} {fault : Nat × ε}
    (hitem : read item = .error e) : StopsAt read index (item :: rest) fault ↔ (index, e) = fault := by
  constructor
  · rintro ⟨before, other, after, hsplit, hindex, hbefore, hother⟩
    cases before with
    | nil =>
      cases hsplit
      rw [hitem] at hother
      exact Prod.ext hindex.symm (Except.error.inj hother)
    | cons first before =>
      cases hsplit
      obtain ⟨result, hresult⟩ := hbefore item List.mem_cons_self
      rw [hitem] at hresult
      cases hresult
  · rintro rfl
    exact ⟨[], item, rest, rfl, rfl, by simp, hitem⟩

theorem stopsAt_cons_of_ok {item : α} {rest : List α} {result : β} {fault : Nat × ε}
    (hitem : read item = .ok result) :
    StopsAt read index (item :: rest) fault ↔ StopsAt read (index + 1) rest fault := by
  constructor
  · rintro ⟨before, other, after, hsplit, hindex, hbefore, hother⟩
    cases before with
    | nil =>
      cases hsplit
      rw [hitem] at hother
      cases hother
    | cons first before =>
      cases hsplit
      rw [List.forall_mem_cons] at hbefore
      refine ⟨before, other, after, rfl, ?_, hbefore.2, hother⟩
      rw [hindex, List.length_cons]
      omega
  · rintro ⟨before, other, after, rfl, hindex, hbefore, hother⟩
    refine ⟨item :: before, other, after, rfl, ?_, List.forall_mem_cons.2 ⟨⟨result, hitem⟩, hbefore⟩, hother⟩
    rw [hindex, List.length_cons]
    omega

/-- The first item that cannot be read decides. -/
theorem readIndexed_eq_error_iff {fault : Nat × ε} :
    readIndexed read index items = .error fault ↔ StopsAt read index items fault := by
  induction items generalizing index with
  | nil => simp [readIndexed, StopsAt]
  | cons item rest ih =>
    rw [readIndexed]
    cases hitem : read item with
    | error e => rw [stopsAt_cons_of_error hitem, Except.error.injEq]
    | ok result =>
      rw [stopsAt_cons_of_ok hitem, ← ih]
      cases readIndexed read (index + 1) rest <;> simp

theorem readIndexed_congr {relation : α → α → Prop} (h : Forall₂ relation items others)
    (hread : ∀ item other, relation item other → read item = read other) (index : Nat) :
    readIndexed read index items = readIndexed read index others := by
  induction h generalizing index with
  | nil => rfl
  | cons hitem _ ih => rw [readIndexed, readIndexed, hread _ _ hitem, ih]

/-! ### Names -/

theorem scalarText?_eq_some_iff : value.scalarText? = some name ↔ Spells value name := by
  constructor
  · intro h
    cases value with
    | string text =>
      cases h
      exact .string _
    | number number =>
      cases h
      exact .number number
    | bool truth =>
      cases truth <;> cases h
      · exact .false
      · exact .true
    | null => cases h
    | sequence items => cases h
    | mapping fields => cases h
  · intro h
    cases h <;> rfl

theorem isScalar_iff : value.IsScalar ↔ ∃ name, Spells value name := by
  simp only [← scalarText?_eq_some_iff, Value.IsScalar]
  cases value <;> simp [Value.kind, Value.scalarText?]

theorem nameOf_eq_ok_iff : nameOf value = .ok name ↔ Names value name := by
  constructor
  · intro h
    cases value with
    | mapping fields =>
      rw [nameOf] at h
      cases hname : Value.lookup "name" fields with
      | none => simp [hname] at h
      | some scalar =>
        cases htext : scalar.scalarText? with
        | none => simp [hname, htext] at h
        | some text =>
          simp only [hname, htext, Option.elim_some, Except.ok.injEq] at h
          exact .mapping hname (scalarText?_eq_some_iff.1 (h ▸ htext))
    | _ => cases h
  · rintro ⟨hname, hspells⟩
    rw [nameOf, hname]
    simp only [scalarText?_eq_some_iff.2 hspells, Option.elim_some]

theorem hasName_iff : HasName value ↔ ∃ name, Names value name := by
  constructor
  · rintro ⟨fields, scalar, rfl, hname, hscalar⟩
    obtain ⟨name, hspells⟩ := isScalar_iff.1 hscalar
    exact ⟨name, .mapping hname hspells⟩
  · rintro ⟨name, hname, hspells⟩
    exact ⟨_, _, rfl, hname, isScalar_iff.2 ⟨name, hspells⟩⟩

theorem AlikeArgument.nameOf_eq (h : AlikeArgument value value') : nameOf value = nameOf value' := by
  cases h with
  | refl => rfl
  | mapping hname => rw [nameOf, nameOf, hname]

/-! ### Functions -/

/-- A relation that reads every item with a fitting one reads the list. -/
theorem exists_forall₂_iff {relation : α → β → Prop} :
    (∃ results, Forall₂ relation items results) ↔ ∀ item ∈ items, ∃ result, relation item result := by
  induction items with
  | nil => simp
  | cons item rest ih =>
    rw [List.forall_mem_cons, ← ih]
    constructor
    · rintro ⟨_, h⟩
      cases h with
      | cons hitem hrest => exact ⟨⟨_, hitem⟩, _, hrest⟩
    · rintro ⟨⟨result, hitem⟩, results, hrest⟩
      exact ⟨result :: results, .cons hitem hrest⟩

namespace Function

theorem argumentsOf_eq_ok_iff {arguments : List String} :
    argumentsOf name (.mapping fields) = .ok arguments ↔
      ∃ items, Value.lookup "arguments" fields = some (.sequence items) ∧
        Forall₂ Names items arguments := by
  rw [argumentsOf]
  cases hfield : Value.lookup "arguments" fields with
  | none => simp
  | some field =>
    cases field with
    | sequence items =>
      simp only [mapError_eq_ok_iff, readIndexed_eq_ok_iff, nameOf_eq_ok_iff, Option.some.injEq,
        Value.sequence.injEq, exists_eq_left']
    | _ => simp

theorem ofValue_eq_ok_iff : ofValue value = .ok function ↔ Declares value function := by
  constructor
  · intro h
    obtain ⟨name, hname, h⟩ := bind_eq_ok h
    obtain ⟨arguments, harguments, h⟩ := bind_eq_ok h
    cases h
    obtain ⟨hlookup, hspells⟩ := nameOf_eq_ok_iff.1 (mapError_eq_ok_iff.1 hname)
    obtain ⟨items, hfield, hitems⟩ := argumentsOf_eq_ok_iff.1 harguments
    exact .mapping (.mapping hlookup hspells) hfield hitems
  · rintro ⟨hname, hfield, hitems⟩
    simp only [ofValue, nameOf_eq_ok_iff.2 hname, mapError_ok, ok_bind,
      argumentsOf_eq_ok_iff.2 ⟨_, hfield, hitems⟩, pure_eq_ok]

theorem argumentsOf_congr {fields' : List (String × Value)}
    (h : AlikeArguments (Value.lookup "arguments" fields) (Value.lookup "arguments" fields')) :
    argumentsOf name (.mapping fields) = argumentsOf name (.mapping fields') := by
  rw [argumentsOf, argumentsOf]
  generalize Value.lookup "arguments" fields = field at h ⊢
  generalize Value.lookup "arguments" fields' = field' at h ⊢
  cases h with
  | refl => rfl
  | sequence hitems =>
    simp only [readIndexed_congr hitems fun _ _ => AlikeArgument.nameOf_eq]

end Function

theorem isEntry_iff : IsEntry value ↔ ∃ function, Declares value function := by
  constructor
  · rintro ⟨hname, fields, items, rfl, hfield, hitems⟩
    obtain ⟨name, hname⟩ := hasName_iff.1 hname
    simp only [hasName_iff, ← exists_forall₂_iff] at hitems
    obtain ⟨arguments, hitems⟩ := hitems
    exact ⟨⟨name, arguments⟩, .mapping hname hfield hitems⟩
  · rintro ⟨function, hname, hfield, hitems⟩
    refine ⟨hasName_iff.2 ⟨_, hname⟩, _, _, rfl, hfield, ?_⟩
    simp only [hasName_iff, ← exists_forall₂_iff]
    exact ⟨_, hitems⟩

theorem AlikeEntry.ofValue_eq (h : AlikeEntry value value') :
    Function.ofValue value = Function.ofValue value' := by
  cases h with
  | refl => rfl
  | mapping hname harguments =>
    have hsame := AlikeArgument.nameOf_eq (.mapping hname)
    simp only [Function.ofValue, hsame, Function.argumentsOf_congr harguments]

/-! ### Documents -/

namespace Schema

theorem ofValue_sequence_eq_ok_iff {entries : List Value} {functions : List Function} :
    ofValue (.sequence entries) = .ok ⟨functions⟩ ↔ Forall₂ Declares entries functions := by
  have hread : readIndexed Function.ofValue 0 entries = .ok functions ↔
      Forall₂ Declares entries functions := by
    simp only [readIndexed_eq_ok_iff, Function.ofValue_eq_ok_iff]
  rw [← hread, ofValue]
  cases readIndexed Function.ofValue 0 entries with
  | error fault => simp
  | ok functions => simp

theorem ofValue_eq_ok_iff : ofValue value = .ok schema ↔ Describes value schema := by
  constructor
  · intro h
    cases value with
    | null =>
      cases h
      exact .null
    | sequence entries => exact .sequence (ofValue_sequence_eq_ok_iff.1 h)
    | _ => cases h
  · intro h
    cases h with
    | null => rfl
    | sequence hentries => exact ofValue_sequence_eq_ok_iff.2 hentries

end Schema

theorem isDocument_iff : IsDocument value ↔ ∃ schema, Describes value schema := by
  constructor
  · rintro (rfl | ⟨entries, rfl, hentries⟩)
    · exact ⟨_, .null⟩
    · simp only [isEntry_iff, ← exists_forall₂_iff] at hentries
      obtain ⟨functions, hentries⟩ := hentries
      exact ⟨⟨functions⟩, .sequence hentries⟩
  · rintro ⟨_, _ | hentries⟩
    · exact .inl rfl
    · refine .inr ⟨_, rfl, ?_⟩
      simp only [isEntry_iff, ← exists_forall₂_iff]
      exact ⟨_, hentries⟩

theorem AlikeDocument.ofValue_eq (h : AlikeDocument value value') :
    Schema.ofValue value = Schema.ofValue value' := by
  cases h with
  | refl => rfl
  | sequence hentries =>
    simp only [Schema.ofValue, readIndexed_congr hentries fun _ _ => AlikeEntry.ofValue_eq]

/-- A document is read just when it is well formed, and as the schema that it describes. In
other fields than names and arguments, its entries may differ at will. -/
theorem Schema.ofValue_grammar (document : Value) :
    ((∃ schema, Schema.ofValue document = .ok schema) ↔ IsDocument document) ∧
      (∀ schema, Schema.ofValue document = .ok schema ↔ Describes document schema) ∧
      ∀ document', AlikeDocument document document' →
        Schema.ofValue document' = Schema.ofValue document := by
  refine ⟨?_, fun schema => ofValue_eq_ok_iff, fun document' h => h.ofValue_eq.symm⟩
  simp only [ofValue_eq_ok_iff, isDocument_iff]

def numbered : Value :=
  .sequence [.mapping [("name", .number (.integer 7)),
    ("arguments", .sequence [.mapping [("name", .bool true)]])]]

/-- The same names among other fields, at either level. -/
def numberedSince : Value :=
  .sequence [.mapping [("since", .number (.integer 2)),
    ("arguments", .sequence [.mapping [("comment", .null), ("name", .bool true)]]),
    ("name", .number (.integer 7))]]

theorem Schema.ofValue_grammar_since :
    Schema.ofValue numberedSince = .ok ⟨[⟨"7", ["true"]⟩]⟩ := by
  obtain ⟨-, hdescribes, halike⟩ := Schema.ofValue_grammar numbered
  have hsame : AlikeDocument numbered numberedSince :=
    .sequence (.cons (.mapping rfl (.sequence (.cons (.mapping rfl) .nil))) .nil)
  have hseven : Spells (.number (.integer 7)) "7" := .number (.integer 7)
  rw [halike _ hsame, hdescribes]
  exact .sequence (.cons (.mapping (.mapping rfl hseven) rfl (.cons (.mapping rfl .true) .nil)) .nil)

end BindingRegions

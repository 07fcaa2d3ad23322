import BindingRegions.Proofs.Failure
import BindingRegions.Schema.File
import Mathlib.Tactic.Common

/-! Schemas as documents. Every schema, whatever its names, is what some document is read
as (`ofValue_document`): the reader asks of a name only that it be a scalar. -/

namespace BindingRegions

def namedValue (name : String) (fields : List (String × Value)) : Value :=
  .mapping (("name", .string name) :: fields)

namespace Function

def document (function : Function) : Value :=
  namedValue function.name
    [("arguments", .sequence (function.arguments.map fun name => namedValue name []))]

end Function

def Schema.document (schema : Schema) : Value :=
  .sequence (schema.functions.map Function.document)

theorem readIndexed_map {α β ε : Type} {read : α → Except ε β} {write : β → α}
    (h : ∀ b, read (write b) = .ok b) (index : Nat) (items : List β) :
    readIndexed read index (items.map write) = .ok items := by
  induction items generalizing index with
  | nil => rfl
  | cons item rest ih => rw [List.map_cons, readIndexed, h, ih]

theorem nameOf_namedValue (name : String) {fields : List (String × Value)}
    (h : ∀ field ∈ fields, field.1 ≠ "name") : nameOf (namedValue name fields) = .ok name := by
  have hlookup : Value.lookup "name" (("name", .string name) :: fields) = some (.string name) := by
    rw [Value.lookup, List.foldl_cons, if_pos rfl]
    induction fields with
    | nil => rfl
    | cons field rest ih =>
      rw [List.forall_mem_cons] at h
      rw [List.foldl_cons, if_neg h.1]
      exact ih h.2
  simp only [namedValue, nameOf, hlookup, Value.scalarText?, Option.elim_some]

theorem Function.ofValue_document (function : Function) :
    Function.ofValue function.document = .ok function := by
  have hname : nameOf function.document = .ok function.name :=
    nameOf_namedValue function.name (by simp)
  have hread : readIndexed nameOf 0 (function.arguments.map fun name => namedValue name []) =
      .ok function.arguments :=
    readIndexed_map (fun name => nameOf_namedValue name (by simp)) 0 _
  have harguments : argumentsOf function.name function.document = .ok function.arguments := by
    rw [document, namedValue, argumentsOf]
    simp only [Value.lookup, List.foldl_cons, List.foldl_nil, String.reduceEq, if_false, if_true,
      hread, mapError_ok]
  simp only [Function.ofValue, hname, harguments, mapError_ok, ok_bind, pure_eq_ok]

theorem Schema.ofValue_document (schema : Schema) :
    Schema.ofValue schema.document = .ok schema := by
  rw [document, ofValue, readIndexed_map Function.ofValue_document]

/-! ### A document in a file -/

def renewedText : String := "[\x7b\"name\":\"Foo\",\"arguments\":[]\x7d]"

theorem load_of_renewedText {files : FileSystem} {path : FilePath}
    (hread : files.read path = .ok renewedText) (hformat : Schema.formatOf path = .json) :
    Schema.load files path = .ok ⟨[⟨"Foo", []⟩]⟩ := by
  have htext : Schema.ofText .json renewedText = .ok ⟨[⟨"Foo", []⟩]⟩ := by decide +kernel
  rw [Schema.load, hread, hformat]
  simp only [htext, mapError_ok]

end BindingRegions

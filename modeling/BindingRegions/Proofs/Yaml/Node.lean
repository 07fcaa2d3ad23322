import BindingRegions.Proofs.Failure
import BindingRegions.Yaml.Node
import Mathlib.Control.Monad.Basic

/-! Trees of block mappings built back from their tokens: a document whose nodes are scalars and
block mappings, without anchors and tags, is the tree that its tokens render. -/

namespace BindingRegions.Yaml

mutual

/-- The tokens of a tree of scalars and block mappings. -/
inductive Node.Renders : Node → List Token → Prop
  | scalar (plain : Bool) (text : String) : Node.Renders (.scalar {} plain text) [.scalar plain text]
  | mapping {entries : List (Node × Node)} {tokens : List Token} (h : Node.EntriesRender entries tokens) :
      Node.Renders (.mapping {} entries) (.blockMappingStart :: (tokens ++ [.blockEnd]))

inductive Node.EntriesRender : List (Node × Node) → List Token → Prop
  | nil : Node.EntriesRender [] []
  | cons {key value : Node} {entries : List (Node × Node)} {front back tokens : List Token}
      (hkey : Node.Renders key front) (hvalue : Node.Renders value back)
      (h : Node.EntriesRender entries tokens) :
      Node.EntriesRender ((key, value) :: entries) (.key :: (front ++ .value :: (back ++ tokens)))

end

namespace Assembler

variable (s : Assembly) (token : Token)

theorem run_peek : peek.run s = .ok (s.tokens.head?, s) := rfl

theorem run_pass : pass.run s = .ok ((), { s with tokens := s.tokens.tail }) := rfl

theorem run_passIf : (passIf token).run s =
    .ok (if s.tokens.head? = some token then (true, { s with tokens := s.tokens.tail }) else (false, s)) := by
  by_cases h : s.tokens.head? = some token <;> simp [passIf, run_peek, run_pass, h]

end Assembler

namespace Node

/-- A node starts with its text, or with the start of a mapping. -/
theorem Renders.exists_cons {node : Node} {tokens : List Token} (h : Renders node tokens) :
    ∃ first tail, tokens = first :: tail ∧
      (first = .blockMappingStart ∨ ∃ plain text, first = .scalar plain text) := by
  cases h with
  | scalar plain text => exact ⟨_, _, rfl, .inr ⟨plain, text, rfl⟩⟩
  | mapping h => exact ⟨_, _, rfl, .inl rfl⟩

theorem Renders.endsBlockNode_eq_false {node : Node} {tokens rest : List Token} (h : Renders node tokens) :
    Assembler.endsBlockNode (tokens ++ rest).head? = false := by
  obtain ⟨_, _, rfl, rfl | ⟨_, _, rfl⟩⟩ := h.exists_cons <;> rfl

/-- One entry of a mapping: the key, the colon and the value. -/
theorem run_blockEntries_succ {key value : Node} {tokens back rest : List Token} {s : Assembly} {fuel : Nat}
    (hs : s.tokens = .key :: tokens) (htokens : Assembler.endsBlockNode tokens.head? = false)
    (hkey : (Assembler.node true true fuel).run { s with tokens } =
      .ok (key, { s with tokens := .value :: back }))
    (hback : Assembler.endsBlockNode back.head? = false)
    (hvalue : (Assembler.node true true fuel).run { s with tokens := back } =
      .ok (value, { s with tokens := rest })) :
    (Assembler.blockEntries (fuel + 1)).run s =
      (fun p => ((key, value) :: p.1, p.2)) <$>
        (Assembler.blockEntries fuel).run { s with tokens := rest } := by
  obtain ⟨_, handles, names⟩ := s
  subst hs
  rw [Assembler.blockEntries]
  simp [Assembler.run_passIf, Assembler.run_peek, htokens, hkey, hback, hvalue]

mutual

/-- The tokens of a node are read as the node, whatever follows them. -/
theorem Renders.run {node : Node} {tokens rest : List Token} (h : Renders node tokens) (unindented : Bool)
    (s : Assembly) (hs : s.tokens = tokens ++ rest) (fuel : Nat) (hfuel : tokens.length < fuel) :
    (Assembler.node true unindented fuel).run s = .ok (node, { s with tokens := rest }) := by
  obtain ⟨fuel, rfl⟩ : ∃ n, fuel = n + 1 := ⟨fuel - 1, by omega⟩
  obtain ⟨_, handles, names⟩ := s
  cases h with
  | scalar plain text =>
    obtain rfl := hs
    rfl
  | mapping h =>
    rename_i entries tokens
    obtain rfl := hs
    have hentries := h.run ⟨tokens ++ .blockEnd :: rest, handles, names⟩ rfl fuel (by
      simp at hfuel
      omega)
    rw [List.cons_append, List.append_assoc, Assembler.node]
    simp [Assembler.run_peek, Assembler.properties, Assembler.run_pass, hentries]

theorem EntriesRender.run {entries : List (Node × Node)} {tokens rest : List Token}
    (h : EntriesRender entries tokens) (s : Assembly) (hs : s.tokens = tokens ++ .blockEnd :: rest)
    (fuel : Nat) (hfuel : tokens.length < fuel) :
    (Assembler.blockEntries fuel).run s = .ok (entries, { s with tokens := rest }) := by
  obtain ⟨fuel, rfl⟩ : ∃ n, fuel = n + 1 := ⟨fuel - 1, by omega⟩
  cases h with
  | nil =>
    obtain ⟨_, handles, names⟩ := s
    obtain rfl := hs
    rfl
  | cons hkey hvalue h =>
    rename_i key value entries front back tokens
    simp only [List.length_cons, List.length_append] at hfuel
    have hs' : s.tokens = .key :: (front ++ .value :: (back ++ (tokens ++ .blockEnd :: rest))) := by
      simp [hs]
    rw [run_blockEntries_succ hs' hkey.endsBlockNode_eq_false (hkey.run true _ rfl fuel (by omega))
      hvalue.endsBlockNode_eq_false (hvalue.run true _ rfl fuel (by omega)), h.run _ rfl fuel (by omega)]
    rfl

end

mutual

theorem Renders.anchored_eq {node : Node} {tokens : List Token} (h : Renders node tokens) :
    node.anchored = [] := by
  cases h with
  | scalar plain text => rfl
  | mapping h => exact h.anchoredEntries_eq

theorem EntriesRender.anchoredEntries_eq {entries : List (Node × Node)} {tokens : List Token}
    (h : EntriesRender entries tokens) : anchoredEntries entries = [] := by
  cases h with
  | nil => rfl
  | cons hkey hvalue h => rw [anchoredEntries, hkey.anchored_eq, hvalue.anchored_eq, h.anchoredEntries_eq]; rfl

end

end Node

theorem Document.ofTokens_renders {node : Node} {tokens : List Token} (h : node.Renders tokens) :
    Document.ofTokens tokens = .ok ⟨some node, []⟩ := by
  have hrun := h.run false ⟨tokens, [], []⟩ (List.append_nil _).symm (2 * tokens.length + 2)
    (by omega)
  have hdirectives : (Assembler.directives (2 * tokens.length + 2) false).run { tokens } =
      .ok ((), { tokens }) := by
    obtain ⟨_, _, rfl, rfl | ⟨_, _, rfl⟩⟩ := h.exists_cons <;> rfl
  have hmark : (Assembler.passIf .documentStart).run { tokens } = .ok (false, { tokens }) := by
    obtain ⟨_, _, rfl, rfl | ⟨_, _, rfl⟩⟩ := h.exists_cons <;> rfl
  have hends : (Assembler.passEnds (2 * tokens.length + 2)).run { tokens := [] } = .ok ((), { tokens := [] }) :=
    rfl
  have hne : tokens ≠ [] := by
    obtain ⟨_, _, rfl, -⟩ := h.exists_cons
    exact List.cons_ne_nil _ _
  have hroot : Assembler.root.run { tokens } = .ok (some node, { tokens := [] }) := by
    rw [Assembler.root]
    simp [hne, hdirectives, hmark, hrun, hends, Assembler.peek]
  rw [Document.ofTokens, hroot]
  simp [h.anchored_eq]

end BindingRegions.Yaml

import BindingRegions.Yaml.Layout

/-! The nodes of a YAML document. Anchors are numbered by how many names are bound
when one is met, so a name bound again may share its number with another; an alias
then stands for the last node that bears the number. -/

namespace BindingRegions.Yaml

structure Properties where
  anchor : Option Nat := none
  tag : Option Tag := none
  deriving DecidableEq, Repr

inductive Node where
  | alias (number : Nat)
  | scalar (properties : Properties) (plain : Bool) (text : String)
  | sequence (properties : Properties) (items : List Node)
  | mapping (properties : Properties) (entries : List (Node × Node))
  deriving Repr

namespace Node

/-- A node that is not written. -/
def empty : Node := .scalar {} true ""

mutual

/-- The anchored nodes in a node, in document order. -/
def anchored : Node → List (Nat × Node)
  | .alias _ => []
  | .scalar p plain text => (p.anchor.map fun n => (n, .scalar p plain text)).toList
  | .sequence p items =>
    (p.anchor.map fun n => (n, .sequence p items)).toList ++ anchoredItems items
  | .mapping p entries =>
    (p.anchor.map fun n => (n, .mapping p entries)).toList ++ anchoredEntries entries

def anchoredItems : List Node → List (Nat × Node)
  | [] => []
  | item :: items => item.anchored ++ anchoredItems items

def anchoredEntries : List (Node × Node) → List (Nat × Node)
  | [] => []
  | (key, value) :: entries => key.anchored ++ value.anchored ++ anchoredEntries entries

end

mutual

/-- The size of a node: one for a scalar or an alias, two for a collection, and that
of its parts. -/
def size : Node → Nat
  | .alias _ => 1
  | .scalar _ _ _ => 1
  | .sequence _ items => 2 + sizeItems items
  | .mapping _ entries => 2 + sizeEntries entries

def sizeItems : List Node → Nat
  | [] => 0
  | item :: items => item.size + sizeItems items

def sizeEntries : List (Node × Node) → Nat
  | [] => 0
  | (key, value) :: entries => key.size + value.size + sizeEntries entries

end

end Node

/-- A document: its root, unless the text has none, and what the anchor numbers stand
for. -/
structure Document where
  root : Option Node
  anchors : List (Nat × Node)

def Document.find? (document : Document) (number : Nat) : Option Node :=
  (document.anchors.reverse.find? (·.1 == number)).map (·.2)

/-- The size of a document's root; a missing one counts as a scalar. -/
def Document.size (document : Document) : Nat :=
  (document.root.map Node.size).getD 1

/-- The state while nodes are built: the tokens to come, the handles defined, and the
anchor names with their numbers, last binding first. -/
structure Assembly where
  tokens : List Token
  handles : List (String × List UInt8) := []
  names : List (String × Nat) := []

abbrev Assembler := StateT Assembly (Except SyntaxFault)

namespace Assembler

def fail {α : Type} (fault : SyntaxFault) : Assembler α := throw fault

def peek : Assembler (Option Token) := return (← get).tokens.head?

def pass : Assembler Unit := modify fun s => { s with tokens := s.tokens.tail }

def passIf (token : Token) : Assembler Bool := do
  if (← peek) = some token then
    pass
    return true
  return false

/-- The handles that need no directive. -/
def standardHandles : List (String × List UInt8) :=
  [("!", octetsOf ['!']), ("!!", octetsOf "tag:yaml.org,2002:".toList)]

/-- Gives an anchor name the next number. -/
def bind (name : String) : Assembler Nat := do
  let s ← get
  let number := s.names.length
  set { s with names := (name, number) :: s.names.filter (·.1 ≠ name) }
  return number

def resolveTag (tag : WrittenTag) : Assembler Tag := do
  if tag.handle = "" then return .ofOctets tag.suffix
  match ((← get).handles ++ standardHandles).lookup tag.handle with
  | some uri => return .ofOctets (uri ++ tag.suffix)
  | none => fail (.undefinedHandle tag.handle)

/-- A node's properties: an anchor and a tag, in either order, each at most once. -/
def properties : Assembler Properties := do
  match ← peek with
  | some (.anchor name) =>
    pass
    match ← peek with
    | some (.tag tag) =>
      pass
      let tag ← resolveTag tag
      return { anchor := ← bind name, tag := tag }
    | _ => return { anchor := ← bind name }
  | some (.tag tag) =>
    pass
    match ← peek with
    | some (.anchor name) =>
      pass
      let tag ← resolveTag tag
      return { anchor := ← bind name, tag := tag }
    | _ => return { tag := ← resolveTag tag }
  | _ => return {}

/-- Tokens that leave the place of a block node empty. -/
def endsBlockNode : Option Token → Bool
  | some .key | some .value | some .blockEnd => true
  | _ => false

/-- Tokens that leave the place of a flow node empty. -/
def endsFlowNode (close : Token) (token : Option Token) : Bool :=
  token = some .comma || token = some close

mutual

/-- A node. A block collection may stand only in block context, and entries without
indentation of their own only as a value of a block mapping. -/
def node (inBlock unindented : Bool) : Nat → Assembler Node
  | 0 => fail .tooDeep
  | fuel + 1 => do
    if let some (.alias name) ← peek then
      pass
      match (← get).names.lookup name with
      | some number => return .alias number
      | none => fail (.undefinedAlias name)
    else
      let p ← properties
      match ← peek, inBlock, unindented with
      | some .entry, _, true => return .sequence p (← unindentedItems fuel)
      | some (.scalar plain text), _, _ =>
        pass
        return .scalar p plain text
      | some .flowSequenceStart, _, _ =>
        pass
        return .sequence p (← flowItems fuel true)
      | some .flowMappingStart, _, _ =>
        pass
        return .mapping p (← flowEntries fuel true)
      | some .blockSequenceStart, true, _ =>
        pass
        return .sequence p (← blockItems fuel)
      | some .blockMappingStart, true, _ =>
        pass
        return .mapping p (← blockEntries fuel)
      | _, _, _ => if p = {} then fail .missingNode else return .scalar p true ""

def blockItems : Nat → Assembler (List Node)
  | 0 => fail .tooDeep
  | fuel + 1 => do
    if ← passIf .entry then
      let next ← peek
      let item ←
        if next = some .entry || next = some .blockEnd then pure .empty
        else node true false fuel
      return item :: (← blockItems fuel)
    else if ← passIf .blockEnd then return []
    else fail .unclosedCollection

def unindentedItems : Nat → Assembler (List Node)
  | 0 => fail .tooDeep
  | fuel + 1 => do
    if ← passIf .entry then
      let next ← peek
      let item ←
        if next = some .entry || endsBlockNode next then pure .empty
        else node true false fuel
      return item :: (← unindentedItems fuel)
    else return []

def blockEntries : Nat → Assembler (List (Node × Node))
  | 0 => fail .tooDeep
  | fuel + 1 => do
    if ← passIf .blockEnd then return []
    if !(← passIf .key) then fail .unclosedCollection
    let key ← if endsBlockNode (← peek) then pure .empty else node true true fuel
    let value ←
      if ← passIf .value then
        if endsBlockNode (← peek) then pure .empty else node true true fuel
      else pure .empty
    return (key, value) :: (← blockEntries fuel)

/-- The items of a flow sequence. A key token among them starts a mapping with one
entry; where its key is missing, the token in its place is passed over. -/
def flowItems : Nat → Bool → Assembler (List Node)
  | 0, _ => fail .tooDeep
  | fuel + 1, first => do
    if ← passIf .flowSequenceEnd then return []
    if !first then
      if !(← passIf .comma) then fail .unclosedCollection
      if ← passIf .flowSequenceEnd then return []
    let item ←
      if ← passIf .key then
        let next ← peek
        let key ←
          if next = some .value || endsFlowNode .flowSequenceEnd next then
            pass
            pure .empty
          else node false false fuel
        let value ← flowValue fuel .flowSequenceEnd
        pure (.mapping {} [(key, value)])
      else node false false fuel
    return item :: (← flowItems fuel false)

/-- The value of a flow mapping's entry, if a colon stands there. -/
def flowValue : Nat → Token → Assembler Node
  | 0, _ => fail .tooDeep
  | fuel + 1, close => do
    if ← passIf .value then
      if endsFlowNode close (← peek) then return .empty else node false false fuel
    else return .empty

/-- The entries of a flow mapping. A node without a key token is a key without a
value. -/
def flowEntries : Nat → Bool → Assembler (List (Node × Node))
  | 0, _ => fail .tooDeep
  | fuel + 1, first => do
    if ← passIf .flowMappingEnd then return []
    if !first then
      if !(← passIf .comma) then fail .unclosedCollection
      if ← passIf .flowMappingEnd then return []
    let entry ←
      if ← passIf .key then
        let next ← peek
        let key ←
          if next = some .value || endsFlowNode .flowMappingEnd next then pure .empty
          else node false false fuel
        let value ← flowValue fuel .flowMappingEnd
        pure (key, value)
      else
        let key ← node false false fuel
        pure (key, .empty)
    return entry :: (← flowEntries fuel false)

end

def directives : Nat → Bool → Assembler Unit
  | 0, _ => fail .tooDeep
  | fuel + 1, versioned => do
    match ← peek with
    | some (.version major minor) =>
      if versioned then fail .repeatedDirective
      if major ≠ 1 || (minor ≠ 1 && minor ≠ 2) then fail .unsupportedVersion
      pass
      directives fuel true
    | some (.tagHandle handle uri) =>
      let s ← get
      if (s.handles.lookup handle).isSome then fail .repeatedDirective
      set { s with handles := (handle, uri) :: s.handles }
      pass
      directives fuel versioned
    | _ => return

def passEnds : Nat → Assembler Unit
  | 0 => return
  | fuel + 1 => do if ← passIf .documentEnd then passEnds fuel

/-- The root of the only document. Every token makes at most two steps. -/
def root : Assembler (Option Node) := do
  let count := (← get).tokens.length
  let fuel := 2 * count + 2
  if count = 0 then return none
  directives fuel false
  let marked ← passIf .documentStart
  let root ←
    if marked then
      match ← peek with
      | none | some (.version ..) | some (.tagHandle ..) | some .documentStart
      | some .documentEnd => pure .empty
      | _ => node true false fuel
    else if (← get).tokens.length < count then fail .missingDocumentStart
    else node true false fuel
  passEnds fuel
  if (← peek).isSome then fail .severalDocuments
  return some root

end Assembler

def Document.ofTokens (tokens : List Token) : Except SyntaxFault Document := do
  let (root, _) ← Assembler.root.run { tokens }
  return ⟨root, (root.map Node.anchored).getD []⟩

/-- The document of a text that is exactly one. -/
def Document.ofText (text : String) : Except SyntaxFault Document := do
  Document.ofTokens (← Token.ofText text)

end BindingRegions.Yaml

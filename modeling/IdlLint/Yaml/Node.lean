import IdlLint.Yaml.Scalar
import IdlLint.Yaml.Token

/-! Documents as nodes that refer to each other by number. A node with an anchor can be part of
others, also of itself. -/
namespace IdlLint.Yaml

inductive Content where
  | scalar (text : List Char)
  | sequence (items : List Nat)
  | mapping (entries : List (Nat × Nat))
deriving DecidableEq, Repr, Inhabited

structure Node where
  tag : Tag
  content : Content
deriving DecidableEq, Repr, Inhabited

namespace Node

/-- The scalar node with a tag by its name. -/
def ofScalar (name : Option (List Char)) (text : List Char) (plain : Bool) : Node :=
  let tag := match name with
    | none => if plain then Tag.ofPlain text else .string
    | some name => if name == ['!'] then Tag.ofPlain text else .ofName name
  ⟨tag, .scalar text⟩

/-- The node where nothing is written. -/
def empty (name : Option (List Char)) : Node :=
  .ofScalar name [] true

/-- The tag of a collection by its name. -/
def collectionTag (fallback : Tag) : Option (List Char) → Tag
  | none => fallback
  | some name => if name == ['!'] then fallback else .ofName name

end Node

structure Reader where
  tokens : List Token
  /-- The fault that comes up after the last token. -/
  fault : Option Fault
  nodes : Array Node := #[]
  anchors : List (List Char × Nat) := []
  /-- What the handles of tags stand for. -/
  handles : List (List Char × List Char) := []
deriving Inhabited

abbrev NodeM := StateT Reader (Except Fault)

namespace Read

def fail {α : Type} : NodeM α := throw .malformed

/-- The next token. -/
def peek : NodeM Token := do
  let s ← get
  match s.tokens, s.fault with
  | token :: _, _ => return token
  | [], some fault => throw fault
  | [], none => return .streamEnd

def advance : NodeM Unit :=
  modify fun s => { s with tokens := s.tokens.tail }

/-- Takes the next token if it is `token`. -/
def accept (token : Token) : NodeM Bool := do
  if (← peek) = token then
    advance
    return true
  else return false

def expect (token : Token) : NodeM Unit := do
  if ← accept token then return else fail

/-- What the handles of tags stand for unless a directive says otherwise. -/
def standardHandles : List (List Char × List Char) :=
  [(['!'], ['!']), (['!', '!'], Tag.standard)]

/-- The name of a tag with a handle and a suffix. -/
def tagName (handle : Option (List Char)) (suffix : List Char) : NodeM (List Char) := do
  match handle with
  | none => return suffix
  | some handle =>
    match ((← get).handles ++ standardHandles).find? fun entry => entry.1 == handle with
    | some (_, meaning) => return meaning ++ suffix
    | none => fail

def anchor? : NodeM (Option (List Char)) := do
  match ← peek with
  | .anchor name => do
    advance
    return some name
  | _ => return none

/-- The anchor and the name of the tag of a node, in either order. -/
def properties : NodeM (Option (List Char) × Option (List Char)) := do
  let before ← anchor?
  match ← peek with
  | .tag handle suffix => do
    advance
    let anchor ← if before.isSome then pure before else anchor?
    return (anchor, some (← tagName handle suffix))
  | _ => return (before, none)

/-- Adds a node and gives its number. The anchor must not be taken. -/
def add (anchor : Option (List Char)) (node : Node) : NodeM Nat := do
  let s ← get
  let index := s.nodes.size
  let anchors ← match anchor with
    | none => pure s.anchors
    | some name =>
      if s.anchors.any fun entry => entry.1 == name then fail
      else pure ((name, index) :: s.anchors)
  set { s with nodes := s.nodes.push node, anchors := anchors }
  return index

/-- Gives a node its content. -/
def fill (index : Nat) (content : Content) : NodeM Unit :=
  modify fun s => { s with
    nodes := s.nodes.modify index fun node => { node with content := content } }

/-- Where a node stands: in a flow collection, in a block, or as the value of a block mapping, where
a sequence needs no indentation. -/
inductive Place where
  | flow | block | value
deriving DecidableEq, Repr, Inhabited

mutual

/-- A node, which must be there. -/
def node : Nat → Place → NodeM Nat
  | 0, _ => fail
  | fuel + 1, place => do
    match ← peek with
    | .alias name =>
      advance
      match (← get).anchors.find? fun entry => entry.1 == name with
      | some (_, index) => return index
      | none => fail
    | _ =>
      let (anchor, name) ← properties
      let sequence (items : NodeM (List Nat)) : NodeM Nat := do
        let index ← add anchor ⟨Node.collectionTag .sequence name, .sequence []⟩
        fill index (.sequence (← items))
        return index
      let mapping (entries : NodeM (List (Nat × Nat))) : NodeM Nat := do
        let index ← add anchor ⟨Node.collectionTag .mapping name, .mapping []⟩
        fill index (.mapping (← entries))
        return index
      let nothing : NodeM Nat :=
        if anchor.isSome || name.isSome then add anchor (.empty name) else fail
      match ← peek with
      | .scalar text plain => do
        advance
        add anchor (.ofScalar name text plain)
      | .flowSequenceStart => do
        advance
        sequence (flowItems fuel true [])
      | .flowMappingStart => do
        advance
        mapping (flowEntries fuel true [])
      | .blockEntry =>
        if place = .value then sequence (indentlessItems fuel []) else nothing
      | .blockSequenceStart =>
        if place = .flow then nothing
        else
          advance
          sequence (blockItems fuel [])
      | .blockMappingStart =>
        if place = .flow then nothing
        else
          advance
          mapping (blockEntries fuel [])
      | _ => nothing

/-- A node, or the empty one before a token of `ends`. -/
def nodeBefore : Nat → Place → List Token → NodeM Nat
  | 0, _, _ => fail
  | fuel + 1, place, ends => do
    if ends.contains (← peek) then add none (.empty none) else node fuel place

def blockItems : Nat → List Nat → NodeM (List Nat)
  | 0, _ => fail
  | fuel + 1, items => do
    if ← accept .blockEntry then
      let item ← nodeBefore fuel .block [.blockEntry, .blockEnd]
      blockItems fuel (items ++ [item])
    else
      expect .blockEnd
      return items

def indentlessItems : Nat → List Nat → NodeM (List Nat)
  | 0, _ => fail
  | fuel + 1, items => do
    if ← accept .blockEntry then
      let item ← nodeBefore fuel .block [.blockEntry, .key, .value, .blockEnd]
      indentlessItems fuel (items ++ [item])
    else return items

def blockEntries : Nat → List (Nat × Nat) → NodeM (List (Nat × Nat))
  | 0, _ => fail
  | fuel + 1, entries => do
    if ← accept .key then
      let ends := [Token.key, .value, .blockEnd]
      let key ← nodeBefore fuel .value ends
      let value ←
        if ← accept .value then nodeBefore fuel .value ends else add none (.empty none)
      blockEntries fuel (entries ++ [(key, value)])
    else
      expect .blockEnd
      return entries

/-- The value after a key of a flow collection that `close` ends. -/
def flowValue : Nat → Token → NodeM Nat
  | 0, _ => fail
  | fuel + 1, close => do
    if ← accept .value then nodeBefore fuel .flow [.flowEntry, close]
    else add none (.empty none)

def flowItems : Nat → Bool → List Nat → NodeM (List Nat)
  | 0, _, _ => fail
  | fuel + 1, first, items => do
    if ← accept .flowSequenceEnd then return items
    else
      if !first then expect .flowEntry
      if ← accept .flowSequenceEnd then return items
      else if ← accept .key then
        let index ← add none ⟨.mapping, .mapping []⟩
        let key ← nodeBefore fuel .flow [.value, .flowEntry, .flowSequenceEnd]
        let value ← flowValue fuel .flowSequenceEnd
        fill index (.mapping [(key, value)])
        flowItems fuel false (items ++ [index])
      else
        let item ← node fuel .flow
        flowItems fuel false (items ++ [item])

def flowEntries : Nat → Bool → List (Nat × Nat) → NodeM (List (Nat × Nat))
  | 0, _, _ => fail
  | fuel + 1, first, entries => do
    if ← accept .flowMappingEnd then return entries
    else
      if !first then expect .flowEntry
      if ← accept .flowMappingEnd then return entries
      else if ← accept .key then
        let key ← nodeBefore fuel .flow [.value, .flowEntry, .flowMappingEnd]
        let value ← flowValue fuel .flowMappingEnd
        flowEntries fuel false (entries ++ [(key, value)])
      else
        let key ← node fuel .flow
        let value ← add none (.empty none)
        flowEntries fuel false (entries ++ [(key, value)])

end

/-- Directives before a document. There is at most one version, which must begin with one, and no
handle of tags is given a meaning twice. -/
def directives : Nat → Bool → NodeM Unit
  | 0, _ => fail
  | fuel + 1, versioned => do
    match ← peek with
    | .version major =>
      advance
      if versioned || major ≠ 1 then fail else directives fuel true
    | .handle handle meaning =>
      advance
      let s ← get
      if s.handles.any fun entry => entry.1 == handle then fail
      else
        set { s with handles := (handle, meaning) :: s.handles }
        directives fuel versioned
    | .otherDirective =>
      advance
      directives fuel versioned
    | _ => return

def documentEnds : Nat → NodeM Unit
  | 0 => return
  | fuel + 1 => do
    if ← accept .documentEnd then documentEnds fuel else return

/-- Whether a token is a directive. -/
def isDirective : Token → Bool
  | .version _ | .handle _ _ | .otherDirective => true
  | _ => false

/-- The only document of a text, if it has one. -/
def document (fuel : Nat) : NodeM (Option Nat) := do
  let first ← peek
  if first = .streamEnd then return none
  else
    let root ←
      if isDirective first || first = .documentStart then do
        directives fuel false
        expect .documentStart
        let next ← peek
        if isDirective next || [Token.documentStart, .documentEnd, .streamEnd].contains next then
          add none (.empty none)
        else node fuel .block
      else node fuel .block
    documentEnds fuel
    if ← accept .streamEnd then return some root
    else
      modify fun s => { s with handles := [] }
      directives fuel false
      let _ ← peek
      fail

end Read

/-- The node with a number. -/
def nodeOf (nodes : Array Node) (index : Nat) : Node :=
  (nodes[index]?).getD ⟨.unknown, .scalar []⟩

/-- The nodes of a document, one of which is all of it. -/
structure Document where
  nodes : Array Node
  root : Nat
deriving Inhabited

/-- The document of a text; `none` for a text without one. -/
def Document.ofText (text : List Char) : Except Fault (Option Document) :=
  match Tokens.ofText? text with
  | none => .error .malformed
  | some stream =>
    let start : Reader := { tokens := stream.tokens, fault := stream.fault }
    match (Read.document (3 * stream.tokens.length + 6)).run start with
    | .error fault => .error fault
    | .ok (root, s) => .ok (root.map fun root => ⟨s.nodes, root⟩)

end IdlLint.Yaml

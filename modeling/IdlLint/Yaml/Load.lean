import IdlLint.Yaml.Node

/-! Data from documents. The parts of a collection are read after everything that stands beside it,
so that the first fault is the one nearest to the top. -/
namespace IdlLint.Yaml

open IdlLint.Config

structure Loader where
  nodes : Array Node
  /-- The values of the nodes by their numbers, and after them values that are no nodes. -/
  cells : Array Cell
  /-- The nodes whose values are begun. -/
  begun : List Nat := []
  /-- Collections whose parts are still to be read, the last first. -/
  pending : List Nat := []
deriving Inhabited

abbrev LoadM := StateT Loader (Except Fault)

namespace Load

def fail {α : Type} : LoadM α := throw .malformed

def nodeAt (index : Nat) : LoadM Node := do
  return nodeOf (← get).nodes index

def setCell (index : Nat) (cell : Cell) : LoadM Unit :=
  modify fun s => { s with cells := s.cells.set! index cell }

/-- Adds a value that is no node. -/
def addCell (cell : Cell) : LoadM Nat := do
  let s ← get
  set { s with cells := s.cells.push cell }
  return s.cells.size

/-- The entries of a mapping. -/
def entriesOf (index : Nat) : LoadM (List (Nat × Nat)) := do
  match (← nodeAt index).content with
  | .mapping entries => return entries
  | _ => fail

def setEntries (index : Nat) (entries : List (Nat × Nat)) : LoadM Unit :=
  modify fun s => { s with
    nodes := s.nodes.modify index fun node => { node with content := .mapping entries } }

/-- The text of a scalar, or of the default value of a mapping. With a step for each node the text is
found, unless the mapping is its own default value. -/
def textOf : Nat → Nat → LoadM (List Char)
  | 0, _ => throw .endless
  | fuel + 1, index => do
    match (← nodeAt index).content with
    | .scalar text => return text
    | .sequence _ => fail
    | .mapping entries =>
      let nodes := (← get).nodes
      match entries.find? fun entry => (nodes[entry.1]?).any fun key => key.tag = .value with
      | some (_, value) => textOf fuel value
      | none => fail

/-- The value of a scalar. -/
def scalar (index : Nat) (tag : Tag) : LoadM Scalar := do
  let text ← textOf ((← get).nodes.size + 1) index
  match tag, (← nodeAt index).content with
  | .timestamp, .mapping _ => throw .timestampMapping
  | _, _ =>
    match tag.read text with
    | .ok value => return value
    | .error fault => throw fault

/-- The value of a collection before its parts are read. -/
def begin? : Tag → Option Cell
  | .sequence | .pairs => some (.list [])
  | .mapping => some (.map [])
  | .set => some (.set [])
  | _ => none

/-- Begins the value of a node. -/
def value (index : Nat) : LoadM Unit := do
  let s ← get
  if s.begun.contains index then return
  else
    let tag := (← nodeAt index).tag
    let cell ←
      if tag.isScalar then Cell.scalar <$> scalar index tag
      else
        match begin? tag with
        | some cell => do
          modify fun s => { s with pending := index :: s.pending }
          pure cell
        | none => fail
    setCell index cell
    modify fun s => { s with begun := index :: s.begun }

/-- The value of a node as a key, which must be a scalar. -/
def key (index : Nat) : LoadM Scalar := do
  value index
  match Data.cellAt (← get).cells index with
  | .scalar value => return value
  | _ => fail

mutual

/-- Puts the entries of merged mappings before the entries of a mapping. -/
def flatten : Nat → Nat → LoadM Unit
  | 0, _ => fail
  | fuel + 1, index => do
    let merged ← mergedFrom fuel index 0 []
    setEntries index (merged ++ (← entriesOf index))
termination_by structural fuel => fuel

/-- The entries that are merged into a mapping, whose own entries are looked through from `place`
on. -/
def mergedFrom : Nat → Nat → Nat → List (Nat × Nat) → LoadM (List (Nat × Nat))
  | 0, _, _, _ => fail
  | fuel + 1, index, place, merged => do
    let entries ← entriesOf index
    match entries[place]? with
    | none => return merged
    | some (keyIndex, valueIndex) =>
      match (← nodeAt keyIndex).tag with
      | .merge => do
        setEntries index (entries.eraseIdx place)
        let more ← mergedEntries fuel valueIndex
        mergedFrom fuel index place (merged ++ more)
      | .value => do
        modify fun s => { s with
          nodes := s.nodes.modify keyIndex fun node => { node with tag := .string } }
        mergedFrom fuel index (place + 1) merged
      | _ => mergedFrom fuel index (place + 1) merged
termination_by structural fuel => fuel

/-- The entries of a merged mapping, or of several, of which the first wins. -/
def mergedEntries : Nat → Nat → LoadM (List (Nat × Nat))
  | 0, _ => fail
  | fuel + 1, index => do
    match (← nodeAt index).content with
    | .mapping _ => do
      flatten fuel index
      entriesOf index
    | .sequence items => mergedItems fuel items
    | .scalar _ => fail
termination_by structural fuel => fuel

def mergedItems : Nat → List Nat → LoadM (List (Nat × Nat))
  | 0, _ => fail
  | _ + 1, [] => return []
  | fuel + 1, index :: rest => do
    match (← nodeAt index).content with
    | .mapping _ => do
      flatten fuel index
      let entries ← entriesOf index
      let more ← mergedItems fuel rest
      return more ++ entries
    | _ => fail
termination_by structural fuel => fuel

end

/-- A bound on the steps of merging. -/
def mergeFuel : LoadM Nat := do
  let sizes := (← get).nodes.toList.map fun node =>
    match node.content with
    | .scalar _ => 1
    | .sequence items => items.length + 1
    | .mapping entries => entries.length + 1
  return Nat.pow (sizes.foldl (· + ·) 2) 3

/-- The entries of a mapping by their keys. -/
def mapping (index : Nat) : LoadM (List (Scalar × Nat)) := do
  let _ ← entriesOf index
  flatten (← mergeFuel) index
  (← entriesOf index).mapM fun (keyIndex, valueIndex) => do
    let name ← key keyIndex
    value valueIndex
    return (name, valueIndex)

/-- A mapping of one entry as a pair. -/
def pair (index : Nat) : LoadM Nat := do
  match ← entriesOf index with
  | [(first, second)] => do
    value first
    value second
    addCell (.pair first second)
  | _ => fail

/-- The items of a sequence. -/
def itemsOf (index : Nat) : LoadM (List Nat) := do
  match (← nodeAt index).content with
  | .sequence items => return items
  | _ => fail

/-- Reads the parts of a collection. -/
def complete (index : Nat) : LoadM Unit := do
  match (← nodeAt index).tag with
  | .sequence => do
    let items ← itemsOf index
    items.forM value
    setCell index (.list items)
  | .mapping => do setCell index (.ofEntries (← mapping index))
  | .set => do
    match Cell.ofEntries (← mapping index) with
    | .map entries => setCell index (.ofMembers (entries.map Prod.fst))
    | _ => fail
  | .pairs => do setCell index (.list (← (← itemsOf index).mapM pair))
  | _ => return

/-- Reads the parts of all collections that are begun, and then of those begun meanwhile. -/
def completeAll : Nat → LoadM Unit
  | 0 => return
  | fuel + 1 => do
    let pending := (← get).pending.reverse
    if pending.isEmpty then return
    else
      modify fun s => { s with pending := [] }
      pending.forM complete
      completeAll fuel

end Load

/-- The data of a document. -/
def Document.toData (d : Document) : Except Fault Data :=
  let start : Loader := { nodes := d.nodes, cells := .replicate d.nodes.size (.scalar .null) }
  let load : LoadM Unit := do
    Load.value d.root
    Load.completeAll (d.nodes.size + 1)
  match load.run start with
  | .error fault => .error fault
  | .ok (_, s) => .ok ⟨s.cells, d.root⟩

/-- The data of a text with at most one document. -/
def load (text : List Char) : Except Fault Data :=
  match Document.ofText text with
  | .error fault => .error fault
  | .ok none => .ok .null
  | .ok (some document) => document.toData

end IdlLint.Yaml

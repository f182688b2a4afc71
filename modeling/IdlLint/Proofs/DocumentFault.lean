import Mathlib
import IdlLint.Proofs.ScanFault
import IdlLint.Yaml.Load

/-! A text that is in order as such still stands for no data if it cannot be scanned, or if a node of
its document does not hold what its tag asks for. Nothing else is a fault. -/
namespace IdlLint.Yaml

set_option mvcgen.warning false

open Std.Do

/-! ### Documents from tokens -/

namespace Read

/-- A text that is malformed and the fault that comes up after the last token are foreseen. -/
structure Foresees (E : Fault → Prop) (fault : Option Fault) : Prop where
  malformed : E .malformed
  pending : ∀ cause, fault = some cause → E cause

/-- A computation fails only as foreseen. -/
abbrev Keeps (E : Fault → Prop) {α : Type} (m : NodeM α) : Prop :=
  ⦃fun s => ⌜Foresees E s.fault⌝⦄ m
  ⦃post⟨fun _ s => ⌜Foresees E s.fault⌝, fun fault => ⌜E fault⌝⟩⦄

variable {E : Fault → Prop}

@[spec] theorem keeps_fail {α : Type} : Keeps E (fail : NodeM α) :=
  fun _ foreseen => foreseen.malformed

@[spec] theorem keeps_peek : Keeps E peek := by
  mvcgen [peek, throw_spec, -Spec.throw_MonadExcept]
  case vc2 s foreseen cause faulty _ => exact foreseen.pending cause faulty

attribute [spec] advance

@[spec] theorem keeps_accept (token : Token) : Keeps E (accept token) := by
  mvcgen [accept]

@[spec] theorem keeps_expect (token : Token) : Keeps E (expect token) := by
  mvcgen [expect]

@[spec] theorem keeps_tagName (handle : Option (List Char)) (suffix : List Char) :
    Keeps E (tagName handle suffix) := by
  mvcgen [tagName]

@[spec] theorem keeps_anchor? : Keeps E anchor? := by
  mvcgen [anchor?]

@[spec] theorem keeps_properties : Keeps E properties := by
  mvcgen [properties]

@[spec] theorem keeps_add (anchor : Option (List Char)) (node : Node) :
    Keeps E (add anchor node) := by
  mvcgen [add]

@[spec] theorem keeps_fill (index : Nat) (content : Content) : Keeps E (fill index content) := by
  mvcgen [fill]

/-- The readers of nodes call each other, so they are treated together. -/
structure KeepsNodes (E : Fault → Prop) (n : Nat) : Prop where
  node : ∀ place, Keeps E (node n place)
  nodeBefore : ∀ place ends, Keeps E (nodeBefore n place ends)
  blockItems : ∀ items, Keeps E (blockItems n items)
  indentlessItems : ∀ items, Keeps E (indentlessItems n items)
  blockEntries : ∀ entries, Keeps E (blockEntries n entries)
  flowValue : ∀ close, Keeps E (flowValue n close)
  flowItems : ∀ first items, Keeps E (flowItems n first items)
  flowEntries : ∀ first entries, Keeps E (flowEntries n first entries)

private theorem keepsNodes (n : Nat) : KeepsNodes E n := by
  induction n with
  | zero => constructor <;> intros <;> exact keeps_fail
  | succ n ih =>
    obtain ⟨node, nodeBefore, blockItems, indentlessItems, blockEntries, flowValue, flowItems,
      flowEntries⟩ := ih
    constructor
    case node =>
      intro place
      mvcgen [Read.node, blockItems, indentlessItems, blockEntries, flowItems, flowEntries]
    case nodeBefore =>
      intro place ends
      mvcgen [Read.nodeBefore, node]
    case blockItems =>
      intro items
      mvcgen [Read.blockItems, nodeBefore, blockItems]
    case indentlessItems =>
      intro items
      mvcgen [Read.indentlessItems, nodeBefore, indentlessItems]
    case blockEntries =>
      intro entries
      mvcgen [Read.blockEntries, nodeBefore, blockEntries]
    case flowValue =>
      intro close
      mvcgen [Read.flowValue, nodeBefore]
    case flowItems =>
      intro first items
      mvcgen [Read.flowItems, node, nodeBefore, flowValue, flowItems]
    case flowEntries =>
      intro first entries
      mvcgen [Read.flowEntries, node, nodeBefore, flowValue, flowEntries]

@[spec] theorem keeps_node (n : Nat) (place : Place) : Keeps E (node n place) :=
  (keepsNodes n).node place

@[spec] theorem keeps_directives (n : Nat) (versioned : Bool) :
    Keeps E (directives n versioned) := by
  induction n generalizing versioned with
  | zero => mvcgen [directives]
  | succ n ih => mvcgen [directives, ih]

@[spec] theorem keeps_documentEnds (n : Nat) : Keeps E (documentEnds n) := by
  induction n with
  | zero => mvcgen [documentEnds]
  | succ n ih => mvcgen [documentEnds, ih]

@[spec] theorem keeps_document (n : Nat) : Keeps E (document n) := by
  mvcgen [document]

end Read

/-- A text without a document is malformed, or it cannot be scanned. -/
theorem unscannable_of_ofText {text : List Char} {fault : Fault}
    (failed : Document.ofText text = .error fault) (other : fault ≠ .malformed) :
    Unscannable text fault := by
  unfold Document.ofText at failed
  split at failed
  · cases failed
    exact absurd rfl other
  · rename_i stream scanned
    dsimp only at failed
    split at failed
    · rename_i cause stopped
      cases failed
      have foreseen : Read.Foresees (fun cause => cause ≠ .malformed → Unscannable text cause)
          stream.fault :=
        ⟨fun other => absurd rfl other, fun _ faulty _ => unscannable_of_ofText? scanned faulty⟩
      exact error_of_triple (Read.keeps_document _) foreseen stopped other
    · cases failed

/-! ### Data from documents -/

namespace Document

def IsMapping (d : Document) (index : Nat) : Prop :=
  ∃ entries, (nodeOf d.nodes index).content = .mapping entries

/-- Why a document stands for no data. -/
inductive Misread (d : Document) : Fault → Prop where
  /-- The text of a node is not what the tag of the node asks for. A mapping has the text of its
  default value. -/
  | scalar (index place : Nat) (text : List Char) {fault : Fault}
      (kind : (nodeOf d.nodes index).tag.isScalar = true)
      (written : (nodeOf d.nodes place).content = .scalar text)
      (own : place = index ∨ d.IsMapping index)
      (unread : (nodeOf d.nodes index).tag.read text = .error fault) : Misread d fault
  /-- A mapping stands where a timestamp is due. -/
  | timestamp (index : Nat) (kind : (nodeOf d.nodes index).tag = .timestamp)
      (mapping : d.IsMapping index) : Misread d .timestampMapping
  /-- A mapping stands where a scalar is due, and its default values lead to no text. -/
  | endless (index : Nat) (kind : (nodeOf d.nodes index).tag.isScalar = true ∨
      (nodeOf d.nodes index).tag = .value) (mapping : d.IsMapping index) : Misread d .endless

/-- A document can be malformed for any reason. -/
def Justifies (d : Document) : Fault → Prop
  | .malformed => True
  | fault => d.Misread fault

private theorem Misread.justifies {d : Document} {fault : Fault} (misread : d.Misread fault) :
    d.Justifies fault := by
  cases fault with
  | malformed => exact trivial
  | _ => exact misread

end Document

namespace Load

/-- What loading may change about a node: the key of a default value is made a string, and a mapping
gets other entries. -/
structure Alters (before after : Node) : Prop where
  tag : after.tag = before.tag ∨ before.tag = .value ∧ after.tag = .string
  scalar : ∀ text, after.content = .scalar text → before.content = .scalar text
  mapping : ∀ entries, after.content = .mapping entries → ∃ others, before.content = .mapping others

/-- The nodes are those of the document, altered. -/
structure Stems (d : Document) (nodes : Array Node) : Prop where
  alters : ∀ index, Alters (nodeOf d.nodes index) (nodeOf nodes index)

private theorem stems_self (d : Document) : Stems d d.nodes :=
  ⟨fun _ => ⟨.inl rfl, fun _ same => same, fun entries same => ⟨entries, same⟩⟩⟩

variable {d : Document}

private theorem stems_modify {nodes : Array Node} {index : Nat} {f : Node → Node}
    (stems : Stems d nodes) (altered : ∀ node, Alters (nodeOf d.nodes index) node →
      Alters (nodeOf d.nodes index) (f node)) : Stems d (nodes.modify index f) := by
  refine ⟨fun place => ?_⟩
  have before := stems.alters place
  by_cases here : index = place
  · subst here
    unfold nodeOf at before ⊢
    rw [Array.getElem?_modify, if_pos rfl]
    cases found : nodes[index]? with
    | none =>
      rw [found] at before
      exact before
    | some node =>
      rw [found] at before
      exact altered node before
  · have same : nodeOf (nodes.modify index f) place = nodeOf nodes place := by
      rw [nodeOf, Array.getElem?_modify, if_neg here, nodeOf]
    rw [same]
    exact before

private theorem isMapping_of_content {nodes : Array Node} {index : Nat} {entries : List (Nat × Nat)}
    (stems : Stems d nodes) (found : (nodeOf nodes index).content = .mapping entries) :
    d.IsMapping index :=
  (stems.alters index).mapping entries found

/-- A computation keeps the nodes those of the document, and fails for a reason in it. -/
abbrev Keeps (d : Document) {α : Type} (m : LoadM α) : Prop :=
  ⦃fun s => ⌜Stems d s.nodes⌝⦄ m
  ⦃post⟨fun _ s => ⌜Stems d s.nodes⌝, fun fault => ⌜d.Justifies fault⌝⟩⦄

@[spec] theorem fail_spec {α : Type} {Q : PostCond α (.arg Loader (.except Fault .pure))} :
    ⦃fun _ => Q.2.1 .malformed⦄ (fail : LoadM α) ⦃Q⦄ :=
  throw_spec Fault.malformed

attribute [spec] nodeAt setCell addCell entriesOf itemsOf mergeFuel

@[spec] theorem setEntries_spec (index : Nat) (entries : List (Nat × Nat)) :
    ⦃fun s => ⌜Stems d s.nodes ∧ d.IsMapping index⌝⦄ setEntries index entries
    ⦃post⟨fun _ s => ⌜Stems d s.nodes⌝, fun fault => ⌜d.Justifies fault⌝⟩⦄ := by
  mvcgen [setEntries]
  case vc1 s start _ =>
    obtain ⟨stems, mapping⟩ := start
    exact stems_modify (f := fun node => { node with content := .mapping entries }) stems
      fun _ altered => ⟨altered.tag, nofun, fun _ _ => mapping⟩

@[spec] theorem textOf_spec (n index : Nat) : ⦃fun s => ⌜Stems d s.nodes⌝⦄ textOf n index
    ⦃post⟨fun text s => ⌜Stems d s.nodes ∧ ∃ place, (nodeOf d.nodes place).content = .scalar text ∧
      (place = index ∨ d.IsMapping index)⌝,
      fun fault => ⌜fault = .malformed ∨ fault = .endless ∧ (n = 0 ∨ d.IsMapping index)⌝⟩⦄ := by
  induction n generalizing index with
  | zero =>
    mvcgen [textOf, throw_spec, -Spec.throw_MonadExcept]
    exact .inr ⟨trivial, .inl trivial⟩
  | succ n ih =>
    mvcgen [textOf, ih]
    case vc1 s stems text found =>
      exact ⟨stems, index, (stems.alters index).scalar text found, .inl rfl⟩
    case vc2 | vc6 => exact .inl trivial
    case vc4 s stems entries found _ _ value _ text t =>
      rintro after ⟨place, written, -⟩
      exact ⟨after, place, written, .inr (isMapping_of_content stems found)⟩
    case vc5 s stems entries found _ _ value _ fault =>
      rintro (rfl | ⟨rfl, -⟩)
      · exact .inl rfl
      · exact .inr ⟨rfl, .inr (isMapping_of_content stems found)⟩

@[spec] theorem scalar_spec (index : Nat) (tag : Tag) :
    ⦃fun s => ⌜Stems d s.nodes ∧ tag.isScalar = true ∧
      (tag = (nodeOf d.nodes index).tag ∨ (nodeOf d.nodes index).tag = .value ∧ tag = .string)⌝⦄
    scalar index tag
    ⦃post⟨fun _ s => ⌜Stems d s.nodes⌝, fun fault => ⌜d.Justifies fault⌝⟩⦄ := by
  mvcgen [scalar, throw_spec, -Spec.throw_MonadExcept]
  case vc2 s start => exact start.1
  case vc3 s start _ t read entries found timestamp =>
    obtain ⟨-, -, same | ⟨-, string⟩⟩ := start
    · exact .timestamp index (same.symm.trans timestamp) (isMapping_of_content read.1 found)
    · rw [string] at timestamp
      cases timestamp
  case vc4 s _ _ t read _ _ _ _ _ _ _ => exact read.1
  case vc5 s start text t read _ _ _ _ same fault unread =>
    subst same
    obtain ⟨-, kind, rfl | ⟨-, string⟩⟩ := start
    · obtain ⟨-, place, written, own⟩ := read
      exact (Document.Misread.scalar index place text kind written own unread).justifies
    · rw [string] at unread
      cases unread
  case vc6 s start fault =>
    rintro (rfl | ⟨rfl, none | mapping⟩)
    · exact trivial
    · cases none
    · obtain ⟨-, kind, rfl | ⟨key, -⟩⟩ := start
      · exact .endless index (.inl kind) mapping
      · exact .endless index (.inr key) mapping

@[spec] theorem keeps_value (index : Nat) : Keeps d (value index) := by
  mvcgen [value]
  case vc2 s stems _ _ _ kind => exact ⟨stems, kind, (stems.alters index).tag⟩

@[spec] theorem keeps_key (index : Nat) : Keeps d (key index) := by
  mvcgen [key]

structure KeepsMerging (d : Document) (n : Nat) : Prop where
  flatten : ∀ index, Keeps d (flatten n index)
  mergedFrom : ∀ index place merged, Keeps d (mergedFrom n index place merged)
  mergedEntries : ∀ index, Keeps d (mergedEntries n index)
  mergedItems : ∀ items, Keeps d (mergedItems n items)

private theorem keepsMerging (n : Nat) : KeepsMerging d n := by
  induction n with
  | zero => constructor <;> intros <;> exact fun _ _ => trivial
  | succ n ih =>
    obtain ⟨flatten, mergedFrom, mergedEntries, mergedItems⟩ := ih
    constructor
    case flatten =>
      intro index
      mvcgen [Load.flatten, mergedFrom]
      case vc2 stems _ found => exact ⟨stems, isMapping_of_content stems found⟩
    case mergedFrom =>
      intro index place merged
      mvcgen [Load.mergedFrom, mergedFrom, mergedEntries]
      case vc2 stems _ found _ _ _ _ => exact ⟨stems, isMapping_of_content stems found⟩
      case vc5 stems _ _ keyIndex _ _ default _ =>
        have key : (nodeOf d.nodes keyIndex).tag = .value := by
          rcases (stems.alters keyIndex).tag with same | ⟨value, -⟩
          · exact same.symm.trans default
          · exact value
        exact stems_modify (f := fun node => { node with tag := .string }) stems
          fun _ altered => ⟨.inr ⟨key, rfl⟩, altered.scalar, altered.mapping⟩
    case mergedEntries =>
      intro index
      mvcgen [Load.mergedEntries, flatten, mergedItems]
    case mergedItems =>
      intro items
      cases items with
      | nil => mvcgen [Load.mergedItems]
      | cons index items => mvcgen [Load.mergedItems, flatten, mergedItems]

@[spec] theorem keeps_flatten (n index : Nat) : Keeps d (flatten n index) :=
  (keepsMerging n).flatten index

private theorem keeps_mapM {α β : Type} {f : α → LoadM β} (each : ∀ item, Keeps d (f item))
    (items : List α) : Keeps d (items.mapM f) := by
  induction items with
  | nil => mvcgen [List.mapM_nil]
  | cons item items ih => mvcgen [List.mapM_cons, each, ih]

private theorem keeps_forM {α : Type} {f : α → LoadM Unit} (each : ∀ item, Keeps d (f item))
    (items : List α) : Keeps d (items.forM f) := by
  induction items with
  | nil => mvcgen [List.forM]
  | cons item items ih => mvcgen [List.forM, each, ih]

@[spec] theorem keeps_mapping (index : Nat) : Keeps d (mapping index) := by
  mvcgen [mapping, keeps_mapM]

@[spec] theorem keeps_pair (index : Nat) : Keeps d (pair index) := by
  mvcgen [pair]

@[spec] theorem keeps_complete (index : Nat) : Keeps d (complete index) := by
  mvcgen [complete, keeps_mapM, keeps_forM]

@[spec] theorem keeps_completeAll (n : Nat) : Keeps d (completeAll n) := by
  induction n with
  | zero => mvcgen [completeAll]
  | succ n ih => mvcgen [completeAll, keeps_forM, ih]

end Load

private theorem Document.justifies_of_toData {d : Document} {fault : Fault}
    (failed : d.toData = .error fault) : d.Justifies fault := by
  have keeps : Load.Keeps d (do
      Load.value d.root
      Load.completeAll (d.nodes.size + 1)) := by
    mvcgen
  unfold toData at failed
  dsimp only at failed
  split at failed
  · rename_i stopped
    cases failed
    exact error_of_triple keeps (Load.stems_self d) stopped
  · cases failed

/-- Why a text that is in order as such stands for no data. -/
inductive Unloadable (text : List Char) : Fault → Prop where
  | scan {fault : Fault} (unscannable : Unscannable text fault) : Unloadable text fault
  | document {document : Document} (read : Document.ofText text = .ok (some document))
      {fault : Fault} (misread : document.Misread fault) : Unloadable text fault

theorem unloadable_of_load {text : List Char} {fault : Fault} (failed : load text = .error fault)
    (other : fault ≠ .malformed) : Unloadable text fault := by
  unfold load at failed
  split at failed
  · rename_i cause unread
    cases failed
    exact .scan (unscannable_of_ofText unread other)
  · cases failed
  · rename_i document read
    refine .document read ?_
    have justified := Document.justifies_of_toData failed
    cases fault with
    | malformed => exact absurd rfl other
    | _ => exact justified

end IdlLint.Yaml

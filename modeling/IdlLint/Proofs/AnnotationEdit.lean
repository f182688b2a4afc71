import IdlLint.Proofs.BareDocument
import IdlLint.Proofs.NodeAddress

/-! Changing the annotations of one node, given by its address. Nothing but that node's annotations
changes: the document without annotations stays what it is, and so does every other subtree. -/
namespace IdlLint.Schema

/-- Changes item number `i` of some items that are counted from `start`. -/
def editNth {α : Type} (f : α → α) (i start : Nat) (items : List α) : List α :=
  (items.zipIdx start).map fun item => if i = item.2 then f item.1 else item.1

section EditNth

variable {α β : Type} {f : α → α} (i start : Nat)

private theorem editNth_cons (item : α) (rest : List α) :
    editNth f i start (item :: rest) =
      (if i = start then f item else item) :: editNth f i (start + 1) rest := rfl

private theorem editNth_append (a b : List α) :
    editNth f i start (a ++ b) = editNth f i start a ++ editNth f i (start + a.length) b := by
  rw [editNth, List.zipIdx_append, List.map_append]
  rfl

private theorem editNth_of_fixed {items : List α} (fixed : ∀ item ∈ items, f item = item) :
    editNth f i start items = items := by
  induction items generalizing start with
  | nil => rfl
  | cons item rest ih =>
    rw [editNth_cons, fixed item (List.mem_cons_self ..), ite_self,
      ih _ fun other member => fixed other (List.mem_cons_of_mem _ member)]

private theorem editNth_map {g : β → α} {h : β → β} (commutes : ∀ item, f (g item) = g (h item))
    (items : List β) : editNth f i start (items.map g) = (editNth h i start items).map g := by
  induction items generalizing start with
  | nil => rfl
  | cons item rest ih =>
    rw [List.map_cons, editNth_cons, ih, editNth_cons, List.map_cons, commutes, apply_ite g]

private theorem map_editNth {g : α → β} (keeps : ∀ item, g (f item) = g item) (items : List α) :
    (editNth f i start items).map g = items.map g := by
  induction items generalizing start with
  | nil => rfl
  | cons item rest ih =>
    rw [editNth_cons, List.map_cons, ih, apply_ite g, keeps, ite_self, List.map_cons]

end EditNth

section Edit

variable (f : List Note → List Note)

def TypeExpr.edit : List Nat → TypeExpr → TypeExpr
  | [], .base type annotations position => .base type (f annotations) position
  | [], .map key value annotations position => .map key value (f annotations) position
  | [], .list value annotations position => .list value (f annotations) position
  | [], .set value annotations position => .set value (f annotations) position
  | i :: rest, .map key value annotations position => .map
      (if i = 0 then key.edit rest else key) (if i = 1 then value.edit rest else value)
      annotations position
  | i :: rest, .list value annotations position =>
    .list (if i = 0 then value.edit rest else value) annotations position
  | i :: rest, .set value annotations position =>
    .set (if i = 0 then value.edit rest else value) annotations position
  | _, t => t

def EnumItem.edit : List Nat → EnumItem → EnumItem
  | [], item => { item with annotations := f item.annotations }
  | _ :: _, item => item

def Field.edit : List Nat → Field → Field
  | [], field => { field with annotations := f field.annotations }
  | i :: rest, field =>
    { field with type := if i = 0 then field.type.edit f rest else field.type }

def Function.edit : List Nat → Function → Function
  | [], function => { function with annotations := f function.annotations }
  | i :: rest, function =>
    let first := function.result.toList.length
    { function with
      result := if i = 0 then function.result.map (TypeExpr.edit f rest) else function.result
      parameters := editNth (Field.edit f rest) i first function.parameters
      exceptions :=
        editNth (Field.edit f rest) i (first + function.parameters.length) function.exceptions }

def Definition.edit : List Nat → Definition → Definition
  | [], .constant d => .constant { d with annotations := f d.annotations }
  | [], .typedef d => .typedef { d with annotations := f d.annotations }
  | [], .enum d => .enum { d with annotations := f d.annotations }
  | [], .struct d => .struct { d with annotations := f d.annotations }
  | [], .service d => .service { d with annotations := f d.annotations }
  | i :: rest, .constant d =>
    .constant { d with type := if i = 0 then d.type.edit f rest else d.type }
  | i :: rest, .typedef d =>
    .typedef { d with type := if i = 0 then d.type.edit f rest else d.type }
  | i :: rest, .enum d => .enum { d with items := editNth (EnumItem.edit f rest) i 0 d.items }
  | i :: rest, .struct d => .struct { d with fields := editNth (Field.edit f rest) i 0 d.fields }
  | i :: rest, .service d =>
    .service { d with functions := editNth (Function.edit f rest) i 0 d.functions }

/-- Changes the annotations of the node at an address below the document. -/
def Document.edit : List Nat → Document → Document
  | [], d => d
  | i :: rest, d =>
    { d with definitions := editNth (Definition.edit f rest) i d.headers.length d.definitions }

/-- Changes the annotations of the node at an address. -/
def Node.edit (address : List Nat) : Node → Node
  | .document n => .document (n.edit f address)
  | .constant n => ((Definition.constant n).edit f address).toNode
  | .typedef n => ((Definition.typedef n).edit f address).toNode
  | .enum n => ((Definition.enum n).edit f address).toNode
  | .enumItem n => .enumItem (n.edit f address)
  | .struct n => ((Definition.struct n).edit f address).toNode
  | .field n => .field (n.edit f address)
  | .service n => ((Definition.service n).edit f address).toNode
  | .function n => .function (n.edit f address)
  | .type t => .type (t.edit f address)
  | node => node

/-! ### The document without annotations stays -/

private theorem TypeExpr.bare_edit (address : List Nat) (t : TypeExpr) :
    (t.edit f address).bare = t.bare := by
  induction address generalizing t with
  | nil => cases t <;> rfl
  | cons i rest ih => cases t <;> simp only [edit, bare, apply_ite bare, ih, ite_self]

private theorem EnumItem.bare_edit (address : List Nat) (item : EnumItem) :
    (item.edit f address).bare = item.bare := by
  cases address <;> rfl

private theorem Field.bare_edit (address : List Nat) (field : Field) :
    (field.edit f address).bare = field.bare := by
  cases address with
  | nil => rfl
  | cons i rest => simp only [edit, bare, apply_ite TypeExpr.bare, TypeExpr.bare_edit, ite_self]

private theorem Function.bare_edit (address : List Nat) (function : Function) :
    (function.edit f address).bare = function.bare := by
  cases address with
  | nil => rfl
  | cons i rest =>
    have result : (if i = 0 then function.result.map (TypeExpr.edit f rest)
        else function.result).map TypeExpr.bare = function.result.map TypeExpr.bare := by
      split
      · rw [Option.map_map]
        exact congrArg (Option.map · _) (funext (TypeExpr.bare_edit f rest))
      · rfl
    simp only [edit, bare, result, map_editNth _ _ (Field.bare_edit f rest)]

private theorem Definition.bare_edit (address : List Nat) (d : Definition) :
    (d.edit f address).bare = d.bare := by
  cases address with
  | nil => cases d <;> rfl
  | cons i rest =>
    cases d <;>
      simp only [edit, bare, Constant.bare, Typedef.bare, Enum.bare, Struct.bare, Service.bare,
        apply_ite TypeExpr.bare, TypeExpr.bare_edit, ite_self,
        map_editNth _ _ (EnumItem.bare_edit f rest), map_editNth _ _ (Field.bare_edit f rest),
        map_editNth _ _ (Function.bare_edit f rest)]

theorem Document.bare_edit (address : List Nat) (d : Document) :
    (d.edit f address).bare = d.bare := by
  cases address with
  | nil => rfl
  | cons i rest => simp only [edit, bare, map_editNth _ _ (Definition.bare_edit f rest)]

private theorem Definition.edit_toNode (address : List Nat) (d : Definition) :
    d.toNode.edit f address = (d.edit f address).toNode := by
  cases d <;> rfl

private theorem Definition.bare_toNode (d : Definition) : d.toNode.bare = d.bare.toNode := by
  cases d <;> rfl

namespace Node

theorem bare_edit (address : List Nat) (node : Node) : (node.edit f address).bare = node.bare := by
  have definition (d : Definition) : (d.edit f address).toNode.bare = d.toNode.bare := by
    rw [Definition.bare_toNode, Definition.bare_edit, Definition.bare_toNode]
  cases node with
  | document n => exact congrArg document (Document.bare_edit f address n)
  | constant n => exact definition (.constant n)
  | typedef n => exact definition (.typedef n)
  | enum n => exact definition (.enum n)
  | enumItem n => exact congrArg enumItem (EnumItem.bare_edit f address n)
  | struct n => exact definition (.struct n)
  | field n => exact congrArg field (Field.bare_edit f address n)
  | service n => exact definition (.service n)
  | function n => exact congrArg function (Function.bare_edit f address n)
  | type t => exact congrArg type (TypeExpr.bare_edit f address t)
  | _ => rfl

/-! ### The subtrees elsewhere stay -/

theorem annotations_edit (i : Nat) (rest : List Nat) (node : Node) :
    (node.edit f (i :: rest)).annotations = node.annotations := by
  cases node with
  | type t => cases t <;> rfl
  | _ => rfl

/-- Whether there can be no annotations at or below a node. -/
def isPlain : Node → Bool
  | .value _ | .entry _ | .note _ | .include _ | .cppInclude _ | .scope _ => true
  | _ => false

private theorem edit_of_isPlain (address : List Nat) {node : Node} (plain : node.isPlain = true) :
    node.edit f address = node := by
  cases node <;> simp_all [isPlain, edit]

private theorem edit_enumItem (address : List Nat) (item : EnumItem) :
    edit f address (.enumItem item) = .enumItem (item.edit f address) := rfl

private theorem edit_field (address : List Nat) (n : Field) :
    edit f address (.field n) = .field (n.edit f address) := rfl

private theorem edit_function (address : List Nat) (n : Function) :
    edit f address (.function n) = .function (n.edit f address) := rfl

section Child

variable (address : List Nat) (i start : Nat)

private theorem editNth_plain {α : Type} {g : α → Node} (plain : ∀ item, (g item).isPlain = true)
    (items : List α) : editNth (edit f address) i start (items.map g) = items.map g := by
  apply editNth_of_fixed
  intro node member
  obtain ⟨item, _, rfl⟩ := List.mem_map.mp member
  exact edit_of_isPlain f address (plain item)

private theorem editNth_type (t : TypeExpr) (more : List Node) :
    editNth (edit f address) i start (.type t :: more) =
      .type (if i = start then t.edit f address else t) ::
        editNth (edit f address) i (start + 1) more := by
  rw [editNth_cons, apply_ite type]
  rfl

end Child

/-- Below a node the change is made in one child. -/
theorem children_edit (i : Nat) (rest : List Nat) (node : Node) :
    (node.edit f (i :: rest)).children = editNth (edit f rest) i 0 node.children := by
  have notes start := @editNth_plain f rest i start _ .note fun _ => rfl
  have values start := @editNth_plain f rest i start _ .value fun _ => rfl
  have fields start := editNth_map i start (edit_field f rest)
  cases node with
  | document n =>
    have headers := @editNth_plain f rest i 0 _ Header.toNode (by rintro ⟨⟩ <;> rfl) n.headers
    rw [children, editNth_append, headers, editNth_map _ _ (Definition.edit_toNode f rest),
      List.length_map, Nat.zero_add]
    rfl
  | constant n =>
    rw [children, editNth_type, editNth_cons, edit_of_isPlain f rest rfl, ite_self, notes]
    rfl
  | typedef n =>
    rw [children, editNth_type, notes]
    rfl
  | enum n =>
    rw [children, editNth_append, notes, editNth_map _ _ (edit_enumItem f rest)]
    rfl
  | enumItem n => exact (notes 0 n.annotations).symm
  | struct n =>
    rw [children, editNth_append, fields, notes]
    rfl
  | field n =>
    rw [children, editNth_type, editNth_append, values, notes]
    rfl
  | service n =>
    rw [children, editNth_append, notes, editNth_map _ _ (edit_function f rest)]
    rfl
  | function n =>
    have result : editNth (edit f rest) i 0 (n.result.toList.map .type) =
        (if i = 0 then n.result.map (TypeExpr.edit f rest) else n.result).toList.map .type := by
      cases n.result with
      | none => simp [editNth]
      | some t => rw [Option.toList_some, List.map_singleton, editNth_type]; split <;> rfl
    simp only [children, editNth_append, fields, notes, result, List.length_append, List.length_map,
      Nat.zero_add]
    rfl
  | type t =>
    cases t with
    | base type annotations position => exact (notes 0 annotations).symm
    | map key value annotations position =>
      rw [children, typeChildren, editNth_type, editNth_type, notes]
      rfl
    | list value annotations position =>
      rw [children, typeChildren, editNth_type, notes]
      rfl
    | set value annotations position =>
      rw [children, typeChildren, editNth_type, notes]
      rfl
    | reference name position => rfl
  | value v =>
    cases v with
    | list items position => exact (values 0 items).symm
    | map entries position => exact (editNth_plain f rest i 0 (fun _ => rfl) entries).symm
    | _ => rfl
  | entry e =>
    obtain ⟨key, value, position⟩ := e
    exact (values 0 [key, value]).symm
  | _ => rfl

/-- Whether a node can carry annotations. -/
def isCarrier : Node → Bool
  | .constant _ | .typedef _ | .enum _ | .enumItem _ | .struct _ | .field _ | .service _
  | .function _ => true
  | .type (.reference ..) => false
  | .type _ => true
  | _ => false

theorem isInner_of_isCarrier {node : Node} (carrier : node.isCarrier = true) :
    node.isInner = true := by
  cases node <;> simp_all [isCarrier, isInner]

/-- At a node that can carry annotations just these are changed. They are its last children. -/
theorem edit_nil {node : Node} (carrier : node.isCarrier = true) : ∃ parts,
    node.children = parts ++ node.annotations.map .note ∧
      (node.edit f []).children = parts ++ (f node.annotations).map .note ∧
      (node.edit f []).annotations = f node.annotations := by
  cases node with
  | constant n => exact ⟨[.type n.type, .value n.value], rfl, rfl, rfl⟩
  | typedef n => exact ⟨[.type n.type], rfl, rfl, rfl⟩
  | enum n => exact ⟨n.items.map .enumItem, rfl, rfl, rfl⟩
  | enumItem n => exact ⟨[], rfl, rfl, rfl⟩
  | struct n => exact ⟨n.fields.map .field, rfl, rfl, rfl⟩
  | field n => exact ⟨.type n.type :: n.default.toList.map .value, rfl, rfl, rfl⟩
  | service n => exact ⟨n.functions.map .function, rfl, rfl, rfl⟩
  | function n => exact ⟨_, rfl, rfl, rfl⟩
  | type t =>
    cases t with
    | base => exact ⟨[], rfl, rfl, rfl⟩
    | map key value => exact ⟨[.type key, .type value], rfl, rfl, rfl⟩
    | list value => exact ⟨[.type value], rfl, rfl, rfl⟩
    | set value => exact ⟨[.type value], rfl, rfl, rfl⟩
    | reference => cases carrier
  | _ => cases carrier

end Node

end Edit

end IdlLint.Schema

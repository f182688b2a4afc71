import IdlLint.Proofs.NodeAddress
import Mathlib.Data.List.Basic
import Mathlib.Data.List.Infix

/-! The walk as a recursion over the nodes, kind by kind: a node, and then what is below each of its
children, from left to right. Every address has its place in the walk, in the order of the addresses. -/
namespace IdlLint.Schema

/-! ### The recursion -/

/-- The visit with one more ancestor, outside of all others. -/
def Visit.under (root : Node) (visit : Visit) : Visit :=
  ⟨visit.node, root :: visit.parents⟩

/-- A node without ancestors, and then what is visited below it. -/
def Node.above (root : Node) (below : List Visit) : List Visit :=
  ⟨root, []⟩ :: below.map (Visit.under root)

def Note.preorder (note : Note) : List Visit :=
  (Node.note note).above []

def TypeExpr.preorder : TypeExpr → List Visit
  | .base type annotations position =>
    (Node.type (.base type annotations position)).above (annotations.flatMap Note.preorder)
  | .map key value annotations position =>
    (Node.type (.map key value annotations position)).above
      (key.preorder ++ (value.preorder ++ annotations.flatMap Note.preorder))
  | .list value annotations position =>
    (Node.type (.list value annotations position)).above
      (value.preorder ++ annotations.flatMap Note.preorder)
  | .set value annotations position =>
    (Node.type (.set value annotations position)).above
      (value.preorder ++ annotations.flatMap Note.preorder)
  | .reference name position => (Node.type (.reference name position)).above []

mutual

def Value.preorder : Value → List Visit
  | .integer value position => (Node.value (.integer value position)).above []
  | .double value position => (Node.value (.double value position)).above []
  | .string value position => (Node.value (.string value position)).above []
  | .boolean value position => (Node.value (.boolean value position)).above []
  | .reference name position => (Node.value (.reference name position)).above []
  | .list items position => (Node.value (.list items position)).above (Value.preorders items)
  | .map entries position => (Node.value (.map entries position)).above (Entry.preorders entries)

def Value.preorders : List Value → List Visit
  | [] => []
  | value :: rest => value.preorder ++ Value.preorders rest

def Entry.preorder : Entry → List Visit
  | .mk key value position =>
    (Node.entry (.mk key value position)).above (key.preorder ++ value.preorder)

def Entry.preorders : List Entry → List Visit
  | [] => []
  | entry :: rest => entry.preorder ++ Entry.preorders rest

end

def EnumItem.preorder (item : EnumItem) : List Visit :=
  (Node.enumItem item).above (item.annotations.flatMap Note.preorder)

def Field.preorder (field : Field) : List Visit :=
  (Node.field field).above (field.type.preorder ++
    (field.default.toList.flatMap Value.preorder ++ field.annotations.flatMap Note.preorder))

def Function.preorder (function : Function) : List Visit :=
  (Node.function function).above (function.result.toList.flatMap TypeExpr.preorder ++
    (function.parameters.flatMap Field.preorder ++ (function.exceptions.flatMap Field.preorder ++
      function.annotations.flatMap Note.preorder)))

def Header.preorder (header : Header) : List Visit :=
  header.toNode.above []

def Definition.preorder : Definition → List Visit
  | .constant d => (Node.constant d).above
      (d.type.preorder ++ (d.value.preorder ++ d.annotations.flatMap Note.preorder))
  | .typedef d => (Node.typedef d).above (d.type.preorder ++ d.annotations.flatMap Note.preorder)
  | .enum d => (Node.enum d).above
      (d.items.flatMap EnumItem.preorder ++ d.annotations.flatMap Note.preorder)
  | .struct d => (Node.struct d).above
      (d.fields.flatMap Field.preorder ++ d.annotations.flatMap Note.preorder)
  | .service d => (Node.service d).above
      (d.functions.flatMap Function.preorder ++ d.annotations.flatMap Note.preorder)

/-- A node and all that is below it, each with its ancestors. -/
def Node.preorder : Node → List Visit
  | .document d => (Node.document d).above
      (d.headers.flatMap Header.preorder ++ d.definitions.flatMap Definition.preorder)
  | .include h => Header.preorder (.include h)
  | .cppInclude h => Header.preorder (.cppInclude h)
  | .scope h => Header.preorder (.scope h)
  | .constant d => Definition.preorder (.constant d)
  | .typedef d => Definition.preorder (.typedef d)
  | .enum d => Definition.preorder (.enum d)
  | .enumItem i => i.preorder
  | .struct d => Definition.preorder (.struct d)
  | .field f => f.preorder
  | .service d => Definition.preorder (.service d)
  | .function f => f.preorder
  | .type t => t.preorder
  | .value v => v.preorder
  | .entry e => e.preorder
  | .note n => n.preorder

private theorem preorders_values (values : List Value) :
    Value.preorders values = values.flatMap Value.preorder := by
  induction values with
  | nil => rfl
  | cons value rest ih => rw [Value.preorders, ih, List.flatMap_cons]

private theorem preorders_entries (entries : List Entry) :
    Entry.preorders entries = entries.flatMap Entry.preorder := by
  induction entries with
  | nil => rfl
  | cons entry rest ih => rw [Entry.preorders, ih, List.flatMap_cons]

namespace Node

private theorem preorder_header (header : Header) : header.toNode.preorder = header.preorder := by
  cases header <;> rfl

private theorem preorder_definition (definition : Definition) :
    definition.toNode.preorder = definition.preorder := by
  cases definition <;> rfl

/-- The recursion goes through the children, whatever the kind of the node. -/
theorem preorder_eq (node : Node) :
    node.preorder = node.above (node.children.flatMap preorder) := by
  cases node with
  | document d =>
    simp only [children, List.flatMap_append, List.flatMap_map, preorder_header,
      preorder_definition]
    rfl
  | type t =>
    cases t <;> simp only [children, typeChildren, List.flatMap_cons, List.flatMap_map] <;> rfl
  | value v =>
    cases v with
    | list items position =>
      simp only [children, valueChildren, List.flatMap_map, preorder, Value.preorder,
        preorders_values]
    | map entries position =>
      simp only [children, valueChildren, List.flatMap_map, preorder, Value.preorder,
        preorders_entries]
    | _ => rfl
  | entry e =>
    obtain ⟨key, value, position⟩ := e
    simp only [children, List.flatMap_cons, List.flatMap_nil, List.append_nil, preorder,
      Entry.preorder]
  | function f =>
    simp only [children, List.flatMap_append, List.flatMap_map, List.append_assoc]
    rfl
  | _ =>
    simp only [children, List.flatMap_cons, List.flatMap_append, List.flatMap_map]
    rfl

end Node

/-! ### Places -/

namespace Place

/-- A place below `outer`, which is given by its address from there. -/
def beneath (outer inner : Place) : Place :=
  ⟨outer.address ++ inner.address, inner.visit.node, outer.visit.parents ++ inner.visit.parents⟩

private theorem beneath_beneath (outer middle inner : Place) :
    outer.beneath (middle.beneath inner) = (outer.beneath middle).beneath inner := by
  simp [beneath, List.append_assoc]

private theorem beneath_top (place : Place) : place.beneath ⟨[], place.node, []⟩ = place := by
  simp only [beneath, List.append_nil]
  rfl

/-- The place of a child right below its parent. -/
def child (root : Node) (node : Node) (i : Nat) : Place :=
  ⟨[i], node, [root]⟩

private theorem descend_eq_beneath (place : Place) : place.descend =
    place.node.children.zipIdx.map fun next => place.beneath (child place.node next.1 next.2) := by
  obtain ⟨address, node, parents⟩ := place
  exact descend_eq address node parents

/-- All that is below a place lies below it as it lies below the node alone. -/
theorem below_eq_map (place : Place) :
    place.below = (places place.node).map place.beneath := by
  induction size : place.node.size using Nat.strong_induction_on generalizing place with
  | _ size ih =>
    subst size
    let root : Place := ⟨[], place.node, []⟩
    have inner (other : Place) (same : other.node = place.node) :
        other.descend.flatMap below = place.node.children.zipIdx.flatMap fun next =>
          (places next.1).map fun inner =>
            other.beneath ((child place.node next.1 next.2).beneath inner) := by
      rw [descend_eq_beneath, same, List.flatMap_map]
      refine List.flatMap_congr fun next member => ?_
      have smaller := Node.size_lt_of_mem (List.fst_mem_of_mem_zipIdx member)
      rw [ih _ smaller _ rfl]
      refine List.map_congr_left fun inner _ => ?_
      exact (beneath_beneath other _ inner).symm
    have whole : places place.node = root.below := rfl
    rw [below_eq, whole, below_eq root, inner place rfl, inner root rfl, List.map_cons,
      List.map_flatMap, beneath_top]
    simp only [List.map_map]
    rfl

end Place

/-- A node is at the first place, and the others are below its children. -/
theorem places_eq (root : Node) :
    places root = ⟨[], root, []⟩ :: root.children.zipIdx.flatMap fun next =>
      (places next.1).map (Place.child root next.1 next.2).beneath := by
  let top : Place := ⟨[], root, []⟩
  have whole : places root = top.below := rfl
  rw [whole, Place.below_eq, Place.descend_eq_beneath, List.flatMap_map]
  refine congrArg (top :: ·) (List.flatMap_congr fun next _ => ?_)
  exact Place.below_eq_map _

private theorem visits_eq_preorder (root : Node) : (places root).map Place.visit = root.preorder := by
  induction size : root.size using Nat.strong_induction_on generalizing root with
  | _ size ih =>
    subst size
    have each : ∀ next ∈ root.children.zipIdx,
        ((places next.1).map (Place.child root next.1 next.2).beneath).map Place.visit =
          next.1.preorder.map (Visit.under root) := by
      intro next member
      have smaller := Node.size_lt_of_mem (List.fst_mem_of_mem_zipIdx member)
      rw [← ih _ smaller _ rfl, List.map_map, List.map_map]
      rfl
    have numbered : root.children.flatMap Node.preorder =
        root.children.zipIdx.flatMap fun next => next.1.preorder := by
      rw [← List.flatMap_map Prod.fst, List.zipIdx_map_fst]
    rw [places_eq, Node.preorder_eq, Node.above, List.map_cons, List.map_flatMap,
      List.flatMap_congr each, numbered, List.map_flatMap]

/-- The visits in the order of the walk are those of the recursion. -/
theorem walk_recursive (root : Node) : walk root = root.preorder := by
  rw [← visits_places, visits_eq_preorder]

namespace Node

/-- The nodes that are passed on the way to an address, outermost first. -/
def lineage : List Nat → Node → List Node
  | [], _ => []
  | i :: rest, node => node :: (node.children[i]?.map (lineage rest)).getD []

end Node

private theorem mem_places_cases {root : Node} {place : Place} : place ∈ places root ↔
    place = ⟨[], root, []⟩ ∨ ∃ node i, root.children[i]? = some node ∧
      ∃ inner ∈ places node, (Place.child root node i).beneath inner = place := by
  rw [places_eq, List.mem_cons, List.mem_flatMap]
  simp only [List.mem_map, Prod.exists, List.mk_mem_zipIdx_iff_getElem?]

/-- The places are the addresses of nodes, each with its node and what is passed on the way to it. -/
theorem mem_places_iff {root node : Node} {address : List Nat} {parents : List Node} :
    ⟨address, node, parents⟩ ∈ places root ↔
      root.at? address = some node ∧ parents = root.lineage address := by
  induction address generalizing root parents with
  | nil =>
    rw [mem_places_cases]
    constructor
    · rintro (top | ⟨child, i, _, inner, _, same⟩)
      · cases top
        exact ⟨rfl, rfl⟩
      · cases congrArg Place.address same
    · rintro ⟨found, passed⟩
      cases found
      cases passed
      exact .inl rfl
  | cons i rest ih =>
    rw [mem_places_cases]
    constructor
    · rintro (top | ⟨child, j, found, inner, member, same⟩)
      · cases congrArg Place.address top
      · obtain ⟨innerAddress, innerNode, innerParents⟩ := inner
        obtain ⟨⟨rfl, rfl⟩, rfl, rfl⟩ : (j = i ∧ innerAddress = rest) ∧ innerNode = node ∧
            root :: innerParents = parents := by
          simpa [Place.beneath, Place.child] using same
        obtain ⟨reached, rfl⟩ := ih.mp member
        constructor
        · exact (congrArg (Option.bind · _) found).trans reached
        · rw [Node.lineage, found]
          rfl
    · rintro ⟨reached, passed⟩
      obtain ⟨child, found, reached⟩ := Option.bind_eq_some_iff.mp reached
      have passed : parents = root :: child.lineage rest := by
        simpa [Node.lineage, found] using passed
      have below := ih.mpr ⟨reached, rfl⟩
      refine .inr ⟨child, i, found, ⟨rest, node, child.lineage rest⟩, below, ?_⟩
      rw [passed]
      rfl

private theorem pairwise_zipIdx {α : Type} (items : List α) :
    items.zipIdx.Pairwise fun a b => a.2 < b.2 := by
  apply List.pairwise_map.mp
  rw [List.zipIdx_map_snd]
  exact List.pairwise_lt_range' 1

/-- The walk follows the order of the addresses. -/
theorem pairwise_addresses (root : Node) :
    ((places root).map Place.address).Pairwise (· < ·) := by
  induction size : root.size using Nat.strong_induction_on generalizing root with
  | _ size ih =>
    subst size
    rw [List.pairwise_map, places_eq, List.pairwise_cons, List.pairwise_flatMap]
    refine ⟨?_, ?_, ?_⟩
    · intro place member
      obtain ⟨next, -, below⟩ := List.mem_flatMap.mp member
      obtain ⟨inner, -, rfl⟩ := List.mem_map.mp below
      exact List.nil_lt_cons ..
    · intro next member
      have smaller := Node.size_lt_of_mem (List.fst_mem_of_mem_zipIdx member)
      have sorted := List.pairwise_map.mp (ih _ smaller _ rfl)
      refine List.pairwise_map.mpr (sorted.imp fun less => ?_)
      exact List.cons_lt_cons_iff.mpr (.inr ⟨rfl, less⟩)
    · refine (pairwise_zipIdx root.children).imp fun less => ?_
      intro left leftMember right rightMember
      obtain ⟨inner, -, rfl⟩ := List.mem_map.mp leftMember
      obtain ⟨other, -, rfl⟩ := List.mem_map.mp rightMember
      exact List.cons_lt_cons_iff.mpr (.inl less)

/-- All that is below an address is visited without a break. -/
theorem places_split {root node : Node} {address : List Nat} (found : root.at? address = some node) :
    ∃ before after, places root = before ++
        (places node).map (Place.beneath ⟨address, node, root.lineage address⟩) ++ after ∧
      ∀ other ∈ before ++ after, ¬address <+: other.address := by
  induction address generalizing root with
  | nil =>
    obtain rfl : root = node := Option.some.inj found
    refine ⟨[], [], ?_, fun other member => absurd member List.not_mem_nil⟩
    rw [List.append_nil]
    exact (List.map_id _).symm
  | cons i rest ih =>
    obtain ⟨child, listed, reached⟩ := Option.bind_eq_some_iff.mp found
    obtain ⟨before, after, split, apart⟩ := ih reached
    have members : (child, i) ∈ root.children.zipIdx := List.mk_mem_zipIdx_iff_getElem?.mpr listed
    obtain ⟨left, right, siblings⟩ := List.append_of_mem members
    have passed : root.lineage (i :: rest) = root :: child.lineage rest := by
      rw [Node.lineage, listed]
      rfl
    let inside (next : Node × Nat) : List Place :=
      (places next.1).map (Place.child root next.1 next.2).beneath
    let shift := (Place.child root child i).beneath
    refine ⟨⟨[], root, []⟩ :: (left.flatMap inside ++ before.map shift),
      after.map shift ++ right.flatMap inside, ?_, ?_⟩
    · have middle : ((places node).map (Place.beneath ⟨rest, node, child.lineage rest⟩)).map shift =
          (places node).map (Place.beneath ⟨i :: rest, node, root :: child.lineage rest⟩) := by
        rw [List.map_map]
        exact List.map_congr_left fun inner _ => Place.beneath_beneath ..
      rw [places_eq, siblings, List.flatMap_append, List.flatMap_cons, split, passed, ← middle]
      simp only [List.map_append, List.append_assoc, List.cons_append]
      rfl
    · have order := pairwise_zipIdx root.children
      rw [siblings, List.pairwise_append, List.pairwise_cons] at order
      obtain ⟨-, ⟨later, -⟩, earlier⟩ := order
      have foreign : ∀ next : Node × Nat, i ≠ next.2 → ∀ other ∈ inside next,
          ¬i :: rest <+: other.address := by
        intro next differ other member start
        obtain ⟨inner, -, rfl⟩ := List.mem_map.mp member
        exact differ (List.cons_prefix_cons.mp start).1
      have own : ∀ inner, ¬rest <+: inner.address → ¬i :: rest <+: (shift inner).address :=
        fun inner away start => away (List.cons_prefix_cons.mp start).2
      intro other member
      simp only [List.cons_append, List.mem_cons, List.mem_append, List.mem_flatMap,
        List.mem_map] at member
      rcases member with rfl | ((⟨next, inLeft, below⟩ | ⟨inner, inBefore, rfl⟩) |
        ⟨inner, inAfter, rfl⟩ | ⟨next, inRight, below⟩)
      · simp
      · have less := earlier next inLeft (child, i) (List.mem_cons_self ..)
        exact foreign next (Nat.ne_of_gt less) other below
      · exact own inner (apart inner (List.mem_append_left _ inBefore))
      · exact own inner (apart inner (List.mem_append_right _ inAfter))
      · exact foreign next (Nat.ne_of_lt (later next inRight)) other below

/-- The walk is the recursion over the nodes. Its places follow the order of the addresses, so that none
is met twice. They are the addresses of all nodes, each with what is passed on the way to it, and all that
is at or below an address is met without a break. -/
theorem walk_eq_preorder (root : Node) :
    walk root = root.preorder ∧ walk root = (places root).map Place.visit ∧
      ((places root).map Place.address).Pairwise (· < ·) ∧
      (∀ address node parents, ⟨address, node, parents⟩ ∈ places root ↔
        root.at? address = some node ∧ parents = root.lineage address) ∧
      ∀ place ∈ places root, ∃ before after,
        places root = before ++ (places place.node).map place.beneath ++ after ∧
          ∀ other ∈ before ++ after, ¬place.address <+: other.address := by
  refine ⟨walk_recursive root, (visits_places root).symm, pairwise_addresses root,
    fun address node parents => mem_places_iff, ?_⟩
  rintro ⟨address, node, parents⟩ member
  obtain ⟨found, rfl⟩ := mem_places_iff.mp member
  exact places_split found

end IdlLint.Schema

import IdlLint.Proofs.DocumentWalk

/-! The addresses of nodes: which child to take at each step from the root. The walk meets a node and
then, child by child, all that is below it. -/
namespace IdlLint.Schema

namespace Node

/-- The node at an address. -/
def at? : List Nat → Node → Option Node
  | [], node => some node
  | i :: rest, node => node.children[i]?.bind (at? rest)

private theorem at?_concat (address : List Nat) (i : Nat) (node : Node) :
    node.at? (address ++ [i]) = (node.at? address).bind fun last => last.children[i]? := by
  induction address generalizing node with
  | nil => simp [at?]
  | cons j rest ih =>
    rw [List.cons_append, at?, at?, Option.bind_assoc]
    congr 1
    funext child
    exact ih child

/-- The number of nodes at and below some nodes. -/
def sizes (nodes : List Node) : Nat :=
  nodes.foldr (fun node n => node.size + n) 0

private theorem sizes_cons (node : Node) (rest : List Node) :
    sizes (node :: rest) = node.size + sizes rest := rfl

private theorem sizes_append (a b : List Node) : sizes (a ++ b) = sizes a + sizes b := by
  induction a with
  | nil => simp [sizes]
  | cons node rest ih => rw [List.cons_append, sizes_cons, sizes_cons, ih, Nat.add_assoc]

private theorem sizes_map {α : Type} (f : α → Node) (items : List α) :
    sizes (items.map f) = items.foldr (fun item n => (f item).size + n) 0 :=
  List.foldr_map ..

private theorem sizes_leaves {α : Type} {f : α → Node} (leaf : ∀ item, (f item).size = 1)
    (items : List α) : sizes (items.map f) = items.length := by
  induction items with
  | nil => rfl
  | cons item rest ih =>
    rw [List.map_cons, sizes_cons, ih, leaf, List.length_cons, Nat.add_comm]

private theorem sizes_notes (notes : List Note) : sizes (notes.map .note) = notes.length :=
  sizes_leaves (fun _ => rfl) notes

private theorem sizes_values (values : List Value) :
    sizes (values.map .value) = Value.sizes values := by
  induction values with
  | nil => rfl
  | cons value rest ih => exact congrArg (value.size + ·) ih

private theorem sizes_entries (entries : List Entry) :
    sizes (entries.map .entry) = Entry.sizes entries := by
  induction entries with
  | nil => rfl
  | cons entry rest ih => exact congrArg (entry.size + ·) ih

private theorem sizes_definitions (ds : List Definition) :
    sizes (ds.map Definition.toNode) = ds.foldr (fun d n => definitionSize d + n) 0 := by
  have same : ∀ d : Definition, d.toNode.size = definitionSize d := by
    intro d
    cases d <;> rfl
  simp only [sizes_map, same]

private theorem size_header (h : Header) : h.toNode.size = 1 := by
  cases h <;> rfl

/-- A node counts for one, and its children for what they count themselves. -/
theorem size_eq (node : Node) : node.size = 1 + sizes node.children := by
  cases node with
  | document n =>
    rw [children, sizes_append, sizes_leaves size_header, sizes_definitions, ← Nat.add_assoc]
    rfl
  | constant n =>
    rw [children, sizes_cons, sizes_cons, sizes_notes, ← Nat.add_assoc, ← Nat.add_assoc]
    rfl
  | typedef n => rw [children, sizes_cons, sizes_notes, ← Nat.add_assoc]; rfl
  | enum n => rw [children, sizes_append, sizes_map, sizes_notes, ← Nat.add_assoc]; rfl
  | enumItem n => rw [children, sizes_notes]; rfl
  | struct n => rw [children, sizes_append, sizes_map, sizes_notes, ← Nat.add_assoc]; rfl
  | field n =>
    rw [children, sizes_cons, sizes_append, sizes_map, sizes_notes, ← Nat.add_assoc,
      ← Nat.add_assoc]
    rfl
  | service n => rw [children, sizes_append, sizes_map, sizes_notes, ← Nat.add_assoc]; rfl
  | function n =>
    rw [children, sizes_append, sizes_append, sizes_append, sizes_map, sizes_map, sizes_map,
      sizes_notes, ← Nat.add_assoc, ← Nat.add_assoc, ← Nat.add_assoc]
    rfl
  | type t =>
    cases t with
    | base => rw [children, typeChildren, sizes_notes]; rfl
    | map =>
      rw [children, typeChildren, sizes_cons, sizes_cons, sizes_notes, ← Nat.add_assoc,
        ← Nat.add_assoc]
      rfl
    | list => rw [children, typeChildren, sizes_cons, sizes_notes, ← Nat.add_assoc]; rfl
    | set => rw [children, typeChildren, sizes_cons, sizes_notes, ← Nat.add_assoc]; rfl
    | reference => rfl
  | value v =>
    cases v with
    | list => rw [children, valueChildren, sizes_values]; rfl
    | map => rw [children, valueChildren, sizes_entries]; rfl
    | _ => rfl
  | entry e =>
    obtain ⟨key, value, position⟩ := e
    exact Nat.add_assoc ..
  | _ => rfl

theorem size_lt_of_mem {node child : Node} (member : child ∈ node.children) :
    child.size < node.size := by
  have below : ∀ nodes, child ∈ nodes → child.size ≤ sizes nodes := by
    intro nodes inside
    induction nodes with
    | nil => cases inside
    | cons first rest ih =>
      rw [sizes_cons]
      rcases List.mem_cons.mp inside with rfl | later
      · omega
      · have := ih later
        omega
  have := below node.children member
  rw [size_eq node]
  omega

end Node

/-- A visit with the address of its node. -/
structure Place where
  address : List Nat
  visit : Visit

namespace Place

/-- The places of the children. -/
def descend (place : Place) : List Place :=
  place.visit.descend.zipIdx.map fun child => ⟨place.address ++ [child.2], child.1⟩

/-- Visits what is pending, at most `fuel` nodes. -/
def drain : Nat → List Place → List Place
  | 0, _ => []
  | _, [] => []
  | fuel + 1, place :: pending => place :: drain fuel (place.descend ++ pending)

private theorem visits_descend (place : Place) : place.descend.map visit = place.visit.descend := by
  rw [descend, List.map_map]
  exact List.zipIdx_map_fst 0 place.visit.descend

private theorem visits_drain (fuel : Nat) (pending : List Place) :
    (drain fuel pending).map visit = Visit.drain fuel (pending.map visit) := by
  induction fuel generalizing pending with
  | zero => rfl
  | succ fuel ih =>
    cases pending with
    | nil => rfl
    | cons place rest =>
      rw [drain, List.map_cons, ih, List.map_append, visits_descend]
      rfl

end Place

/-- The places of all nodes at and below `root`, in the order of the walk. -/
def places (root : Node) : List Place :=
  Place.drain root.size [⟨[], root, []⟩]

theorem visits_places (root : Node) : (places root).map Place.visit = walk root :=
  Place.visits_drain root.size _

namespace Place

/-- The node at a place. -/
def node (place : Place) : Node :=
  place.visit.node

private theorem nodes_descend (place : Place) : place.descend.map node = place.node.children := by
  have visits := congrArg (List.map Visit.node) (visits_descend place)
  rw [List.map_map, Visit.descend, List.map_map] at visits
  exact visits.trans (List.map_id _)

/-- The number of nodes at and below some places. -/
def load (pending : List Place) : Nat :=
  Node.sizes (pending.map node)

private theorem load_descend (place : Place) : place.node.size = load place.descend + 1 := by
  rw [load, nodes_descend, Node.size_eq, Nat.add_comm]

private theorem load_append (a b : List Place) : load (a ++ b) = load a + load b := by
  rw [load, List.map_append, Node.sizes_append]
  rfl

/-- A place and the places of all nodes below it, in the order of the walk. -/
def below (place : Place) : List Place :=
  drain place.node.size [place]

/-- With enough fuel the pending places are visited one after the other, each with all below it. -/
theorem drain_eq (fuel : Nat) (pending : List Place) (enough : load pending ≤ fuel) :
    drain fuel pending = pending.flatMap below := by
  induction fuel using Nat.strongRecOn generalizing pending with
  | ind fuel ih =>
    cases pending with
    | nil => cases fuel <;> rfl
    | cons place rest =>
      have size := load_descend place
      have total : load (place :: rest) = place.node.size + load rest := rfl
      obtain ⟨less, rfl⟩ : ∃ less, fuel = less + 1 := ⟨fuel - 1, by omega⟩
      have first : place.below = place :: place.descend.flatMap below := by
        rw [below, size, drain, List.append_nil, ih _ (by omega) _ (Nat.le_refl _)]
      have more : load (place.descend ++ rest) ≤ less := by
        rw [load_append]
        omega
      rw [drain, ih less (by omega) _ more, List.flatMap_append, List.flatMap_cons, first,
        List.cons_append]

/-- A node is visited before all that is below it. -/
theorem below_eq (place : Place) : place.below = place :: place.descend.flatMap below := by
  rw [below, load_descend, drain, List.append_nil, drain_eq _ _ (Nat.le_refl _)]

/-- The places of the children, by the numbers of the children. -/
theorem descend_eq (address : List Nat) (node : Node) (parents : List Node) :
    descend ⟨address, node, parents⟩ = node.children.zipIdx.map fun child =>
      ⟨address ++ [child.2], child.1, parents ++ [node]⟩ := by
  rw [descend, Visit.descend, List.zipIdx_map, List.map_map]
  rfl

private theorem at?_drain {root : Node} (fuel : Nat) {pending : List Place}
    (found : ∀ place ∈ pending, root.at? place.address = some place.node) :
    ∀ place ∈ drain fuel pending, root.at? place.address = some place.node := by
  induction fuel generalizing pending with
  | zero => simp [drain]
  | succ fuel ih =>
    cases pending with
    | nil => simp [drain]
    | cons first rest =>
      have here := found first (List.mem_cons_self ..)
      intro place member
      rcases List.mem_cons.mp member with rfl | later
      · exact here
      · refine ih ?_ place later
        intro other pending
        rcases List.mem_append.mp pending with child | after
        · obtain ⟨⟨visit, i⟩, listed, rfl⟩ := List.mem_map.mp child
          have inside := List.mem_zipIdx_iff_getElem?.mp listed
          rw [Visit.descend, List.getElem?_map] at inside
          obtain ⟨node, same, rfl⟩ := Option.map_eq_some_iff.mp inside
          exact (Node.at?_concat ..).trans ((congrArg (Option.bind · _) here).trans same)
        · exact found other (List.mem_cons_of_mem _ after)

end Place

/-- A visit and the visits of all nodes below it, in the order of the walk. -/
def Visit.below (visit : Visit) : List Visit :=
  drain visit.node.size [visit]

theorem Visit.below_eq (visit : Visit) : visit.below = visit :: visit.descend.flatMap below := by
  let place : Place := ⟨[], visit⟩
  have each (p : Place) : p.below.map Place.visit = p.visit.below := Place.visits_drain _ [p]
  have split := congrArg (List.map Place.visit) place.below_eq
  rw [List.map_cons, List.map_flatMap, each] at split
  simpa only [each, ← List.flatMap_map, Place.visits_descend] using split

/-- Every node is met at its address. -/
theorem at?_places {root : Node} {place : Place} (member : place ∈ places root) :
    root.at? place.address = some place.node := by
  refine Place.at?_drain root.size ?_ place member
  intro start only
  rw [List.mem_singleton.mp only]
  rfl

end IdlLint.Schema

import IdlLint.Schema.Walk

/-! Where the walk through a document meets its includes: once each, in the order of the text, right
below the document. -/
namespace IdlLint.Schema

namespace Visit

/-- Nodes without children are visited one after the other. -/
theorem drain_leaves (n : Nat) (pending : List Visit) {leaves : List Visit}
    (childless : ∀ visit ∈ leaves, visit.node.children = []) :
    drain (leaves.length + n) (leaves ++ pending) = leaves ++ drain n pending := by
  induction leaves with
  | nil => simp
  | cons visit rest ih =>
    have none : visit.descend = [] := by
      simp [descend, childless visit (List.mem_cons_self ..)]
    have size : (visit :: rest).length + n = (rest.length + n) + 1 := by
      simp only [List.length_cons]
      omega
    rw [size, List.cons_append, drain, none, List.nil_append,
      ih fun other member => childless other (List.mem_cons_of_mem _ member)]
    rfl

/-- What holds of a node's children whenever it holds of the node holds of all that is visited. -/
theorem drain_invariant {P : Node → Prop} (closed : ∀ node, P node → ∀ child ∈ node.children, P child)
    (fuel : Nat) {pending : List Visit} (initial : ∀ visit ∈ pending, P visit.node) :
    ∀ visit ∈ drain fuel pending, P visit.node := by
  induction fuel generalizing pending with
  | zero => simp [drain]
  | succ fuel ih =>
    cases pending with
    | nil => simp [drain]
    | cons first rest =>
      have here : P first.node := initial first (List.mem_cons_self ..)
      intro visit member
      rw [drain] at member
      rcases List.mem_cons.mp member with rfl | later
      · exact here
      · refine ih ?_ visit later
        intro other pending
        rcases List.mem_append.mp pending with below | after
        · obtain ⟨child, inside, rfl⟩ := List.mem_map.mp below
          exact closed first.node here child inside
        · exact initial other (List.mem_cons_of_mem _ after)

end Visit

namespace Node

/-- Whether a node can stand in or below a definition. -/
def isInner : Node → Bool
  | .document _ | .include _ | .cppInclude _ | .scope _ => false
  | _ => true

/-- No header stands below a definition. -/
theorem isInner_children (node : Node) (inner : node.isInner = true) :
    ∀ child ∈ node.children, child.isInner = true := by
  rw [← List.all_eq_true]
  cases node with
  | type t => cases t <;> simp [children, typeChildren, isInner, Function.comp_def]
  | value v => cases v <;> simp [children, valueChildren, isInner, Function.comp_def]
  | entry e =>
    obtain ⟨key, value, position⟩ := e
    simp [children, isInner]
  | document d => cases inner
  | _ => simp [children, isInner, Function.comp_def]

theorem kind_ne_include_of_isInner {node : Node} (inner : node.isInner = true) :
    node.kind ≠ .include := by
  cases node with
  | type t => cases t <;> simp [kind, TypeExpr.kind]
  | value v => cases v <;> simp [kind, Value.kind]
  | _ => simp_all [kind, isInner]

theorem isInner_definition (d : Definition) : d.toNode.isInner = true := by
  cases d <;> rfl

theorem children_header (h : Header) : h.toNode.children = [] := by
  cases h <;> rfl

end Node

/-- The includes of a document are visited in their order, each once and right below the document. -/
theorem includes_walk (d : Document) :
    (walk (.document d)).filter (fun visit => visit.node.kind = .include) =
      d.includes.map fun header => ⟨.include header, [.document d]⟩ := by
  let below (node : Node) : Visit := ⟨node, [.document d]⟩
  have size : ∃ n, (Node.document d).size = ((d.headers.map (below ∘ Header.toNode)).length + n) + 1 := by
    refine ⟨(Node.document d).size - 1 - d.headers.length, ?_⟩
    simp only [List.length_map, Node.size]
    omega
  obtain ⟨n, size⟩ := size
  have start : walk (.document d) = ⟨.document d, []⟩ :: (d.headers.map (below ∘ Header.toNode) ++
      Visit.drain n (d.definitions.map (below ∘ Definition.toNode))) := by
    rw [walk, size, Visit.drain, ← Visit.drain_leaves]
    · simp [Visit.descend, Node.children, below, Function.comp_def]
    · intro visit member
      obtain ⟨header, _, rfl⟩ := List.mem_map.mp member
      exact Node.children_header header
  have inner : ∀ visit ∈ Visit.drain n (d.definitions.map (below ∘ Definition.toNode)),
      visit.node.isInner = true := by
    apply Visit.drain_invariant Node.isInner_children
    intro visit member
    obtain ⟨definition, _, rfl⟩ := List.mem_map.mp member
    exact Node.isInner_definition definition
  have rest : (Visit.drain n (d.definitions.map (below ∘ Definition.toNode))).filter
      (fun visit => visit.node.kind = .include) = [] := by
    apply List.filter_eq_nil_iff.mpr
    intro visit member
    simpa using Node.kind_ne_include_of_isInner (inner visit member)
  have headers : (d.headers.map (below ∘ Header.toNode)).filter
      (fun visit => visit.node.kind = .include) = d.includes.map (below ∘ Node.include) := by
    rw [Document.includes]
    induction d.headers with
    | nil => rfl
    | cons header more ih =>
      rw [List.map_cons, List.filter_cons, ih]
      cases header <;> simp [below, Header.toNode, Node.kind]
  rw [start, List.filter_cons_of_neg (by simp [Node.kind]), List.filter_append, rest, headers,
    List.append_nil]
  rfl

end IdlLint.Schema

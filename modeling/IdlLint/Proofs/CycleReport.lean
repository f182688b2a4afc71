import IdlLint.Proofs.CycleDetection

/-! The report on a graph of includes. It can always be written, and it is empty exactly if there is
no cycle. -/
namespace IdlLint

/-- The findings about a chain are those about its edges, one after the other. -/
theorem ImportGraph.chainDiagnostics_getElem? (g : ImportGraph) (count index : Nat)
    (vertices : List Nat) {found : List Diagnostic}
    (written : g.chainDiagnostics count index vertices = .ok found) {i u v : Nat}
    (here : vertices[i]? = some u) (next : vertices[i + 1]? = some v) :
    ∃ d, g.edgeDiagnostic (index + i) count u v = .ok d ∧ found[i]? = some d := by
  fun_induction chainDiagnostics g count index vertices generalizing found i with
  | case1 index source target rest ih =>
    cases first : g.edgeDiagnostic index count source target with
    | error failure =>
      rw [first] at written
      cases written
    | ok d =>
      cases more : g.chainDiagnostics count (index + 1) (target :: rest) with
      | error failure =>
        rw [first, more] at written
        cases written
      | ok others =>
        rw [first, more] at written
        cases written
        cases i with
        | zero =>
          simp only [List.getElem?_cons_zero, List.getElem?_cons_succ, Option.some.injEq] at here next
          subst here next
          exact ⟨d, first, rfl⟩
        | succ i =>
          obtain ⟨other, about, listed⟩ := ih more here next
          exact ⟨other, by rwa [Nat.add_assoc, Nat.add_comm 1] at about, listed⟩
  | case2 vertices index short =>
    cases vertices with
    | nil => cases here
    | cons vertex rest =>
      cases rest with
      | nil => simp at next
      | cons second rest => exact absurd rfl (short vertex second rest)

namespace GraphHistory

variable {h : GraphHistory}

private theorem pathOf_vertex (valid : Invariant h) {v : Nat} (vertex : v ∈ h.graph.adjacency.keys) :
    ∃ path, h.graph.pathOf v = .ok path := by
  obtain ⟨path, named⟩ := OrderedMap.mem_keys_iff.mp (valid.numbered vertex)
  exact ⟨path, by rw [ImportGraph.pathOf, named]⟩

/-- Every edge has a site, and both its ends have paths. -/
theorem edgeDiagnostic_edge (valid : Invariant h) {u v : Nat}
    (edge : Graph.Edge h.graph.adjacency u v) (index count : Nat) :
    ∃ d, h.graph.edgeDiagnostic index count u v = .ok d ∧ d.ruleId = ImportGraph.ruleId := by
  obtain ⟨site, seen⟩ := OrderedMap.mem_keys_iff.mp ((valid.site_keys u v).mpr edge)
  obtain ⟨importer, named⟩ := pathOf_vertex valid edge.source_mem
  obtain ⟨importee, called⟩ := pathOf_vertex valid (valid.recorded.balanced.closed u v edge)
  simp only [ImportGraph.edgeDiagnostic, seen, named, called]
  exact ⟨_, rfl, rfl⟩

/-- A chain of edges has one finding for each edge. -/
theorem chainDiagnostics_chain (valid : Invariant h) (count : Nat) {vertices : List Nat}
    (chain : vertices.IsChain (Graph.Edge h.graph.adjacency)) (index : Nat) :
    ∃ found, h.graph.chainDiagnostics count index vertices = .ok found ∧
      found.length = vertices.length - 1 ∧ ∀ d ∈ found, d.ruleId = ImportGraph.ruleId := by
  induction chain generalizing index with
  | nil => exact ⟨[], rfl, rfl, by simp⟩
  | singleton vertex => exact ⟨[], rfl, rfl, by simp⟩
  | cons_cons edge chain ih =>
    obtain ⟨d, written, rule⟩ := edgeDiagnostic_edge valid edge index count
    obtain ⟨more, rest, size, rules⟩ := ih (index + 1)
    refine ⟨d :: more, ?_, ?_, ?_⟩
    · rw [ImportGraph.chainDiagnostics, written, rest]
      rfl
    · simpa using size
    · simpa [rule] using rules

/-- A graph always has a report, and its report is empty exactly if the graph has no cycle. -/
theorem finalize_graph (valid : Invariant h) :
    ∃ found, h.graph.finalize.2 = .ok found ∧
      (found = [] ↔ ¬ Graph.HasCycle h.graph.adjacency) ∧
      ∀ d ∈ found, d.ruleId = ImportGraph.ruleId := by
  obtain ⟨answer, success, acyclic, cyclic⟩ := Graph.findCycle_correct valid.recorded.balanced
  cases answer with
  | none =>
    refine ⟨[], by simp only [ImportGraph.finalize, success], ?_, by simp⟩
    simpa using acyclic
  | some cycle =>
    have closed : Graph.IsCycle h.graph.adjacency cycle := cyclic cycle rfl
    -- The graph is frozen before it is searched, which changes none of its maps.
    have frozen : Invariant (h.record .finalize) := invariant_record valid .finalize
    obtain ⟨found, written, size, rules⟩ :=
      chainDiagnostics_chain frozen cycle.length closed.chain 1
    refine ⟨found, ?_, ?_, rules⟩
    · simp only [ImportGraph.finalize, success]
      exact written
    · have positive : 0 < cycle.length := List.length_pos_iff.mpr closed.nonempty
      have some : found ≠ [] := by
        intro empty
        rw [empty, List.length_append, List.length_take, List.length_nil] at size
        omega
      exact iff_of_false some (not_not.mpr closed.hasCycle)

end GraphHistory

end IdlLint

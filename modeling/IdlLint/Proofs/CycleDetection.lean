import IdlLint.Proofs.DepthFirstSearch
import IdlLint.Proofs.ImportGraphInvariant
import IdlLint.Proofs.TopologicalCount
import Mathlib.Data.Set.Card

/-! The two passes over a graph agree: the first finds that not all vertices can be put in order
exactly if the second finds a cycle. -/
namespace IdlLint.Graph

variable {V : Type} [DecidableEq V] {adjacency : Adjacency V} {inDegree : OrderedMap V Int}

/-- On a graph with right counts there is always an answer: a cycle if there is one. -/
theorem findCycle_correct (balanced : Balanced adjacency inDegree) :
    ∃ answer, findCycle adjacency inDegree = .ok answer ∧
      (answer = none ↔ ¬ HasCycle adjacency) ∧
      ∀ cycle ∈ answer, IsCycle adjacency cycle := by
  obtain ⟨count, counted, sortable⟩ := countSortable_spec balanced
  obtain ⟨found, missed⟩ := extractCycle_correct adjacency
  by_cases all : count = adjacency.size
  · refine ⟨none, by simp [findCycle, counted, all], ?_, by simp⟩
    exact iff_of_true rfl (sortable.mp all)
  · have cyclic : HasCycle adjacency := not_not.mp fun acyclic => all (sortable.mpr acyclic)
    cases extracted : extractCycle adjacency with
    | none => exact absurd cyclic (missed extracted)
    | some cycle =>
      refine ⟨some cycle, by simp [findCycle, counted, all, extracted], ?_, ?_⟩
      · exact iff_of_false (by simp) (not_not.mpr cyclic)
      · intro other same
        exact Option.mem_some.mp same ▸ found cycle extracted

omit [DecidableEq V] in
/-- Behind the last vertex of a cycle comes its first one again. -/
theorem getElem?_closed {cycle : List V} {i : Nat} (inside : i < cycle.length) :
    (cycle ++ cycle.take 1)[i]? = cycle[i]? ∧
      (cycle ++ cycle.take 1)[i + 1]? = cycle[(i + 1) % cycle.length]? := by
  refine ⟨List.getElem?_append_left inside, ?_⟩
  by_cases last : i + 1 < cycle.length
  · rw [List.getElem?_append_left last, Nat.mod_eq_of_lt last]
  · have wrap : i + 1 = cycle.length := by omega
    rw [wrap, Nat.mod_self, List.getElem?_append_right (Nat.le_refl _), Nat.sub_self,
      List.getElem?_take]
    simp

/-- Around a cycle every vertex has an edge to the next one, the last one to the first. -/
theorem IsCycle.edge {cycle : List V} (valid : IsCycle adjacency cycle) {i : Nat} {u v : V}
    (here : cycle[i]? = some u) (next : cycle[(i + 1) % cycle.length]? = some v) :
    v ∈ neighbours adjacency u := by
  have inside : i < cycle.length := (List.getElem?_eq_some_iff.mp here).1
  have step := List.isChain_iff_getElem.mp valid.chain i (by
    have positive : 0 < cycle.length := by omega
    simp only [List.length_append, List.length_take]
    omega)
  obtain ⟨first, second⟩ := getElem?_closed inside
  rw [here, List.getElem?_eq_some_iff] at first
  rw [next, List.getElem?_eq_some_iff] at second
  obtain ⟨_, rfl⟩ := first
  obtain ⟨_, rfl⟩ := second
  exact step

end IdlLint.Graph

namespace IdlLint.GraphHistory

/-- On every graph that can be built the search for a cycle gives an answer. It is `none` exactly if
no vertex leads back to itself; otherwise it is a list of distinct vertices, each with an edge to the
next and the last with an edge to the first. -/
theorem findCycle_ofCalls (calls : List GraphCall) :
    let graph := (ofCalls calls).graph
    ∃ answer, Graph.findCycle graph.adjacency graph.inDegree = .ok answer ∧
      (answer = none ↔
        ¬ ∃ v, Relation.TransGen (fun u w => w ∈ Graph.neighbours graph.adjacency u) v v) ∧
      ∀ cycle, answer = some cycle → cycle ≠ [] ∧ cycle.Nodup ∧
        ∀ i u v, cycle[i]? = some u → cycle[(i + 1) % cycle.length]? = some v →
          v ∈ Graph.neighbours graph.adjacency u := by
  intro graph
  obtain ⟨answer, success, acyclic, cyclic⟩ :=
    Graph.findCycle_correct (invariant_ofCalls calls).recorded.balanced
  refine ⟨answer, success, acyclic, ?_⟩
  intro cycle found
  have valid := cyclic cycle found
  exact ⟨valid.nonempty, valid.nodup, fun _ _ _ here next => valid.edge here next⟩

/-- On every graph that can be built the vertices that can be put in order are counted exactly: they are
those that no vertex on a cycle leads to. The counts of incoming edges stay as they are, also when the
graph is searched. -/
theorem countSortable_ofCalls (calls : List GraphCall) :
    let graph := (ofCalls calls).graph
    let Edge := fun u v => v ∈ Graph.neighbours graph.adjacency u
    Graph.countSortable graph.adjacency graph.inDegree =
      .ok {v | v ∈ graph.adjacency.keys ∧ ¬ ∃ u, Relation.TransGen Edge u u ∧
        Relation.ReflTransGen Edge u v}.ncard ∧
    graph.finalize.1.inDegree = graph.inDegree := by
  intro graph Edge
  obtain ⟨final, success, nodup, sorted⟩ :=
    Graph.countSortable_exact (invariant_ofCalls calls).recorded.balanced
  refine ⟨?_, rfl⟩
  have same : {v | v ∈ graph.adjacency.keys ∧ ¬ ∃ u, Relation.TransGen Edge u u ∧
      Relation.ReflTransGen Edge u v} = (final.toFinset : Set Nat) := by
    ext v
    rw [List.coe_toFinset]
    exact (sorted v).symm
  rw [same, Set.ncard_coe_finset, List.toFinset_card_of_nodup nodup]
  exact success

end IdlLint.GraphHistory

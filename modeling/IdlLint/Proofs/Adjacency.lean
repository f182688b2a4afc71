import IdlLint.Imports.Cycle
import IdlLint.Proofs.OrderedMap
import Mathlib.Logic.Relation

/-! Edges, occurrences and cycles of a graph that is given by lists of neighbours. -/
namespace IdlLint.Graph

variable {V : Type} [DecidableEq V]

/-- There is an edge from `u` to `v`. -/
def Edge (adjacency : Adjacency V) (u v : V) : Prop :=
  v ∈ neighbours adjacency u

/-- Some vertex leads back to itself along one edge or more. -/
def HasCycle (adjacency : Adjacency V) : Prop :=
  ∃ v, Relation.TransGen (Edge adjacency) v v

/-- How often `v` stands in the lists of neighbours. -/
def occurrences (adjacency : Adjacency V) (v : V) : Nat :=
  (adjacency.entries.flatMap Prod.snd).count v

/-- The count of incoming edges of each vertex is right, and no edge leaves the graph. -/
structure Balanced (adjacency : Adjacency V) (inDegree : OrderedMap V Int) : Prop where
  same_keys : adjacency.keys = inDegree.keys
  closed : ∀ u v, Edge adjacency u v → v ∈ adjacency.keys
  degrees : ∀ v ∈ adjacency.keys, inDegree.get? v = some (occurrences adjacency v : Int)

theorem neighbours_insert (adjacency : Adjacency V) (u v : V) (list : List V) :
    neighbours (adjacency.insert u list) v = if u = v then list else neighbours adjacency v := by
  unfold neighbours
  rw [OrderedMap.get?_insert]
  split <;> rfl

theorem neighbours_of_notMem {adjacency : Adjacency V} {u : V} (absent : u ∉ adjacency.keys) :
    neighbours adjacency u = [] := by
  rw [neighbours, OrderedMap.get?_eq_none_iff.mpr absent]
  rfl

theorem Edge.source_mem {adjacency : Adjacency V} {u v : V} (edge : Edge adjacency u v) :
    u ∈ adjacency.keys := by
  by_contra absent
  rw [Edge, neighbours_of_notMem absent] at edge
  cases edge

/-- A vertex that leads back to itself is not well-founded. -/
theorem not_transGen_self {α : Type} {r : α → α → Prop} {a : α} (founded : Acc r a) :
    ¬ Relation.TransGen r a a := by
  have closed := founded.transGen
  induction closed with
  | intro a _ ih => exact fun back => ih a back founded back

/-- All lists of neighbours, one after the other. -/
theorem flatMap_keys (adjacency : Adjacency V) :
    adjacency.keys.flatMap (neighbours adjacency) = adjacency.entries.flatMap Prod.snd := by
  rw [OrderedMap.keys, List.flatMap_map]
  apply List.flatMap_congr
  intro entry member
  rw [neighbours, OrderedMap.get?_of_mem_entries member]
  rfl

private theorem count_put (u v : V) (list : List V) (entries : List (V × List V)) :
    ((OrderedMap.put u list entries).flatMap Prod.snd).count v +
        (((entries.find? fun entry => entry.1 = u).map Prod.snd).getD []).count v =
      (entries.flatMap Prod.snd).count v + list.count v := by
  induction entries with
  | nil => simp [OrderedMap.put]
  | cons entry rest ih =>
    by_cases same : entry.1 = u
    · simp [OrderedMap.put, same]
      omega
    · rw [OrderedMap.put, if_neg same, List.find?_cons_of_neg (by simpa using same)]
      simp only [List.flatMap_cons, List.count_append]
      omega

/-- Replacing a list takes away what stood in the old one and adds what stands in the new one. -/
theorem occurrences_insert (adjacency : Adjacency V) (u v : V) (list : List V) :
    occurrences (adjacency.insert u list) v + (neighbours adjacency u).count v =
      occurrences adjacency v + list.count v :=
  count_put u v list adjacency.entries

end IdlLint.Graph

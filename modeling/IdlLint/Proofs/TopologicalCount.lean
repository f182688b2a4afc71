import IdlLint.Proofs.Adjacency
import Mathlib.Order.WellFoundedSet

/-! The pass that counts the vertices that can be put in order. Generation by generation it removes
the vertices all of whose predecessors are gone, so what it leaves is closed under taking some
predecessor, and nothing is left exactly if there is no cycle. -/
namespace IdlLint.Graph

variable {V : Type} [DecidableEq V] {adjacency : Adjacency V} {inDegree : OrderedMap V Int}

/-! ### Taking away edges -/

/-- Takes away an incoming edge for each occurrence in `edges`. The vertices that come out are those
whose last edge goes, each once. -/
theorem release_spec (edges : List V) (remaining : OrderedMap V Int) (upcoming : List V)
    (counted : ∀ v ∈ edges, ∃ n, remaining.get? v = some n ∧ (edges.count v : Int) ≤ n) :
    ∃ remaining' hits, release edges remaining upcoming = .ok (remaining', upcoming ++ hits) ∧
      (∀ v, remaining'.get? v = (remaining.get? v).map (· - (edges.count v : Int))) ∧
      hits.Nodup ∧
      ∀ v, v ∈ hits ↔ v ∈ edges ∧ remaining.get? v = some (edges.count v : Int) := by
  induction edges generalizing remaining upcoming with
  | nil => exact ⟨remaining, [], by simp [release], by simp, List.nodup_nil, by simp⟩
  | cons vertex rest ih =>
    obtain ⟨n, found, enough⟩ := counted vertex (List.mem_cons_self ..)
    rw [List.count_cons_self] at enough
    have countedRest : ∀ v ∈ rest, ∃ m, (remaining.insert vertex (n - 1)).get? v = some m ∧
        (rest.count v : Int) ≤ m := by
      intro v member
      rw [OrderedMap.get?_insert]
      split
      · rename_i same
        subst same
        exact ⟨n - 1, rfl, by omega⟩
      · rename_i other
        obtain ⟨m, known, bound⟩ := counted v (List.mem_cons_of_mem _ member)
        rw [List.count_cons_of_ne other] at bound
        exact ⟨m, known, bound⟩
    let next := if n - 1 = 0 then upcoming ++ [vertex] else upcoming
    obtain ⟨remaining', hits, success, left, nodup, member⟩ :=
      ih (remaining.insert vertex (n - 1)) next countedRest
    have leftAll : ∀ v, remaining'.get? v =
        (remaining.get? v).map (· - ((vertex :: rest).count v : Int)) := by
      intro v
      rw [left, OrderedMap.get?_insert]
      split
      · rename_i same
        subst same
        simp only [found, Option.map_some, List.count_cons_self, Option.some.injEq]
        omega
      · rename_i other
        rw [List.count_cons_of_ne other]
    have others : ∀ v, vertex ≠ v → (v ∈ hits ↔
        v ∈ vertex :: rest ∧ remaining.get? v = some ((vertex :: rest).count v : Int)) := by
      intro v other
      rw [member, OrderedMap.get?_insert_of_ne _ _ other, List.count_cons_of_ne other,
        List.mem_cons, or_iff_right other.symm]
    have own : vertex ∈ hits ↔ vertex ∈ rest ∧ n - 1 = (rest.count vertex : Int) := by
      rw [member, OrderedMap.get?_insert_self, Option.some.injEq]
    by_cases last : n - 1 = 0
    · have absent : vertex ∉ rest := List.count_eq_zero.mp (by omega)
      refine ⟨remaining', vertex :: hits, ?_, leftAll, ?_, ?_⟩
      · simpa [release, found, next, last] using success
      · exact List.nodup_cons.mpr ⟨fun again => absent (own.mp again).1, nodup⟩
      · intro v
        by_cases same : vertex = v
        · subst same
          have one : n = ((vertex :: rest).count vertex : Int) := by
            rw [List.count_cons_self, List.count_eq_zero.mpr absent]
            omega
          exact iff_of_true (List.mem_cons_self ..) ⟨List.mem_cons_self .., by rw [found, ← one]⟩
        · rw [List.mem_cons, or_iff_right (Ne.symm same)]
          exact others v same
    · refine ⟨remaining', hits, ?_, leftAll, nodup, ?_⟩
      · simpa [release, found, next, last] using success
      · intro v
        by_cases same : vertex = v
        · subst same
          rw [own, found, Option.some.injEq, List.count_cons_self]
          constructor
          · rintro ⟨_, equal⟩
            exact ⟨List.mem_cons_self .., by omega⟩
          · rintro ⟨_, equal⟩
            exact ⟨List.count_pos_iff.mp (by omega), by omega⟩
        · exact others v same

private theorem release_append (front back : List V) (remaining : OrderedMap V Int)
    (upcoming : List V) : release (front ++ back) remaining upcoming =
      match release front remaining upcoming with
      | .error e => .error e
      | .ok (remaining, upcoming) => release back remaining upcoming := by
  induction front generalizing remaining upcoming with
  | nil => rfl
  | cons vertex rest ih =>
    simp only [List.cons_append, release]
    cases remaining.get? vertex with
    | none => rfl
    | some count => exact ih _ _

/-- A generation is removed by taking away all edges that leave it. -/
theorem removeAll_eq_release (current : List V) (remaining : OrderedMap V Int)
    (upcoming : List V) : removeAll adjacency current remaining upcoming =
      release (current.flatMap (neighbours adjacency)) remaining upcoming := by
  induction current generalizing remaining upcoming with
  | nil => rfl
  | cons vertex rest ih =>
    rw [List.flatMap_cons, release_append, removeAll]
    cases release (neighbours adjacency vertex) remaining upcoming with
    | error e => rfl
    | ok state => exact ih state.1 state.2

/-! ### Generations -/

/-- Some distinct vertices have the whole graph's edges to `v` only if they are all its predecessors,
and never more. -/
theorem count_flatMap_le {vertices : List V} (nodup : vertices.Nodup)
    (inside : vertices ⊆ adjacency.keys) (v : V) :
    (vertices.flatMap (neighbours adjacency)).count v ≤ occurrences adjacency v ∧
      ((vertices.flatMap (neighbours adjacency)).count v = occurrences adjacency v ↔
        ∀ u, Edge adjacency u v → u ∈ vertices) := by
  obtain ⟨part, same, sublist⟩ := List.subperm_of_subset nodup inside
  obtain ⟨others, split⟩ := sublist.exists_perm_append
  have perm : adjacency.keys.Perm (vertices ++ others) := split.trans (same.append_right others)
  have total : occurrences adjacency v = (vertices.flatMap (neighbours adjacency)).count v +
      (others.flatMap (neighbours adjacency)).count v := by
    rw [occurrences, ← flatMap_keys, (perm.flatMap_right _).count_eq, List.flatMap_append,
      List.count_append]
  have apart : ∀ u ∈ others, u ∉ vertices := fun u other member =>
    (List.nodup_append.mp (perm.nodup adjacency.keys_nodup)).2.2 u member u other rfl
  have cover : ∀ u, Edge adjacency u v → u ∈ vertices ∨ u ∈ others := fun u edge =>
    List.mem_append.mp (perm.subset edge.source_mem)
  refine ⟨by omega, ?_⟩
  rw [total]
  constructor
  · intro equal u edge
    refine (cover u edge).resolve_right fun other => ?_
    have listed : v ∈ others.flatMap (neighbours adjacency) :=
      List.mem_flatMap.mpr ⟨u, other, edge⟩
    have positive := List.count_pos_iff.mpr listed
    omega
  · intro within
    have none : (others.flatMap (neighbours adjacency)).count v = 0 := by
      apply List.count_eq_zero.mpr
      intro listed
      obtain ⟨u, other, edge⟩ := List.mem_flatMap.mp listed
      exact apart u other (within u edge)
    omega

/-- The state between two generations: `removed` are gone, and `current` go next. -/
structure Peeled (adjacency : Adjacency V) (removed current : List V)
    (remaining : OrderedMap V Int) : Prop where
  nodup : (removed ++ current).Nodup
  inside : removed ++ current ⊆ adjacency.keys
  left : ∀ v ∈ adjacency.keys, remaining.get? v = some ((occurrences adjacency v : Int) -
    ((removed.flatMap (neighbours adjacency)).count v : Int))
  /-- A vertex is gone or goes next exactly if its predecessors are gone. -/
  ready : ∀ v ∈ adjacency.keys,
    v ∈ removed ++ current ↔ ∀ u, Edge adjacency u v → u ∈ removed
  founded : ∀ v ∈ removed ++ current, Acc (Edge adjacency) v

private theorem peeled_sources (balanced : Balanced adjacency inDegree) :
    Peeled adjacency [] (sources adjacency inDegree) inDegree := by
  have ready : ∀ v ∈ adjacency.keys,
      v ∈ sources adjacency inDegree ↔ ∀ u, Edge adjacency u v → u ∈ ([] : List V) := by
    intro v member
    have whole : (([] : List V).flatMap (neighbours adjacency)).count v = occurrences adjacency v ↔
        ∀ u, Edge adjacency u v → u ∈ ([] : List V) :=
      (count_flatMap_le List.nodup_nil (List.nil_subset _) v).2
    rw [← whole]
    simp only [sources, List.mem_filter, member, balanced.degrees v member, Option.getD_some,
      decide_eq_true_eq, true_and, List.flatMap_nil, List.count_nil]
    omega
  refine ⟨?_, ?_, ?_, ?_, ?_⟩
  · exact adjacency.keys_nodup.filter _
  · exact List.filter_subset_self _
  · intro v member
    rw [balanced.degrees v member]
    simp
  · exact ready
  · intro v member
    have key : v ∈ adjacency.keys := List.mem_of_mem_filter member
    exact ⟨v, fun u edge => absurd ((ready v key).mp member u edge) List.not_mem_nil⟩

/-- One generation is removed, and the next one stands ready. -/
theorem Peeled.step {removed current : List V} {remaining : OrderedMap V Int}
    (balanced : Balanced adjacency inDegree) (valid : Peeled adjacency removed current remaining) :
    ∃ remaining' upcoming,
      removeAll adjacency current remaining [] = .ok (remaining', upcoming) ∧
      Peeled adjacency (removed ++ current) upcoming remaining' := by
  let edges := current.flatMap (neighbours adjacency)
  have total : ∀ v, ((removed ++ current).flatMap (neighbours adjacency)).count v =
      (removed.flatMap (neighbours adjacency)).count v + edges.count v := by
    intro v
    rw [List.flatMap_append, List.count_append]
  have bound := fun v => count_flatMap_le valid.nodup valid.inside v
  have edgeKey : ∀ v ∈ edges, v ∈ adjacency.keys := by
    intro v member
    obtain ⟨u, _, edge⟩ := List.mem_flatMap.mp member
    exact balanced.closed u v edge
  have counted : ∀ v ∈ edges, ∃ n, remaining.get? v = some n ∧ (edges.count v : Int) ≤ n := by
    intro v member
    refine ⟨_, valid.left v (edgeKey v member), ?_⟩
    have most := (bound v).1
    rw [total] at most
    omega
  obtain ⟨remaining', hits, success, left, nodup, member⟩ :=
    release_spec edges remaining [] counted
  have hit : ∀ v, v ∈ hits ↔
      v ∈ edges ∧ ∀ u, Edge adjacency u v → u ∈ removed ++ current := by
    intro v
    rw [member]
    refine and_congr_right fun listed => ?_
    rw [← (bound v).2, total, valid.left v (edgeKey v listed), Option.some.injEq]
    omega
  have hitKey : ∀ v ∈ hits, v ∈ adjacency.keys := fun v hitten => edgeKey v ((hit v).mp hitten).1
  refine ⟨remaining', hits, ?_, ?_, ?_, ?_, ?_, ?_⟩
  · rw [removeAll_eq_release]
    simpa using success
  · refine List.nodup_append.mpr ⟨valid.nodup, nodup, ?_⟩
    rintro v old w hitten rfl
    -- An edge from the current generation is an edge from a vertex that is not gone yet.
    obtain ⟨u, present, edge⟩ := List.mem_flatMap.mp ((hit v).mp hitten).1
    have gone := (valid.ready v (hitKey v hitten)).mp old u edge
    exact (List.nodup_append.mp valid.nodup).2.2 u gone u present rfl
  · exact List.append_subset.mpr ⟨valid.inside, hitKey⟩
  · intro v key
    rw [left, valid.left v key, total]
    simp only [Option.map_some, Option.some.injEq]
    omega
  · intro v key
    rw [List.mem_append]
    constructor
    · rintro (old | hitten)
      · exact fun u edge => List.mem_append_left _ ((valid.ready v key).mp old u edge)
      · exact ((hit v).mp hitten).2
    · intro within
      by_cases listed : v ∈ edges
      · exact .inr ((hit v).mpr ⟨listed, within⟩)
      · refine .inl ((valid.ready v key).mpr fun u edge => ?_)
        refine (List.mem_append.mp (within u edge)).resolve_right fun present => ?_
        exact listed (List.mem_flatMap.mpr ⟨u, present, edge⟩)
  · intro v either
    rcases List.mem_append.mp either with old | hitten
    · exact valid.founded v old
    · exact ⟨v, fun u edge => valid.founded u (((hit v).mp hitten).2 u edge)⟩

/-- All generations together: what is removed in the end is everything whose predecessors are
removed. Enough fuel is left as long as no vertex is removed twice. -/
theorem removeGenerations_spec (balanced : Balanced adjacency inDegree) (fuel : Nat)
    {removed current : List V} {remaining : OrderedMap V Int}
    (valid : Peeled adjacency removed current remaining)
    (enough : adjacency.size ≤ fuel + removed.length) :
    ∃ count final, removeGenerations adjacency fuel current remaining = .ok count ∧
      count + removed.length = final.length ∧ final.Nodup ∧ final ⊆ adjacency.keys ∧
      (∀ v ∈ adjacency.keys, (∀ u, Edge adjacency u v → u ∈ final) → v ∈ final) ∧
      ∀ v ∈ final, Acc (Edge adjacency) v := by
  induction fuel generalizing removed current remaining with
  | zero =>
    have most := (List.subperm_of_subset valid.nodup valid.inside).length_le
    rw [OrderedMap.length_keys, List.length_append] at most
    have last : current = [] := List.length_eq_zero_iff.mp (by omega)
    subst last
    refine ⟨0, removed, by simp [removeGenerations], by simp, by simpa using valid.nodup,
      by simpa using valid.inside, ?_, by simpa using valid.founded⟩
    intro v key within
    simpa using (valid.ready v key).mpr within
  | succ fuel ih =>
    cases current with
    | nil =>
      refine ⟨0, removed, by simp [removeGenerations], by simp, by simpa using valid.nodup,
        by simpa using valid.inside, ?_, by simpa using valid.founded⟩
      intro v key within
      simpa using (valid.ready v key).mpr within
    | cons vertex rest =>
      obtain ⟨remaining', upcoming, success, next⟩ := valid.step balanced
      have fuelLeft : adjacency.size ≤ fuel + (removed ++ vertex :: rest).length := by
        simp only [List.length_append, List.length_cons]
        omega
      obtain ⟨count, final, counted, size, properties⟩ := ih next fuelLeft
      refine ⟨(vertex :: rest).length + count, final, ?_, ?_, properties⟩
      · simp only [removeGenerations, success, counted]
      · rw [List.length_append] at size
        omega

/-- Some vertex on a cycle leads to `v`, perhaps `v` itself. -/
def BehindCycle (adjacency : Adjacency V) (v : V) : Prop :=
  ∃ u, Relation.TransGen (Edge adjacency) u u ∧ Relation.ReflTransGen (Edge adjacency) u v

private theorem not_behindCycle_of_acc {v : V} (founded : Acc (Edge adjacency) v) :
    ¬ BehindCycle adjacency v := by
  rintro ⟨u, back, forth⟩
  refine not_transGen_self ?_ back
  induction forth with
  | refl => exact founded
  | tail _ edge ih => exact ih (founded.inv edge)

/-- Up to the cycles induction along the edges is sound. -/
theorem behindCycle_induction {P : V → Prop}
    (step : ∀ v ∈ adjacency.keys, (∀ u, Edge adjacency u v → P u) → P v) :
    ∀ v ∈ adjacency.keys, ¬ BehindCycle adjacency v → P v := by
  let r : V → V → Prop := fun u v =>
    Relation.TransGen (Edge adjacency) u v ∧ ¬ BehindCycle adjacency v
  have order : IsStrictOrder V r :=
    { irrefl := fun v ⟨back, free⟩ => free ⟨v, back, .refl⟩
      trans := fun _ _ _ first second => ⟨first.1.trans second.1, second.2⟩ }
  have founded : {v | v ∈ adjacency.keys}.WellFoundedOn r :=
    (List.finite_toSet adjacency.keys).wellFoundedOn
  intro v key
  refine founded.induction (P := fun v => ¬ BehindCycle adjacency v → P v) key ?_
  intro w wKey earlier free
  refine step w wKey fun u edge => earlier u edge.source_mem ⟨.single edge, free⟩ ?_
  rintro ⟨c, back, forth⟩
  exact free ⟨c, back, forth.tail edge⟩

/-- The vertices that can be put in order are those that no cycle leads to. -/
theorem countSortable_exact (balanced : Balanced adjacency inDegree) :
    ∃ final : List V, countSortable adjacency inDegree = .ok final.length ∧ final.Nodup ∧
      ∀ v, v ∈ final ↔ v ∈ adjacency.keys ∧ ¬ BehindCycle adjacency v := by
  obtain ⟨count, final, success, size, nodup, inside, complete, founded⟩ :=
    removeGenerations_spec balanced (adjacency.size + inDegree.size + 1)
      (peeled_sources balanced) (by simp; omega)
  simp only [List.length_nil, Nat.add_zero] at size
  subst size
  refine ⟨final, success, nodup, fun v => ⟨fun member => ?_, fun ⟨key, free⟩ => ?_⟩⟩
  · exact ⟨inside member, not_behindCycle_of_acc (founded v member)⟩
  · exact behindCycle_induction complete v key free

/-- All vertices can be put in order exactly if there is no cycle. -/
theorem countSortable_spec (balanced : Balanced adjacency inDegree) :
    ∃ count, countSortable adjacency inDegree = .ok count ∧
      (count = adjacency.size ↔ ¬ HasCycle adjacency) := by
  obtain ⟨final, success, nodup, sorted⟩ := countSortable_exact balanced
  have inside : final ⊆ adjacency.keys := fun v member => ((sorted v).mp member).1
  have fewer := List.subperm_of_subset nodup inside
  refine ⟨final.length, success, ?_⟩
  rw [← OrderedMap.length_keys]
  constructor
  · rintro equal ⟨v, back⟩
    obtain ⟨u, edge, _⟩ := Relation.TransGen.head'_iff.mp back
    have member : v ∈ final := (fewer.perm_of_length_le equal.ge).symm.subset edge.source_mem
    exact ((sorted v).mp member).2 ⟨v, back, .refl⟩
  · intro acyclic
    have covered : adjacency.keys ⊆ final := fun v key =>
      (sorted v).mpr ⟨key, fun ⟨u, back, _⟩ => acyclic ⟨u, back⟩⟩
    exact Nat.le_antisymm fewer.length_le
      (List.subperm_of_subset adjacency.keys_nodup covered).length_le

end IdlLint.Graph

import IdlLint.Proofs.DepthFirstSearch
import Mathlib.Data.List.Perm.Subperm

/-! The detector of cycles on maps that need not fit together: counts may be wrong or negative, and
vertices may be missing from either map. A vertex comes up for removal when its count reaches zero, and
a count only ever falls, so that no vertex comes up twice and both passes end. -/
namespace IdlLint.Graph

variable {V : Type} [DecidableEq V] {adjacency : Adjacency V} {inDegree : OrderedMap V Int}

/-! ### The first pass -/

/-- The first pass as a loop without a bound, vertex by vertex: from the rest of a generation, the
vertices found for the next one and the counts that remain, to all vertices that it takes up, in order,
and the neighbour without a count, if any, that stops it at the last of them. -/
inductive Drains (adjacency : Adjacency V) :
    List V → List V → OrderedMap V Int → List V → Option V → Prop where
  | done (remaining : OrderedMap V Int) : Drains adjacency [] [] remaining [] none
  | turn {upcoming order : List V} {remaining : OrderedMap V Int} {missing : Option V}
      (some : upcoming ≠ []) (more : Drains adjacency upcoming [] remaining order missing) :
      Drains adjacency [] upcoming remaining order missing
  | take {v : V} {current upcoming upcoming' order : List V} {remaining remaining' : OrderedMap V Int}
      {missing : Option V}
      (released : release (neighbours adjacency v) remaining upcoming = .ok (remaining', upcoming'))
      (more : Drains adjacency current upcoming' remaining' order missing) :
      Drains adjacency (v :: current) upcoming remaining (v :: order) missing
  | stop {v u : V} {current upcoming : List V} {remaining : OrderedMap V Int}
      (stopped : release (neighbours adjacency v) remaining upcoming = .error (.uncounted u)) :
      Drains adjacency (v :: current) upcoming remaining [v] (some u)

/-- What the first pass answers. -/
def outcome (order : List V) : Option V → Except (CycleError V) Nat
  | none => .ok order.length
  | some u => .error (.uncounted u)

private theorem Drains.unique {current upcoming order order' : List V} {remaining : OrderedMap V Int}
    {missing missing' : Option V} (one : Drains adjacency current upcoming remaining order missing)
    (two : Drains adjacency current upcoming remaining order' missing') :
    order = order' ∧ missing = missing' := by
  induction one generalizing order' missing' with
  | done remaining =>
    cases two with
    | done => exact ⟨rfl, rfl⟩
    | turn some => exact absurd rfl some
  | turn some _ ih =>
    cases two with
    | done => exact absurd rfl some
    | turn _ more => exact ih more
  | take released _ ih =>
    cases two with
    | take released' more =>
      rw [released] at released'
      cases released'
      obtain ⟨rfl, rfl⟩ := ih more
      exact ⟨rfl, rfl⟩
    | stop stopped =>
      rw [released] at stopped
      cases stopped
  | stop stopped =>
    cases two with
    | take released =>
      rw [stopped] at released
      cases released
    | stop stopped' =>
      rw [stopped] at stopped'
      cases stopped'
      exact ⟨rfl, rfl⟩

/-- The keys of both maps, each once. -/
def known (adjacency : Adjacency V) (inDegree : OrderedMap V Int) : List V :=
  (adjacency.keys ++ inDegree.keys).dedup

/-- The state of the first pass: `removed` are gone, and `waiting` will be taken up. A vertex of either
kind has no count above zero, so that its count cannot reach zero again. -/
structure Draining (adjacency : Adjacency V) (inDegree : OrderedMap V Int)
    (removed waiting : List V) (remaining : OrderedMap V Int) : Prop where
  nodup : (removed ++ waiting).Nodup
  inside : removed ++ waiting ⊆ known adjacency inDegree
  same_keys : ∀ v, v ∈ remaining.keys ↔ v ∈ inDegree.keys
  spent : ∀ v ∈ removed ++ waiting, ∀ count, remaining.get? v = some count → count ≤ 0

namespace Draining

variable {removed waiting : List V} {remaining : OrderedMap V Int}

private theorem sources (adjacency : Adjacency V) (inDegree : OrderedMap V Int) :
    Draining adjacency inDegree [] (sources adjacency inDegree) inDegree := by
  refine ⟨adjacency.keys_nodup.filter _, fun v member => ?_, fun _ => Iff.rfl, ?_⟩
  · have key : v ∈ adjacency.keys := List.mem_of_mem_filter member
    exact List.mem_dedup.mpr (List.mem_append_left _ key)
  · intro v member count counted
    have zero := (List.mem_filter.mp member).2
    rw [counted, Option.getD_some, decide_eq_true_eq] at zero
    omega

private theorem length_le (valid : Draining adjacency inDegree removed waiting remaining) :
    removed.length + waiting.length ≤ (known adjacency inDegree).length := by
  rw [← List.length_append]
  exact (List.subperm_of_subset valid.nodup valid.inside).length_le

/-- A vertex that is taken up is gone. -/
theorem take {v : V} (valid : Draining adjacency inDegree removed (v :: waiting) remaining) :
    Draining adjacency inDegree (removed ++ [v]) waiting remaining := by
  have moved : removed ++ [v] ++ waiting = removed ++ v :: waiting := by simp
  refine ⟨?_, ?_, valid.same_keys, ?_⟩
  · rw [moved]
    exact valid.nodup
  · rw [moved]
    exact valid.inside
  · rw [moved]
    exact valid.spent

/-- One incoming edge of `v` is taken away, and `v` comes up if it was the last one. -/
theorem lower {v : V} {count : Int}
    (valid : Draining adjacency inDegree removed waiting remaining)
    (counted : remaining.get? v = some count) :
    Draining adjacency inDegree removed
      (if count - 1 = 0 then waiting ++ [v] else waiting) (remaining.insert v (count - 1)) := by
  have key : v ∈ remaining.keys := OrderedMap.mem_keys_iff.mpr ⟨count, counted⟩
  have keys : ∀ u, u ∈ (remaining.insert v (count - 1)).keys ↔ u ∈ inDegree.keys := by
    intro u
    rw [OrderedMap.keys_insert, if_pos key]
    exact valid.same_keys u
  have spent : ∀ u ∈ removed ++ waiting, ∀ left,
      (remaining.insert v (count - 1)).get? u = some left → left ≤ 0 := by
    intro u member left found
    rw [OrderedMap.get?_insert] at found
    split at found
    · rename_i same
      subst same
      have old := valid.spent v member count counted
      have equal : count - 1 = left := Option.some.inj found
      omega
    · exact valid.spent u member left found
  split
  · rename_i last
    have fresh : v ∉ removed ++ waiting := by
      intro member
      have old := valid.spent v member count counted
      omega
    refine ⟨?_, ?_, keys, ?_⟩
    · rw [← List.append_assoc, List.nodup_append]
      refine ⟨valid.nodup, List.nodup_singleton v, ?_⟩
      rintro u member w single rfl
      exact fresh (List.mem_singleton.mp single ▸ member)
    · rw [← List.append_assoc, List.append_subset]
      refine ⟨valid.inside, fun u single => ?_⟩
      rw [List.mem_singleton.mp single]
      exact List.mem_dedup.mpr (List.mem_append_right _ ((valid.same_keys v).mp key))
    · intro u member left found
      rw [← List.append_assoc] at member
      rcases List.mem_append.mp member with old | single
      · exact spent u old left found
      · rw [List.mem_singleton.mp single, OrderedMap.get?_insert_self] at found
        have equal : count - 1 = left := Option.some.inj found
        omega
  · exact ⟨valid.nodup, valid.inside, keys, spent⟩

/-- The edges of a vertex are taken away one by one, up to one that leads to a vertex without a
count. -/
theorem release {current upcoming : List V} (edges : List V)
    (valid : Draining adjacency inDegree removed (current ++ upcoming) remaining) :
    (∃ remaining' upcoming', release edges remaining upcoming = .ok (remaining', upcoming') ∧
      (∀ u ∈ edges, u ∈ inDegree.keys) ∧
      Draining adjacency inDegree removed (current ++ upcoming') remaining') ∨
    ∃ u ∈ edges, u ∉ inDegree.keys ∧ release edges remaining upcoming = .error (.uncounted u) := by
  induction edges generalizing remaining upcoming with
  | nil => exact .inl ⟨remaining, upcoming, rfl, by simp, valid⟩
  | cons v rest ih =>
    cases counted : remaining.get? v with
    | none =>
      refine .inr ⟨v, List.mem_cons_self .., ?_, by simp [Graph.release, counted]⟩
      rw [← valid.same_keys]
      exact OrderedMap.get?_eq_none_iff.mp counted
    | some count =>
      have key : v ∈ inDegree.keys :=
        (valid.same_keys v).mp (OrderedMap.mem_keys_iff.mpr ⟨count, counted⟩)
      have next := valid.lower counted
      rw [List.append_assoc, ← apply_ite (current ++ ·)] at next
      simp only [Graph.release, counted]
      rcases ih next with ⟨remaining', upcoming', success, keys, valid'⟩ | ⟨u, member, absent, stopped⟩
      · exact .inl ⟨remaining', upcoming', success, List.forall_mem_cons.mpr ⟨key, keys⟩, valid'⟩
      · exact .inr ⟨u, List.mem_cons_of_mem _ member, absent, stopped⟩

/-- A generation is taken up vertex by vertex, up to one that has a neighbour without a count. -/
theorem removeAll {upcoming : List V} (current : List V)
    (valid : Draining adjacency inDegree removed (current ++ upcoming) remaining) :
    (∃ remaining' upcoming',
      removeAll adjacency current remaining upcoming = .ok (remaining', upcoming') ∧
      Draining adjacency inDegree (removed ++ current) upcoming' remaining' ∧
      ∀ order missing, Drains adjacency [] upcoming' remaining' order missing →
        Drains adjacency current upcoming remaining (current ++ order) missing) ∨
    ∃ order u, removeAll adjacency current remaining upcoming = .error (.uncounted u) ∧
      Drains adjacency current upcoming remaining order (some u) := by
  induction current generalizing removed remaining upcoming with
  | nil =>
    refine .inl ⟨remaining, upcoming, rfl, ?_, fun _ _ more => more⟩
    rw [List.append_nil]
    exact valid
  | cons v current ih =>
    have gone := valid.take
    rcases gone.release (neighbours adjacency v) with
      ⟨remaining', upcoming', success, -, valid'⟩ | ⟨u, -, -, stopped⟩
    · simp only [Graph.removeAll, success]
      rcases ih valid' with ⟨last, found, whole, ended, more⟩ | ⟨order, u, failed, more⟩
      · refine .inl ⟨last, found, whole, ?_, fun order missing rest => ?_⟩
        · rw [List.append_assoc, List.singleton_append] at ended
          exact ended
        · exact .take success (more order missing rest)
      · exact .inr ⟨v :: order, u, failed, .take success more⟩
    · exact .inr ⟨[v], u, by simp only [Graph.removeAll, stopped], .stop stopped⟩

end Draining

/-- The generations together are the loop, and the bound on their number is enough: each takes up a
vertex that was not gone before. -/
theorem removeGenerations_drains (fuel : Nat) {removed current : List V}
    {remaining : OrderedMap V Int} (valid : Draining adjacency inDegree removed current remaining)
    (enough : (known adjacency inDegree).length ≤ fuel + removed.length) :
    ∃ order missing, Drains adjacency current [] remaining order missing ∧
      removeGenerations adjacency fuel current remaining = outcome order missing := by
  induction fuel generalizing removed current remaining with
  | zero =>
    have most := valid.length_le
    have last : current = [] := List.length_eq_zero_iff.mp (by omega)
    subst last
    exact ⟨[], none, .done remaining, by simp [removeGenerations, outcome]⟩
  | succ fuel ih =>
    cases current with
    | nil => exact ⟨[], none, .done remaining, by simp [removeGenerations, outcome]⟩
    | cons v rest =>
      have start : Draining adjacency inDegree removed (v :: rest ++ []) remaining := by
        rw [List.append_nil]
        exact valid
      rcases start.removeAll (v :: rest) with
        ⟨remaining', upcoming, success, next, drains⟩ | ⟨order, u, failed, drains⟩
      · have fuelLeft : (known adjacency inDegree).length ≤
            fuel + (removed ++ v :: rest).length := by
          simp only [List.length_append, List.length_cons]
          omega
        obtain ⟨order, missing, more, result⟩ := ih next fuelLeft
        have turned : Drains adjacency [] upcoming remaining' order missing := by
          by_cases none : upcoming = []
          · subst none
            exact more
          · exact .turn none more
        refine ⟨v :: rest ++ order, missing, drains order missing turned, ?_⟩
        simp only [removeGenerations, success, result]
        cases missing with
        | none => simp only [outcome, List.length_append]
        | some u => rfl
      · refine ⟨order, some u, drains, ?_⟩
        simp only [removeGenerations, failed, outcome]

/-- What the loop takes up, it takes up once, and it is stopped exactly by a neighbour without a
count. -/
theorem Drains.spec {removed current upcoming order : List V} {remaining : OrderedMap V Int}
    {missing : Option V} (drains : Drains adjacency current upcoming remaining order missing)
    (valid : Draining adjacency inDegree removed (current ++ upcoming) remaining) :
    (removed ++ order).Nodup ∧ removed ++ order ⊆ known adjacency inDegree ∧
      (missing ≠ none ↔ ∃ v ∈ order, ∃ u ∈ neighbours adjacency v, u ∉ inDegree.keys) := by
  induction drains generalizing removed with
  | done remaining => exact ⟨valid.nodup, valid.inside, by simp⟩
  | turn _ _ ih =>
    exact ih (by simpa using valid)
  | @take v current upcoming upcoming' order remaining remaining' missing released _ ih =>
    rcases valid.take.release (neighbours adjacency v) with
      ⟨_, _, success, counted, valid'⟩ | ⟨u, -, -, stopped⟩
    · rw [released] at success
      cases success
      obtain ⟨nodup, inside, stops⟩ := ih valid'
      rw [List.append_assoc, List.singleton_append] at nodup inside
      refine ⟨nodup, inside, stops.trans ?_⟩
      have here : ¬ ∃ u ∈ neighbours adjacency v, u ∉ inDegree.keys := by
        rintro ⟨u, edge, absent⟩
        exact absent (counted u edge)
      rw [List.exists_mem_cons_iff, or_iff_right here]
    · rw [released] at stopped
      cases stopped
  | @stop v u current upcoming remaining stopped =>
    rcases valid.take.release (neighbours adjacency v) with
      ⟨_, _, success, -, -⟩ | ⟨u', edge, absent, -⟩
    · rw [stopped] at success
      cases success
    · have gone := valid.take
      have part : (removed ++ [v]).Sublist (removed ++ [v] ++ (current ++ upcoming)) :=
        List.sublist_append_left ..
      refine ⟨gone.nodup.sublist part, fun w member => gone.inside (part.subset member), ?_⟩
      exact iff_of_true (by simp) ⟨v, List.mem_singleton.mpr rfl, u', edge, absent⟩

/-! ### Both passes -/

/-- Whatever the two maps hold, the detector is safe. The first pass ends, takes up no vertex twice, so
that it counts no more than the keys of the maps, and fails exactly if it takes up a vertex with a
neighbour that has no count. The second pass ends, too, and gives distinct vertices that form a closed
chain of edges if there is a cycle, and nothing otherwise. So no cycle is reported that is not there. -/
theorem detector_safe (adjacency : Adjacency V) (inDegree : OrderedMap V Int) :
    (∃ order missing, Drains adjacency (sources adjacency inDegree) [] inDegree order missing) ∧
    (∀ order missing, Drains adjacency (sources adjacency inDegree) [] inDegree order missing →
      countSortable adjacency inDegree = outcome order missing ∧ order.Nodup ∧
      ((∃ u, countSortable adjacency inDegree = .error (.uncounted u)) ↔
        ∃ v ∈ order, ∃ u ∈ neighbours adjacency v, inDegree.get? u = none)) ∧
    (∀ count, countSortable adjacency inDegree = .ok count →
      count ≤ (adjacency.keys ++ inDegree.keys).dedup.length) ∧
    SearchesRoots adjacency adjacency.keys [] (extractCycle adjacency) ∧
    (HasCycle adjacency → ∃ cycle, extractCycle adjacency = some cycle ∧ IsCycle adjacency cycle) ∧
    (extractCycle adjacency = none ↔ ¬ HasCycle adjacency) ∧
    (∀ count, countSortable adjacency inDegree = .ok count → count ≠ adjacency.size →
      (findCycle adjacency inDegree = .error .lost ↔ ¬ HasCycle adjacency)) ∧
    (∀ cycle, findCycle adjacency inDegree = .ok (some cycle) → IsCycle adjacency cycle) := by
  have start := Draining.sources adjacency inDegree
  have enough : (known adjacency inDegree).length ≤
      adjacency.size + inDegree.size + 1 + ([] : List V).length := by
    have most := (List.dedup_sublist (adjacency.keys ++ inDegree.keys)).length_le
    rw [List.length_append, OrderedMap.length_keys, OrderedMap.length_keys] at most
    unfold known
    omega
  obtain ⟨order, missing, drains, answer⟩ := removeGenerations_drains _ start enough
  have counted : countSortable adjacency inDegree = outcome order missing := answer
  obtain ⟨nodup, inside, stops⟩ := drains.spec (by simpa using start)
  obtain ⟨found, missed⟩ := extractCycle_correct adjacency
  have extracted : HasCycle adjacency →
      ∃ cycle, extractCycle adjacency = some cycle ∧ IsCycle adjacency cycle := by
    intro cyclic
    cases result : extractCycle adjacency with
    | none => exact absurd cyclic (missed result)
    | some cycle => exact ⟨cycle, rfl, found cycle result⟩
  have nothing : extractCycle adjacency = none ↔ ¬ HasCycle adjacency := by
    refine ⟨missed, fun acyclic => ?_⟩
    cases result : extractCycle adjacency with
    | none => rfl
    | some cycle => exact absurd (found cycle result).hasCycle acyclic
  refine ⟨⟨order, missing, drains⟩, ?_, ?_, extractCycle_searches adjacency, extracted, nothing,
    ?_, ?_⟩
  · intro order' missing' drains'
    obtain ⟨rfl, rfl⟩ := drains.unique drains'
    refine ⟨counted, nodup, ?_⟩
    simp only [OrderedMap.get?_eq_none_iff]
    rw [← stops, counted]
    cases missing <;> simp [outcome]
  · intro count success
    rw [counted] at success
    cases missing with
    | none =>
      obtain rfl : order.length = count := Except.ok.inj success
      exact (List.subperm_of_subset nodup inside).length_le
    | some u => cases success
  · intro count success short
    rw [← nothing]
    cases result : extractCycle adjacency <;> simp [findCycle, success, short, result]
  · intro cycle reported
    unfold findCycle at reported
    split at reported
    · cases reported
    · split at reported
      · cases reported
      · split at reported
        · rename_i result
          cases reported
          exact found cycle result
        · cases reported

end IdlLint.Graph

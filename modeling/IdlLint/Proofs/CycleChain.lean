import IdlLint.Proofs.CycleReport
import IdlLint.Proofs.IncludeCycle

/-! The report on a cycle reads as a chain. There is one finding for each include on the way around,
each names the file that the next one starts from, and the last leads back to the first. -/
namespace IdlLint

/-- The edge that a call asks for. -/
def GraphCall.request? : GraphCall → Option EdgeRequest
  | .connect request => some request
  | _ => none

/-- The finding about an edge on a cycle of `count` edges. -/
def EdgeRequest.finding (request : EdgeRequest) (index count : Nat) : Diagnostic :=
  .placed request.site.filename request.header.position ImportGraph.ruleId Diagnostic.errorSeverity
    ("circular include (" ++ toString index ++ "/" ++ toString count ++ "): " ++
      request.importer ++ " -> " ++ request.importee ++ " (included as \"" ++
      request.header.path ++ "\")")

namespace GraphHistory

variable {h : GraphHistory}

/-- Unless it has been finalized, a graph takes every edge that it is asked for. -/
theorem accepted_ofCalls {calls : List GraphCall} (thawed : .finalize ∉ calls) :
    (ofCalls calls).accepted = calls.filterMap GraphCall.request? := by
  induction calls using List.reverseRecOn with
  | nil => rfl
  | append_singleton calls call ih =>
    rw [List.mem_append, not_or, List.mem_singleton] at thawed
    rw [ofCalls_concat, List.filterMap_append, ← ih thawed.1]
    cases call with
    | number path => simp [record, GraphCall.request?]
    | connect request =>
      have frozen : (ofCalls calls).graph.frozen = false := by
        rw [← Bool.not_eq_true, frozen_ofCalls]
        exact thawed.1
      rw [record, request.submit_ok frozen]
      rfl
    | finalize => exact absurd rfl thawed.2

/-- The numbers of files run in a circle exactly if the edges between the files do. -/
theorem Invariant.hasCycle_iff (valid : Invariant h) :
    Graph.HasCycle h.graph.adjacency ↔ ∃ file, Relation.TransGen (fun importer importee =>
      ∃ request ∈ h.accepted, request.importer = importer ∧ request.importee = importee)
        file file := by
  refine exists_cycle_iff h.number ?_ ?_
  · intro u v
    rw [valid.edge_iff]
    constructor
    · rintro ⟨request, taken, source, target⟩
      exact ⟨_, _, ⟨request, taken, rfl, rfl⟩, source, target⟩
    · rintro ⟨_, _, ⟨request, taken, rfl, rfl⟩, source, target⟩
      exact ⟨request, taken, source, target⟩
  · rintro _ _ _ _ ⟨request, taken, rfl, rfl⟩ _ same
    exact number_inj (valid.seen request taken).2 same

/-- An edge is reported by the first of the requests that asked for it. -/
theorem Invariant.edgeDiagnostic (valid : Invariant h) {u v : Nat} {importer importee : String}
    (source : h.graph.paths.get? u = some importer) (target : h.graph.paths.get? v = some importee)
    (edge : Graph.Edge h.graph.adjacency u v) (index count : Nat) :
    ∃ first, h.accepted.find? (fun request =>
        request.importer = importer ∧ request.importee = importee) = some first ∧
      h.graph.edgeDiagnostic index count u v = .ok (first.finding index count) := by
  obtain ⟨site, seen⟩ := OrderedMap.mem_keys_iff.mp ((valid.site_keys u v).mpr edge)
  have recorded := valid.first u v
  rw [seen] at recorded
  obtain ⟨first, found, rfl⟩ := Option.map_eq_some_iff.mp recorded.symm
  have named : ∀ {path other : String} {vertex : Nat}, h.graph.paths.get? vertex = some path →
      (h.graph.ids.get? other = some vertex ↔ other = path) := by
    intro path other vertex known
    rw [← valid.numbering.inverse, known, Option.some.injEq, eq_comm]
  simp only [named source, named target] at found
  have same := List.find?_some found
  simp only [decide_eq_true_eq] at same
  refine ⟨first, found, ?_⟩
  simp only [ImportGraph.edgeDiagnostic, ImportGraph.pathOf, seen, source, target]
  rw [EdgeRequest.finding, same.1, same.2]
  rfl

/-- The paths of the vertices on a cycle. -/
def pathsOf (h : GraphHistory) (cycle : List Nat) : List String :=
  cycle.map fun v => (h.graph.paths.get? v).getD ""

private theorem Invariant.paths_of_mem (valid : Invariant h) {cycle : List Nat}
    (closed : Graph.IsCycle h.graph.adjacency cycle) {v : Nat} (member : v ∈ cycle) :
    h.graph.paths.get? v = some ((h.graph.paths.get? v).getD "") := by
  obtain ⟨i, here⟩ := List.mem_iff_getElem?.mp member
  have inside : i < cycle.length := (List.getElem?_eq_some_iff.mp here).1
  obtain ⟨w, next⟩ : ∃ w, cycle[(i + 1) % cycle.length]? = some w :=
    ⟨_, List.getElem?_eq_getElem (Nat.mod_lt _ (by omega))⟩
  have edge : Graph.Edge h.graph.adjacency v w := closed.edge here next
  obtain ⟨path, named⟩ := OrderedMap.mem_keys_iff.mp (valid.numbered edge.source_mem)
  rw [named]
  rfl

private theorem Invariant.nodup_pathsOf (valid : Invariant h) {cycle : List Nat}
    (closed : Graph.IsCycle h.graph.adjacency cycle) : (h.pathsOf cycle).Nodup := by
  refine closed.nodup.map_on ?_
  intro u first v second same
  have one := valid.paths_of_mem closed first
  have two := valid.paths_of_mem closed second
  rw [same, valid.numbering.inverse] at one
  rw [valid.numbering.inverse] at two
  exact Option.some.inj (one.symm.trans two)

/-- The report on a cycle has a finding for each edge, from the first file around to the first
file. -/
theorem Invariant.cycleDiagnostics (valid : Invariant h) {cycle : List Nat}
    (closed : Graph.IsCycle h.graph.adjacency cycle) :
    ∃ found, h.graph.cycleDiagnostics cycle = .ok found ∧ found.length = cycle.length ∧
      ∀ i importer importee, (h.pathsOf cycle)[i]? = some importer →
        (h.pathsOf cycle)[(i + 1) % cycle.length]? = some importee →
        ∃ first, h.accepted.find? (fun request =>
            request.importer = importer ∧ request.importee = importee) = some first ∧
          found[i]? = some (first.finding (i + 1) cycle.length) := by
  obtain ⟨found, written, size, _⟩ := chainDiagnostics_chain valid cycle.length closed.chain 1
  have positive : 0 < cycle.length := List.length_pos_iff.mpr closed.nonempty
  refine ⟨found, written, ?_, ?_⟩
  · rw [size, List.length_append, List.length_take]
    omega
  · intro i importer importee source target
    rw [pathsOf, List.getElem?_map, Option.map_eq_some_iff] at source target
    obtain ⟨u, here, rfl⟩ := source
    obtain ⟨v, next, rfl⟩ := target
    have inside : i < cycle.length := (List.getElem?_eq_some_iff.mp here).1
    obtain ⟨start, stop⟩ := Graph.getElem?_closed inside
    obtain ⟨d, about, listed⟩ := h.graph.chainDiagnostics_getElem? cycle.length 1 _ written
      (start.trans here) (stop.trans next)
    obtain ⟨first, earliest, reported⟩ := valid.edgeDiagnostic
      (valid.paths_of_mem closed (List.mem_of_getElem? here))
      (valid.paths_of_mem closed (List.mem_of_getElem? next)) (closed.edge here next) (1 + i)
      cycle.length
    rw [about, Except.ok.injEq, Nat.add_comm] at reported
    exact ⟨first, earliest, reported ▸ listed⟩

/-- After any calls the graph can be reported on, which freezes it and changes nothing else. The
report is empty unless some file leads back to itself. Otherwise it goes around a circle of distinct
files: for each of them there is a finding about the way to the next one, at the place of the first
include that was recorded there, and the last finding leads back to the first file. -/
theorem finalize_ofCalls (calls : List GraphCall) :
    let h := ofCalls calls
    let Includes (importer importee : String) : Prop := ∃ request ∈ h.accepted,
      request.importer = importer ∧ request.importee = importee
    (.finalize ∉ calls → h.accepted = calls.filterMap GraphCall.request?) ∧
    ∃ found, h.graph.finalize = ({ h.graph with frozen := true }, .ok found) ∧
      ((¬∃ file, Relation.TransGen Includes file file) → found = []) ∧
      ((∃ file, Relation.TransGen Includes file file) →
        ∃ files : List String, files ≠ [] ∧ files.Nodup ∧ found.length = files.length ∧
          ∀ i importer importee, files[i]? = some importer →
            files[(i + 1) % files.length]? = some importee →
            ∃ first, h.accepted.find? (fun request =>
                request.importer = importer ∧ request.importee = importee) = some first ∧
              found[i]? = some {
                filename := first.site.filename
                line := first.header.position.line
                column := first.header.position.column
                ruleId := "import.cycle.disallowed"
                severity := "error"
                message := "circular include (" ++ toString (i + 1) ++ "/" ++
                  toString files.length ++ "): " ++ importer ++ " -> " ++ importee ++
                  " (included as \"" ++ first.header.path ++ "\")" }) := by
  intro h Includes
  have valid : Invariant h := invariant_ofCalls calls
  refine ⟨accepted_ofCalls, ?_⟩
  obtain ⟨answer, success, acyclic, cyclic⟩ := Graph.findCycle_correct valid.recorded.balanced
  rw [valid.hasCycle_iff] at acyclic
  cases answer with
  | none =>
    refine ⟨[], by simp only [ImportGraph.finalize, success], fun _ => rfl, ?_⟩
    exact fun circle => absurd circle (acyclic.mp rfl)
  | some cycle =>
    have closed : Graph.IsCycle h.graph.adjacency cycle := cyclic cycle rfl
    -- The graph is frozen before it is searched, which changes none of its maps.
    have frozen : Invariant (h.record .finalize) := invariant_record valid .finalize
    obtain ⟨found, written, size, around⟩ := frozen.cycleDiagnostics closed
    refine ⟨found, ?_, ?_, ?_⟩
    · simp only [ImportGraph.finalize, success]
      exact congrArg _ written
    · intro straight
      cases acyclic.mpr straight
    · intro _
      have length : (h.pathsOf cycle).length = cycle.length := List.length_map ..
      refine ⟨h.pathsOf cycle, ?_, valid.nodup_pathsOf closed, size.trans length.symm, ?_⟩
      · intro empty
        rw [empty] at length
        exact closed.nonempty (List.length_eq_zero_iff.mp length.symm)
      · rw [length]
        intro i importer importee here next
        obtain ⟨first, earliest, listed⟩ := around i importer importee here next
        have same := List.find?_some earliest
        simp only [decide_eq_true_eq] at same
        refine ⟨first, earliest, listed.trans ?_⟩
        rw [EdgeRequest.finding, same.1, same.2]
        rfl

end GraphHistory

end IdlLint

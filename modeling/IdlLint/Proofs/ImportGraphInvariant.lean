import IdlLint.Imports.Graph
import IdlLint.Proofs.Adjacency
import Mathlib.Data.List.Find

/-! The graph of includes after any sequence of calls. The calls are kept beside the graph, and every
map of the graph is described by them. -/
namespace IdlLint

open IdlLint.Schema

/-- An edge as it is asked for. -/
structure EdgeRequest where
  importer : String
  importee : String
  header : Include
  filename : Option String

namespace EdgeRequest

def submit (request : EdgeRequest) (g : ImportGraph) : Except Failure ImportGraph :=
  g.addEdge request.importer request.importee request.header request.filename

/-- Where the edge was seen. The file is called by the name given, unless that is empty. -/
def site (request : EdgeRequest) : IncludeSite :=
  ⟨(request.filename.filter (· ≠ "")).getD request.importer, request.header⟩

end EdgeRequest

/-- What can be done to a graph. -/
inductive GraphCall where
  | number (path : String)
  | connect (request : EdgeRequest)
  | finalize

/-- A graph and what led to it. -/
structure GraphHistory where
  graph : ImportGraph := {}
  /-- The paths that were seen, repetitions included. -/
  sights : List String := []
  /-- The edges that the graph took, in the order of the calls. -/
  accepted : List EdgeRequest := []

namespace GraphHistory

/-- Makes one call. An edge that is refused leaves everything as it was. -/
def record (h : GraphHistory) : GraphCall → GraphHistory
  | .number path => { h with graph := (h.graph.vertexId path).1, sights := h.sights ++ [path] }
  | .connect request =>
    match request.submit h.graph with
    | .ok graph => ⟨graph, h.sights ++ [request.importer, request.importee], h.accepted ++ [request]⟩
    | .error _ => h
  | .finalize => { h with graph := h.graph.finalize.1 }

/-- The history of some calls on an empty graph. -/
def ofCalls (calls : List GraphCall) : GraphHistory :=
  calls.foldl record {}

theorem ofCalls_concat (calls : List GraphCall) (call : GraphCall) :
    ofCalls (calls ++ [call]) = (ofCalls calls).record call := by
  simp [ofCalls]

/-- The paths in the order in which they were first seen. -/
def firsts (h : GraphHistory) : List String :=
  h.sights.eraseDups

end GraphHistory

namespace ImportGraph

/-! ### Numbers of files -/

/-- Adds a path to those seen before. -/
def extend (firsts : List String) (path : String) : List String :=
  if path ∈ firsts then firsts else firsts ++ [path]

private theorem mem_extend {firsts : List String} {path other : String} :
    other ∈ extend firsts path ↔ other ∈ firsts ∨ other = path := by
  unfold extend
  split
  · rename_i member
    exact ⟨.inl, fun either => either.elim id fun same => same ▸ member⟩
  · simp

private theorem idxOf_extend {firsts : List String} {other : String} (path : String)
    (member : other ∈ firsts) : (extend firsts path).idxOf other = firsts.idxOf other := by
  unfold extend
  split
  · rfl
  · exact List.idxOf_append_of_mem member

private theorem eraseDups_concat (sights : List String) (path : String) :
    (sights ++ [path]).eraseDups = extend sights.eraseDups path := by
  rw [List.eraseDups_append, extend]
  by_cases member : path ∈ sights
  · simp [List.removeAll, member]
  · simp [List.removeAll, member, List.eraseDups_cons]

/-- The two maps between paths and numbers are inverse to one another, and the numbers are the
places in the list of paths, counted from one. -/
structure Numbering (g : ImportGraph) (firsts : List String) : Prop where
  ids_keys : g.ids.keys = firsts
  ids_get : ∀ path ∈ firsts, g.ids.get? path = some (firsts.idxOf path + 1)
  paths_keys : g.paths.keys = List.range' 1 firsts.length
  inverse : ∀ path id, g.paths.get? id = some path ↔ g.ids.get? path = some id

namespace Numbering

variable {g : ImportGraph} {firsts : List String}

private theorem ids_eq_none (valid : Numbering g firsts) {path : String} (absent : path ∉ firsts) :
    g.ids.get? path = none := by
  rw [OrderedMap.get?_eq_none_iff, valid.ids_keys]
  exact absent

private theorem ids_eq_some_iff (valid : Numbering g firsts) {path : String} {id : Nat} :
    g.ids.get? path = some id ↔ path ∈ firsts ∧ id = firsts.idxOf path + 1 := by
  constructor
  · intro found
    have member : path ∈ firsts := by
      rw [← valid.ids_keys]
      exact OrderedMap.mem_keys_iff.mpr ⟨id, found⟩
    rw [valid.ids_get path member, Option.some.injEq] at found
    exact ⟨member, found.symm⟩
  · rintro ⟨member, rfl⟩
    exact valid.ids_get path member

private theorem size_ids (valid : Numbering g firsts) : g.ids.size = firsts.length := by
  rw [← OrderedMap.length_keys, valid.ids_keys]

private theorem vertexId_snd (valid : Numbering g firsts) (path : String) :
    (g.vertexId path).2 = (extend firsts path).idxOf path + 1 := by
  unfold vertexId
  by_cases member : path ∈ firsts
  · rw [valid.ids_get path member, idxOf_extend path member]
  · rw [valid.ids_eq_none member, extend, if_neg member, List.idxOf_append_of_notMem member]
    simp [valid.size_ids]

private theorem vertexId (valid : Numbering g firsts) (path : String) :
    Numbering (g.vertexId path).1 (extend firsts path) := by
  unfold ImportGraph.vertexId
  by_cases member : path ∈ firsts
  · rw [valid.ids_get path member, extend, if_pos member]
    exact valid
  · rw [valid.ids_eq_none member, extend, if_neg member]
    have size := valid.size_ids
    have fresh : ∀ other, g.ids.get? other ≠ some (g.ids.size + 1) := by
      intro other found
      obtain ⟨inside, same⟩ := valid.ids_eq_some_iff.mp found
      have bound := List.idxOf_lt_length_of_mem inside
      omega
    have unnamed : g.ids.size + 1 ∉ g.paths.keys := by
      rw [valid.paths_keys, size, List.mem_range'_1]
      omega
    refine ⟨?_, ?_, ?_, ?_⟩
    · rw [OrderedMap.keys_insert, valid.ids_keys, if_neg member]
    · intro other inside
      rw [OrderedMap.get?_insert]
      split
      · rename_i same
        subst same
        rw [List.idxOf_append_of_notMem member]
        simp [size]
      · rename_i other_ne
        have old : other ∈ firsts := by
          rcases List.mem_append.mp inside with old | new
          · exact old
          · exact absurd (List.mem_singleton.mp new).symm other_ne
        rw [List.idxOf_append_of_mem old]
        exact valid.ids_get other old
    · rw [OrderedMap.keys_insert, if_neg unnamed, valid.paths_keys, size, List.length_append,
        List.length_singleton, List.range'_concat, Nat.one_mul, Nat.add_comm]
    · intro other id
      rw [OrderedMap.get?_insert, OrderedMap.get?_insert]
      by_cases last : g.ids.size + 1 = id
      · subst last
        by_cases same : path = other
        · simp [same]
        · simp [same, fresh other]
      · by_cases same : path = other
        · subst same
          have missing : g.paths.get? id ≠ some path := by
            intro found
            rw [valid.inverse, valid.ids_eq_none member] at found
            cases found
          simp [last, missing]
        · simp [last, same, valid.inverse]

end Numbering

/-! ### Edges -/

/-- Enters an edge between two files that have numbers. -/
def link (g : ImportGraph) (source target : Nat) (site : IncludeSite) : ImportGraph :=
  let g := (g.addVertex source).addVertex target
  { g with
    inDegree := g.inDegree.insert target ((g.inDegree.get? target).getD 0 + 1)
    adjacency := g.adjacency.insert source (Graph.neighbours g.adjacency source ++ [target])
    sites := g.sites.insertNew (source, target) site }

/-- Edges with the places where they were seen. -/
abbrev EdgeLog := List ((Nat × Nat) × IncludeSite)

/-- The maps about edges say what a log of edges says. -/
structure Recorded (g : ImportGraph) (log : EdgeLog) : Prop where
  balanced : Graph.Balanced g.adjacency g.inDegree
  vertices : ∀ v, v ∈ g.adjacency.keys ↔ ∃ entry ∈ log, v = entry.1.1 ∨ v = entry.1.2
  lists : ∀ u, Graph.neighbours g.adjacency u =
    (log.filter fun entry => entry.1.1 = u).map fun entry => entry.1.2
  first : ∀ edge, g.sites.get? edge = (log.find? fun entry => entry.1 = edge).map Prod.snd

/-- A new vertex changes no list of neighbours and no count. -/
theorem addVertex_balanced {g : ImportGraph} (valid : Graph.Balanced g.adjacency g.inDegree)
    (vertex : Nat) : Graph.Balanced (g.addVertex vertex).adjacency (g.addVertex vertex).inDegree ∧
      (∀ v, v ∈ (g.addVertex vertex).adjacency.keys ↔ v ∈ g.adjacency.keys ∨ v = vertex) ∧
      (∀ v, Graph.neighbours (g.addVertex vertex).adjacency v = Graph.neighbours g.adjacency v) ∧
      (g.addVertex vertex).sites = g.sites := by
  unfold addVertex
  split
  · rename_i present
    refine ⟨valid, fun v => ⟨.inl, ?_⟩, fun _ => rfl, rfl⟩
    exact fun either => either.elim id fun same => same ▸ OrderedMap.contains_iff.mp present
  · rename_i absent
    rw [OrderedMap.contains_iff] at absent
    have none := Graph.neighbours_of_notMem absent
    have lists : ∀ v, Graph.neighbours (g.adjacency.insert vertex []) v =
        Graph.neighbours g.adjacency v := by
      intro v
      rw [Graph.neighbours_insert]
      split
      · rename_i same
        rw [← same, none]
      · rfl
    have counts : ∀ v, Graph.occurrences (g.adjacency.insert vertex []) v =
        Graph.occurrences g.adjacency v := by
      intro v
      simpa [none] using Graph.occurrences_insert g.adjacency vertex v []
    refine ⟨⟨?_, ?_, ?_⟩, fun v => OrderedMap.mem_keys_insert, lists, rfl⟩
    · rw [OrderedMap.keys_insert, OrderedMap.keys_insert, valid.same_keys]
    · intro u v edge
      rw [Graph.Edge, lists] at edge
      exact OrderedMap.mem_keys_insert.mpr (.inl (valid.closed u v edge))
    · intro v member
      rw [OrderedMap.get?_insert, counts]
      split
      · rename_i same
        subst same
        have unseen : Graph.occurrences g.adjacency vertex = 0 := by
          apply List.count_eq_zero.mpr
          rw [← Graph.flatMap_keys]
          intro listed
          obtain ⟨u, _, edge⟩ := List.mem_flatMap.mp listed
          exact absent (valid.closed u vertex edge)
        simp [unseen]
      · rename_i other
        rcases OrderedMap.mem_keys_insert.mp member with old | same
        · exact valid.degrees v old
        · exact absurd same.symm other

/-- An edge that is entered is one more line of the log. -/
theorem Recorded.link {g : ImportGraph} {log : EdgeLog} (valid : Recorded g log)
    (source target : Nat) (site : IncludeSite) :
    Recorded (g.link source target site) (log ++ [((source, target), site)]) := by
  obtain ⟨balanced₁, keys₁, lists₁, sites₁⟩ := addVertex_balanced valid.balanced source
  obtain ⟨balanced, keys₂, lists₂, sites₂⟩ := addVertex_balanced balanced₁ target
  unfold ImportGraph.link
  generalize (g.addVertex source).addVertex target = ready at *
  have keys : ∀ v, v ∈ ready.adjacency.keys ↔
      v ∈ g.adjacency.keys ∨ v = source ∨ v = target := by
    intro v
    rw [keys₂, keys₁, or_assoc]
  have lists : ∀ v, Graph.neighbours ready.adjacency v = Graph.neighbours g.adjacency v :=
    fun v => (lists₂ v).trans (lists₁ v)
  have sourceKey : source ∈ ready.adjacency.keys := (keys source).mpr (.inr (.inl rfl))
  have targetKey : target ∈ ready.adjacency.keys := (keys target).mpr (.inr (.inr rfl))
  have targetCount : target ∈ ready.inDegree.keys := balanced.same_keys ▸ targetKey
  have keptKeys : ∀ list, (ready.adjacency.insert source list).keys = ready.adjacency.keys := by
    intro list
    rw [OrderedMap.keys_insert, if_pos sourceKey]
  refine ⟨⟨?_, ?_, ?_⟩, ?_, ?_, ?_⟩
  · rw [keptKeys, OrderedMap.keys_insert, if_pos targetCount]
    exact balanced.same_keys
  · intro u v edge
    rw [keptKeys]
    rw [Graph.Edge, Graph.neighbours_insert] at edge
    split at edge
    · rcases List.mem_append.mp edge with old | new
      · exact balanced.closed source v old
      · exact List.mem_singleton.mp new ▸ targetKey
    · exact balanced.closed u v edge
  · intro v member
    rw [keptKeys] at member
    have count := Graph.occurrences_insert ready.adjacency source v
      (Graph.neighbours ready.adjacency source ++ [target])
    rw [List.count_append, List.count_singleton] at count
    rw [OrderedMap.get?_insert, balanced.degrees target targetKey]
    split
    · rename_i same
      subst same
      simp only [BEq.rfl, if_true] at count
      simp only [Option.getD_some, Option.some.injEq]
      omega
    · rename_i other
      rw [if_neg (by simpa using other)] at count
      rw [balanced.degrees v member]
      simp only [Option.some.injEq]
      omega
  · intro v
    rw [keptKeys, keys, valid.vertices]
    constructor
    · rintro (⟨entry, member, side⟩ | same)
      · exact ⟨entry, List.mem_append_left _ member, side⟩
      · exact ⟨((source, target), site), by simp, same⟩
    · rintro ⟨entry, member, side⟩
      rcases List.mem_append.mp member with old | new
      · exact .inl ⟨entry, old, side⟩
      · rw [List.mem_singleton.mp new] at side
        exact .inr side
  · intro u
    rw [Graph.neighbours_insert, lists, lists, List.filter_append, List.map_append,
      ← valid.lists u]
    by_cases same : source = u
    · subst same
      simp
    · simp [same]
  · intro edge
    rw [OrderedMap.get?_insertNew, sites₂, sites₁, valid.first, List.find?_append]
    by_cases same : (source, target) = edge
    · subst same
      cases log.find? fun entry => entry.1 = (source, target) <;> simp
    · cases log.find? fun entry => entry.1 = edge <;> simp [same]

/-! ### What each operation leaves alone -/

@[simp] theorem vertexId_adjacency (g : ImportGraph) (path : String) :
    (g.vertexId path).1.adjacency = g.adjacency := by
  unfold vertexId; split <;> rfl

@[simp] theorem vertexId_inDegree (g : ImportGraph) (path : String) :
    (g.vertexId path).1.inDegree = g.inDegree := by
  unfold vertexId; split <;> rfl

@[simp] theorem vertexId_sites (g : ImportGraph) (path : String) :
    (g.vertexId path).1.sites = g.sites := by
  unfold vertexId; split <;> rfl

@[simp] theorem vertexId_frozen (g : ImportGraph) (path : String) :
    (g.vertexId path).1.frozen = g.frozen := by
  unfold vertexId; split <;> rfl

@[simp] theorem link_ids (g : ImportGraph) (source target : Nat) (site : IncludeSite) :
    (g.link source target site).ids = g.ids := by
  unfold link addVertex; split <;> split <;> rfl

@[simp] theorem link_paths (g : ImportGraph) (source target : Nat) (site : IncludeSite) :
    (g.link source target site).paths = g.paths := by
  unfold link addVertex; split <;> split <;> rfl

@[simp] theorem link_frozen (g : ImportGraph) (source target : Nat) (site : IncludeSite) :
    (g.link source target site).frozen = g.frozen := by
  unfold link addVertex; split <;> split <;> rfl

private theorem Numbering.congr {g g' : ImportGraph} {firsts : List String}
    (valid : Numbering g firsts) (ids : g'.ids = g.ids) (paths : g'.paths = g.paths) :
    Numbering g' firsts := by
  refine ⟨?_, ?_, ?_, ?_⟩ <;> simp only [ids, paths]
  exacts [valid.ids_keys, valid.ids_get, valid.paths_keys, valid.inverse]

private theorem Recorded.congr {g g' : ImportGraph} {log : EdgeLog} (valid : Recorded g log)
    (adjacency : g'.adjacency = g.adjacency) (inDegree : g'.inDegree = g.inDegree)
    (sites : g'.sites = g.sites) : Recorded g' log := by
  refine ⟨?_, ?_, ?_, ?_⟩ <;> simp only [adjacency, inDegree, sites]
  exacts [valid.balanced, valid.vertices, valid.lists, valid.first]

end ImportGraph

namespace EdgeRequest

private theorem submit_frozen (request : EdgeRequest) {g : ImportGraph} (frozen : g.frozen = true) :
    request.submit g = .error .frozenGraph := by
  simp [submit, ImportGraph.addEdge, frozen]

/-- A graph that is not frozen takes every edge: both files get numbers, then the edge is entered. -/
theorem submit_ok (request : EdgeRequest) {g : ImportGraph} (thawed : g.frozen = false) :
    request.submit g =
      let one := g.vertexId request.importer
      let two := one.1.vertexId request.importee
      .ok (two.1.link one.2 two.2 request.site) := by
  obtain ⟨importer, importee, header, filename⟩ := request
  cases filename with
  | none => simp [submit, ImportGraph.addEdge, thawed, ImportGraph.link, site]
  | some name =>
    by_cases empty : name = ""
    · simp [submit, ImportGraph.addEdge, thawed, ImportGraph.link, site, Option.filter, empty]
    · simp [submit, ImportGraph.addEdge, thawed, ImportGraph.link, site, Option.filter, empty]

end EdgeRequest

namespace GraphHistory

/-- The number of a path that was seen. -/
def number (h : GraphHistory) (path : String) : Nat :=
  h.firsts.idxOf path + 1

theorem number_inj {h : GraphHistory} {one two : String} (seen : one ∈ h.firsts)
    (same : h.number one = h.number two) : one = two :=
  (List.idxOf_inj seen).mp (Nat.succ.inj same)

/-- The edges that the graph took, by the numbers of their files. -/
def log (h : GraphHistory) : ImportGraph.EdgeLog :=
  h.accepted.map fun request =>
    ((h.number request.importer, h.number request.importee), request.site)

structure Invariant (h : GraphHistory) : Prop where
  numbering : h.graph.Numbering h.firsts
  recorded : h.graph.Recorded h.log
  seen : ∀ request ∈ h.accepted, request.importer ∈ h.firsts ∧ request.importee ∈ h.firsts

private theorem invariant_empty : Invariant {} := by
  refine ⟨⟨rfl, ?_, rfl, ?_⟩, ⟨⟨rfl, ?_, ?_⟩, ?_, ?_, ?_⟩, ?_⟩
  · intro path member
    cases member
  · intro path id
    simp
  · intro u v edge
    cases edge
  · intro v member
    cases member
  · intro v
    simp [log]
  · intro u
    rfl
  · intro edge
    rfl
  · intro request member
    cases member

/-- Seeing more paths changes no number, hence no line of the log. -/
theorem log_map_eq {h : GraphHistory} (valid : Invariant h) {firsts : List String}
    (kept : ∀ path ∈ h.firsts, firsts.idxOf path = h.firsts.idxOf path) :
    h.accepted.map (fun request => ((firsts.idxOf request.importer + 1,
      firsts.idxOf request.importee + 1), request.site)) = h.log := by
  apply List.map_congr_left
  intro request member
  obtain ⟨importer, importee⟩ := valid.seen request member
  rw [kept _ importer, kept _ importee]
  rfl

private theorem invariant_number {h : GraphHistory} (valid : Invariant h) (path : String) :
    Invariant (h.record (.number path)) := by
  have firsts : (h.record (.number path)).firsts = ImportGraph.extend h.firsts path :=
    ImportGraph.eraseDups_concat h.sights path
  have same : (h.record (.number path)).log = h.log := by
    simp only [log, number, firsts]
    exact log_map_eq valid fun _ member => ImportGraph.idxOf_extend path member
  refine ⟨?_, ?_, ?_⟩
  · rw [firsts]
    exact valid.numbering.vertexId path
  · rw [same]
    exact valid.recorded.congr (by simp [record]) (by simp [record]) (by simp [record])
  · intro request member
    rw [firsts, ImportGraph.mem_extend, ImportGraph.mem_extend]
    exact (valid.seen request member).imp .inl .inl

private theorem invariant_connect {h : GraphHistory} (valid : Invariant h) (request : EdgeRequest) :
    Invariant (h.record (.connect request)) := by
  cases state : h.graph.frozen with
  | true =>
    have refused : h.record (.connect request) = h := by
      simp only [record, request.submit_frozen state]
    rw [refused]
    exact valid
  | false =>
    have taken := request.submit_ok state
    have numbering₁ := valid.numbering.vertexId request.importer
    have numbering₂ := numbering₁.vertexId request.importee
    have source := valid.numbering.vertexId_snd request.importer
    have target := numbering₁.vertexId_snd request.importee
    simp only [record, taken]
    generalize first : h.graph.vertexId request.importer = one at *
    generalize second : one.1.vertexId request.importee = two at *
    let last : GraphHistory := ⟨two.1.link one.2 two.2 request.site,
      h.sights ++ [request.importer, request.importee], h.accepted ++ [request]⟩
    have firsts : last.firsts =
        ImportGraph.extend (ImportGraph.extend h.firsts request.importer) request.importee := by
      have split : last.sights = h.sights ++ [request.importer] ++ [request.importee] := by
        simp [last]
      rw [GraphHistory.firsts, split, ImportGraph.eraseDups_concat, ImportGraph.eraseDups_concat]
      rfl
    have kept : ∀ path ∈ h.firsts, last.firsts.idxOf path = h.firsts.idxOf path := by
      intro path member
      rw [firsts, ImportGraph.idxOf_extend _ (ImportGraph.mem_extend.mpr (.inl member)),
        ImportGraph.idxOf_extend _ member]
    -- The importer already has its place when the importee is looked up.
    have sourceNumber : one.2 = last.number request.importer := by
      rw [source, number, firsts,
        ImportGraph.idxOf_extend _ (ImportGraph.mem_extend.mpr (.inr rfl))]
    have targetNumber : two.2 = last.number request.importee := by
      rw [target, number, firsts]
    have logged : last.log = h.log ++ [((one.2, two.2), request.site)] := by
      rw [sourceNumber, targetNumber, ← log_map_eq valid kept]
      simp [log, number, last]
    refine ⟨?_, ?_, ?_⟩
    · change last.graph.Numbering last.firsts
      rw [firsts]
      exact numbering₂.congr (by simp [last]) (by simp [last])
    · change last.graph.Recorded last.log
      rw [logged]
      have unchanged : two.1.Recorded h.log := valid.recorded.congr
        (by simp [← second, ← first]) (by simp [← second, ← first]) (by simp [← second, ← first])
      exact unchanged.link one.2 two.2 request.site
    · intro other member
      change other.importer ∈ last.firsts ∧ other.importee ∈ last.firsts
      rw [firsts]
      simp only [ImportGraph.mem_extend]
      rcases List.mem_append.mp member with old | new
      · exact (valid.seen other old).imp (.inl ∘ .inl) (.inl ∘ .inl)
      · rw [List.mem_singleton.mp new]
        exact ⟨.inl (.inr rfl), .inr rfl⟩

theorem invariant_record {h : GraphHistory} (valid : Invariant h) (call : GraphCall) :
    Invariant (h.record call) := by
  cases call with
  | number path => exact invariant_number valid path
  | connect request => exact invariant_connect valid request
  | finalize => exact ⟨valid.numbering.congr rfl rfl, valid.recorded.congr rfl rfl rfl, valid.seen⟩

private theorem invariant_foldl {h : GraphHistory} (valid : Invariant h) (calls : List GraphCall) :
    Invariant (calls.foldl record h) := by
  induction calls generalizing h with
  | nil => exact valid
  | cons call rest ih => exact ih (invariant_record valid call)

theorem invariant_ofCalls (calls : List GraphCall) : Invariant (ofCalls calls) :=
  invariant_foldl invariant_empty calls

private theorem frozen_record (h : GraphHistory) (call : GraphCall) :
    (h.record call).graph.frozen = true ↔ h.graph.frozen = true ∨ call = .finalize := by
  cases call with
  | number path => simp [record]
  | connect request =>
    cases state : h.graph.frozen with
    | true => simp [record, request.submit_frozen state, state]
    | false => simp [record, request.submit_ok state, state]
  | finalize => simp [record, ImportGraph.finalize]

/-- A graph is frozen once it has been finalized, and never thaws. -/
theorem frozen_ofCalls (calls : List GraphCall) :
    (ofCalls calls).graph.frozen = true ↔ .finalize ∈ calls := by
  have general : ∀ (calls : List GraphCall) (h : GraphHistory),
      (calls.foldl record h).graph.frozen = true ↔
        h.graph.frozen = true ∨ .finalize ∈ calls := by
    intro calls
    induction calls with
    | nil => simp
    | cons call rest ih =>
      intro h
      rw [List.foldl_cons, ih, frozen_record, List.mem_cons, or_assoc, eq_comm (a := call)]
  simpa [ofCalls] using general calls {}

/-- What the maps of a graph mean, in terms of the calls that made it. -/
structure Represents (h : GraphHistory) : Prop where
  /-- The files have numbers in the order in which they were first seen. -/
  ids_keys : h.graph.ids.keys = h.firsts
  ids_get : ∀ path ∈ h.firsts, h.graph.ids.get? path = some (h.firsts.idxOf path + 1)
  /-- The numbers are all those from one up to the number of files. -/
  paths_keys : h.graph.paths.keys = List.range' 1 h.firsts.length
  inverse : ∀ path id, h.graph.paths.get? id = some path ↔ h.graph.ids.get? path = some id
  same_keys : h.graph.adjacency.keys = h.graph.inDegree.keys
  numbered : ∀ v ∈ h.graph.adjacency.keys, v ∈ h.graph.paths.keys
  closed : ∀ u, ∀ v ∈ Graph.neighbours h.graph.adjacency u, v ∈ h.graph.adjacency.keys
  /-- A count of incoming edges is the number of times the vertex stands in the lists. -/
  degrees : ∀ v ∈ h.graph.adjacency.keys, h.graph.inDegree.get? v =
    some (((h.graph.adjacency.entries.flatMap Prod.snd).count v : Nat) : Int)
  site_keys : ∀ u v, (u, v) ∈ h.graph.sites.keys ↔ v ∈ Graph.neighbours h.graph.adjacency u
  /-- A list of neighbours holds the targets of the accepted edges, in order. -/
  lists : ∀ importer u, h.graph.ids.get? importer = some u →
    (Graph.neighbours h.graph.adjacency u).map some =
      (h.accepted.filter fun request => request.importer = importer).map fun request =>
        h.graph.ids.get? request.importee
  /-- Of several accepted edges between two files the first gives the place. -/
  first : ∀ u v, h.graph.sites.get? (u, v) =
    (h.accepted.find? fun request => h.graph.ids.get? request.importer = some u ∧
      h.graph.ids.get? request.importee = some v).map EdgeRequest.site

namespace Invariant

variable {h : GraphHistory}

private theorem ids_of_seen (valid : Invariant h) {path : String} (seen : path ∈ h.firsts) :
    h.graph.ids.get? path = some (h.number path) :=
  valid.numbering.ids_get path seen

private theorem number_mem_paths (valid : Invariant h) {path : String} (seen : path ∈ h.firsts) :
    h.number path ∈ h.graph.paths.keys := by
  have bound := List.idxOf_lt_length_of_mem seen
  rw [valid.numbering.paths_keys, List.mem_range'_1, number]
  omega

private theorem edge_mem_log (valid : Invariant h) {u v : Nat} :
    v ∈ Graph.neighbours h.graph.adjacency u ↔ ∃ entry ∈ h.log, entry.1 = (u, v) := by
  rw [valid.recorded.lists]
  simp [and_assoc]

theorem edge_iff (valid : Invariant h) (u v : Nat) :
    Graph.Edge h.graph.adjacency u v ↔ ∃ request ∈ h.accepted,
      h.number request.importer = u ∧ h.number request.importee = v := by
  rw [Graph.Edge, valid.edge_mem_log, log]
  simp

theorem site_keys (valid : Invariant h) (u v : Nat) :
    (u, v) ∈ h.graph.sites.keys ↔ v ∈ Graph.neighbours h.graph.adjacency u := by
  rw [edge_mem_log valid, OrderedMap.mem_keys_iff, valid.recorded.first]
  simp only [Option.map_eq_some_iff]
  constructor
  · rintro ⟨_, entry, found, _⟩
    exact ⟨entry, List.mem_of_find?_eq_some found, by simpa using List.find?_some found⟩
  · rintro ⟨entry, member, same⟩
    have some : (h.log.find? fun entry => entry.1 = (u, v)).isSome :=
      List.find?_isSome.mpr ⟨entry, member, decide_eq_true same⟩
    obtain ⟨first, found⟩ := Option.isSome_iff_exists.mp some
    exact ⟨first.2, first, found, rfl⟩

theorem numbered (valid : Invariant h) {v : Nat} (member : v ∈ h.graph.adjacency.keys) :
    v ∈ h.graph.paths.keys := by
  obtain ⟨entry, logged, side⟩ := (valid.recorded.vertices v).mp member
  obtain ⟨request, accepted, rfl⟩ := List.mem_map.mp logged
  obtain ⟨importer, importee⟩ := valid.seen request accepted
  rcases side with rfl | rfl
  · exact valid.number_mem_paths importer
  · exact valid.number_mem_paths importee

private theorem lists (valid : Invariant h) {importer : String} {u : Nat}
    (found : h.graph.ids.get? importer = some u) :
    (Graph.neighbours h.graph.adjacency u).map some =
      (h.accepted.filter fun request => request.importer = importer).map fun request =>
        h.graph.ids.get? request.importee := by
  obtain ⟨seen, rfl⟩ := valid.numbering.ids_eq_some_iff.mp found
  rw [valid.recorded.lists, log, List.filter_map, List.map_map, List.map_map]
  have same : h.accepted.filter ((fun entry => decide (entry.1.1 = h.firsts.idxOf importer + 1)) ∘
      fun request => ((h.number request.importer, h.number request.importee), request.site)) =
        h.accepted.filter fun request => request.importer = importer := by
    apply List.filter_congr
    intro request member
    have known := (valid.seen request member).1
    simp only [Function.comp, decide_eq_decide]
    exact ⟨number_inj known, fun equal => by rw [number, equal]⟩
  rw [same]
  apply List.map_congr_left
  intro request member
  have known := (valid.seen request (List.mem_of_mem_filter member)).2
  exact (valid.ids_of_seen known).symm

theorem first (valid : Invariant h) (u v : Nat) : h.graph.sites.get? (u, v) =
    (h.accepted.find? fun request => h.graph.ids.get? request.importer = some u ∧
      h.graph.ids.get? request.importee = some v).map EdgeRequest.site := by
  rw [valid.recorded.first, log, List.find?_map, Option.map_map]
  have same : h.accepted.find? ((fun entry => decide (entry.1 = (u, v))) ∘
      fun request => ((h.number request.importer, h.number request.importee), request.site)) =
        h.accepted.find? fun request => h.graph.ids.get? request.importer = some u ∧
          h.graph.ids.get? request.importee = some v := by
    apply List.find?_congr
    intro request member
    obtain ⟨importer, importee⟩ := valid.seen request member
    rw [valid.ids_of_seen importer, valid.ids_of_seen importee]
    simp
  rw [same]
  rfl

private theorem represents (valid : Invariant h) : Represents h where
  ids_keys := valid.numbering.ids_keys
  ids_get := valid.numbering.ids_get
  paths_keys := valid.numbering.paths_keys
  inverse := valid.numbering.inverse
  same_keys := valid.recorded.balanced.same_keys
  numbered _ := valid.numbered
  closed := valid.recorded.balanced.closed
  degrees := valid.recorded.balanced.degrees
  site_keys := valid.site_keys
  lists _ _ := valid.lists
  first := valid.first

end Invariant

/-- After any calls every map of the graph says what the calls said. Before the graph is finalized it
takes every edge; afterwards it is frozen, refuses every edge, and nothing changes. -/
theorem represents_ofCalls (calls : List GraphCall) :
    (ofCalls calls).Represents ∧
    (.finalize ∉ calls → (ofCalls calls).graph.frozen = false ∧
      ∀ request : EdgeRequest, ∃ graph, request.submit (ofCalls calls).graph = .ok graph) ∧
    (.finalize ∈ calls → (ofCalls calls).graph.frozen = true ∧
      ∀ request : EdgeRequest, request.submit (ofCalls calls).graph = .error .frozenGraph ∧
        ofCalls (calls ++ [.connect request]) = ofCalls calls) := by
  refine ⟨(invariant_ofCalls calls).represents, ?_, ?_⟩
  · intro thawed
    rw [← frozen_ofCalls, Bool.not_eq_true] at thawed
    exact ⟨thawed, fun request => ⟨_, request.submit_ok thawed⟩⟩
  · intro finalized
    have frozen := (frozen_ofCalls calls).mpr finalized
    refine ⟨frozen, fun request => ?_⟩
    have refused := request.submit_frozen frozen
    exact ⟨refused, by rw [ofCalls_concat, record, refused]⟩

/-- A file that includes itself twice, and is asked for once more after the end. -/
theorem represents_repeated_loop :
    let loop : EdgeRequest := ⟨"a", "a", ⟨"a", .origin⟩, none⟩
    let calls : List GraphCall := [.connect loop, .number "b", .connect loop, .finalize]
    GraphCall.finalize ∈ calls ∧ (ofCalls calls).graph.adjacency.entries = [(1, [1, 1])] ∧
      (ofCalls calls).Represents ∧ loop.submit (ofCalls calls).graph = .error .frozenGraph := by
  intro loop calls
  have finalized : GraphCall.finalize ∈ calls := by simp [calls]
  have all := represents_ofCalls calls
  exact ⟨finalized, by decide, all.1, ((all.2.2 finalized).2 loop).1⟩

end GraphHistory

end IdlLint

import IdlLint.Proofs.Adjacency
import Mathlib.Data.List.Chain
import Mathlib.Data.List.Dedup

/-! The search in depth. Its stack is always a path of the graph, what it has explored is closed under
edges and holds no cycle, and every step makes its remaining work smaller. So it ends with a cycle, or
with everything explored. Neighbours need not have entries of their own. -/
namespace IdlLint.Graph

variable {V : Type} [DecidableEq V] {adjacency : Adjacency V}

/-- Distinct vertices, each with an edge to the next and the last with one to the first. -/
structure IsCycle (adjacency : Adjacency V) (cycle : List V) : Prop where
  nonempty : cycle ≠ []
  nodup : cycle.Nodup
  chain : (cycle ++ cycle.take 1).IsChain (Edge adjacency)

omit [DecidableEq V] in
private theorem transGen_of_isChain {r : V → V → Prop} {a b : V} {middle : List V}
    (chain : (a :: middle ++ [b]).IsChain r) : Relation.TransGen r a b := by
  induction middle generalizing a with
  | nil => exact .single (List.isChain_cons_cons.mp chain).1
  | cons c rest ih =>
    obtain ⟨edge, more⟩ := List.isChain_cons_cons.mp chain
    exact .head edge (ih more)

theorem IsCycle.hasCycle {cycle : List V} (valid : IsCycle adjacency cycle) :
    HasCycle adjacency := by
  cases cycle with
  | nil => exact absurd rfl valid.nonempty
  | cons v rest => exact ⟨v, transGen_of_isChain (by simpa using valid.chain)⟩

/-! ### Invariant -/

/-- The frames below `above` on a stack: each waits for the one above it, and of its neighbours those
not tried yet are pending, while the others are explored. -/
def Pending (adjacency : Adjacency V) (explored : List V) : Option V → List (Frame V) → Prop
  | _, [] => True
  | above, f :: rest =>
    (∀ v ∈ above, Edge adjacency f.vertex v) ∧
    (∀ v ∈ f.untried, Edge adjacency f.vertex v) ∧
    (∀ v, Edge adjacency f.vertex v → v ∈ f.untried ∨ v ∈ explored ∨ v ∈ above) ∧
    Pending adjacency explored (some f.vertex) rest

/-- Vertices from which no cycle can be reached, and no vertex outside. -/
structure Settled (adjacency : Adjacency V) (explored : List V) : Prop where
  closed : ∀ v ∈ explored, ∀ u, Edge adjacency v u → u ∈ explored
  founded : ∀ v ∈ explored, Acc (flip (Edge adjacency)) v

structure Searching (adjacency : Adjacency V) (stack : List (Frame V)) (explored : List V) :
    Prop where
  settled : Settled adjacency explored
  nodup : (stack.map Frame.vertex).Nodup
  fresh : ∀ v ∈ stack.map Frame.vertex, v ∉ explored
  pending : Pending adjacency explored none stack

private theorem Pending.mono {explored explored' : List V} (more : explored ⊆ explored')
    {above : Option V} {stack : List (Frame V)} (valid : Pending adjacency explored above stack) :
    Pending adjacency explored' above stack := by
  induction stack generalizing above with
  | nil => trivial
  | cons f rest ih =>
    obtain ⟨up, untried, tried, below⟩ := valid
    refine ⟨up, untried, fun v edge => ?_, ih below⟩
    exact (tried v edge).imp_right (Or.imp_left (@more v))

/-- A vertex above that is explored need not be told apart from the others. -/
theorem Pending.forget {explored : List V} {v : V} (done : v ∈ explored) {stack : List (Frame V)}
    (valid : Pending adjacency explored (some v) stack) :
    Pending adjacency explored none stack := by
  cases stack with
  | nil => trivial
  | cons f rest =>
    obtain ⟨_, untried, tried, below⟩ := valid
    refine ⟨by simp, untried, fun u edge => ?_, below⟩
    rcases tried u edge with later | explored | same
    · exact .inl later
    · exact .inr (.inl explored)
    · exact .inr (.inl (Option.mem_some.mp same ▸ done))

private theorem Pending.isChain {explored : List V} {above : Option V} {stack : List (Frame V)}
    (valid : Pending adjacency explored above stack) :
    (stack.map Frame.vertex).reverse.IsChain (Edge adjacency) := by
  rw [List.isChain_reverse]
  induction stack generalizing above with
  | nil => exact .nil
  | cons f rest ih =>
    obtain ⟨_, _, _, below⟩ := valid
    cases rest with
    | nil => exact .singleton _
    | cons g more => exact List.isChain_cons_cons.mpr ⟨below.1 _ rfl, ih below⟩

/-- An edge back into the path closes a cycle, once the part that leads into it is dropped. -/
theorem isCycle_dropWhile {path : List V} {v next : V} (nodup : (path ++ [v]).Nodup)
    (chain : (path ++ [v]).IsChain (Edge adjacency)) (edge : Edge adjacency v next)
    (member : next ∈ path ++ [v]) :
    IsCycle adjacency ((path ++ [v]).dropWhile (· ≠ next)) := by
  generalize whole : path ++ [v] = trail at *
  have last : trail.getLast? = some v := by simp [← whole]
  obtain ⟨front, back, split, before⟩ := List.eq_append_cons_of_mem member
  have dropped : trail.dropWhile (· ≠ next) = next :: back := by
    rw [split, List.dropWhile_append_of_pos]
    · simp
    · intro u inside
      simpa using fun same : u = next => before (same ▸ inside)
  rw [dropped]
  have suffix : (next :: back) <:+ trail := ⟨front, split.symm⟩
  refine ⟨List.cons_ne_nil _ _, nodup.sublist suffix.sublist, ?_⟩
  rw [List.take_one, List.head?_cons, Option.toList_some, List.isChain_append]
  refine ⟨chain.suffix suffix, .singleton _, ?_⟩
  intro u final w only
  have end_ : (next :: back).getLast? = some v := by
    rw [← last, split, List.getLast?_append_cons]
  rw [end_, Option.mem_some] at final
  rw [List.head?_cons, Option.mem_some] at only
  exact final ▸ only ▸ edge

/-! ### Work -/

/-- The neighbours that have no entry of their own. -/
def strays (adjacency : Adjacency V) : List V :=
  ((adjacency.entries.flatMap Prod.snd).filter (· ∉ adjacency.keys)).dedup

/-- The vertices that a search can come to. -/
def vertices (adjacency : Adjacency V) : List V :=
  adjacency.keys ++ strays adjacency

private theorem vertices_nodup (adjacency : Adjacency V) : (vertices adjacency).Nodup := by
  refine List.nodup_append.mpr ⟨adjacency.keys_nodup, List.nodup_dedup _, ?_⟩
  rintro v key w stray rfl
  have absent := (List.mem_filter.mp (List.mem_dedup.mp stray)).2
  simp [key] at absent

private theorem Edge.mem_entries {u v : V} (edge : Edge adjacency u v) :
    v ∈ adjacency.entries.flatMap Prod.snd := by
  rw [← flatMap_keys]
  exact List.mem_flatMap.mpr ⟨u, edge.source_mem, edge⟩

private theorem Edge.target_mem {u v : V} (edge : Edge adjacency u v) : v ∈ vertices adjacency := by
  by_cases key : v ∈ adjacency.keys
  · exact List.mem_append_left _ key
  · refine List.mem_append_right _ (List.mem_dedup.mpr (List.mem_filter.mpr ?_))
    exact ⟨edge.mem_entries, by simpa using key⟩

private theorem length_strays_le (adjacency : Adjacency V) :
    (strays adjacency).length ≤ (adjacency.entries.flatMap Prod.snd).length :=
  (List.dedup_sublist _).length_le.trans List.filter_sublist.length_le

/-- All edges leave vertices with entries. -/
theorem flatMap_vertices (adjacency : Adjacency V) :
    (vertices adjacency).flatMap (neighbours adjacency) = adjacency.entries.flatMap Prod.snd := by
  have none : (strays adjacency).flatMap (neighbours adjacency) = [] := by
    refine List.flatMap_eq_nil_iff.mpr fun v stray => neighbours_of_notMem ?_
    simpa using (List.mem_filter.mp (List.mem_dedup.mp stray)).2
  rw [vertices, List.flatMap_append, flatMap_keys, none, List.append_nil]

/-- The steps that a vertex costs: one for each edge, and one to leave it. -/
def cost (adjacency : Adjacency V) (v : V) : Nat :=
  (neighbours adjacency v).length + 1

/-- The cost of the vertices that were not seen yet. -/
def unseen (adjacency : Adjacency V) (vertices seen : List V) : Nat :=
  vertices.foldr (fun v n => if v ∈ seen then n else cost adjacency v + n) 0

/-- The steps still to do. -/
def work (adjacency : Adjacency V) (stack : List (Frame V)) (explored : List V) : Nat :=
  stack.foldr (fun f n => f.untried.length + 1 + n) 0 +
    unseen adjacency (vertices adjacency) (stack.map Frame.vertex ++ explored)

private theorem unseen_congr {vertices seen seen' : List V} (same : ∀ v, v ∈ seen ↔ v ∈ seen') :
    unseen adjacency vertices seen = unseen adjacency vertices seen' := by
  simp only [unseen, same]

private theorem unseen_cons {vertices seen : List V} (nodup : vertices.Nodup) {v : V}
    (member : v ∈ vertices) (fresh : v ∉ seen) :
    unseen adjacency vertices (v :: seen) + cost adjacency v =
      unseen adjacency vertices seen := by
  induction vertices with
  | nil => cases member
  | cons first rest ih =>
    obtain ⟨once, nodupRest⟩ := List.nodup_cons.mp nodup
    by_cases same : first = v
    · subst same
      have others : unseen adjacency rest (first :: seen) = unseen adjacency rest seen := by
        apply List.foldr_ext
        intro u inside n
        have other : u ≠ first := fun equal => once (equal ▸ inside)
        simp [other]
      have drop : unseen adjacency (first :: rest) (first :: seen) =
          unseen adjacency rest (first :: seen) := by
        simp [unseen]
      have keep : unseen adjacency (first :: rest) seen =
          cost adjacency first + unseen adjacency rest seen := by
        simp [unseen, fresh]
      omega
    · have later := ih nodupRest ((List.mem_cons.mp member).resolve_left (Ne.symm same))
      by_cases old : first ∈ seen
      · simpa [unseen, old] using later
      · have drop : unseen adjacency (first :: rest) (v :: seen) =
            cost adjacency first + unseen adjacency rest (v :: seen) := by
          simp [unseen, old, same]
        have keep : unseen adjacency (first :: rest) seen =
            cost adjacency first + unseen adjacency rest seen := by
          simp [unseen, old]
        omega

/-- The bound on the steps of a search is enough for every root. -/
theorem work_root_le {root : V} (known : root ∈ vertices adjacency) {explored : List V}
    (fresh : root ∉ explored) :
    work adjacency [⟨root, neighbours adjacency root⟩] explored ≤ searchBound adjacency := by
  have first : unseen adjacency (vertices adjacency) (root :: explored) + cost adjacency root =
      unseen adjacency (vertices adjacency) explored :=
    unseen_cons (vertices_nodup adjacency) known fresh
  have most : ∀ part : List V, unseen adjacency part explored ≤
      part.length + (part.flatMap (neighbours adjacency)).length := by
    intro part
    induction part with
    | nil => exact Nat.le_refl 0
    | cons v rest ih =>
      simp only [unseen, List.foldr_cons, List.length_cons, List.flatMap_cons,
        List.length_append, cost] at ih ⊢
      split <;> omega
  have all := most (vertices adjacency)
  have few := length_strays_le adjacency
  rw [flatMap_vertices, vertices, List.length_append, OrderedMap.length_keys] at all
  simp only [work, List.map_cons, List.map_nil, List.foldr_cons, List.foldr_nil,
    List.singleton_append]
  unfold cost at first
  unfold searchBound
  unfold vertices at first ⊢
  omega

/-! ### Search -/

/-- The three moves of the search keep the invariant. -/
theorem Searching.leave {v : V} {stack : List (Frame V)} {explored : List V}
    (valid : Searching adjacency (⟨v, []⟩ :: stack) explored) :
    Searching adjacency stack (v :: explored) := by
  obtain ⟨_, _, tried, below⟩ := valid.pending
  have done : ∀ u, Edge adjacency v u → u ∈ explored := by
    intro u edge
    simpa using tried u edge
  obtain ⟨once, nodup⟩ := List.nodup_cons.mp valid.nodup
  refine ⟨⟨?_, ?_⟩, nodup, ?_, ?_⟩
  · intro w member u edge
    rcases List.mem_cons.mp member with rfl | old
    · exact List.mem_cons_of_mem _ (done u edge)
    · exact List.mem_cons_of_mem _ (valid.settled.closed w old u edge)
  · intro w member
    rcases List.mem_cons.mp member with rfl | old
    · exact ⟨w, fun u edge => valid.settled.founded u (done u edge)⟩
    · exact valid.settled.founded w old
  · intro w member again
    rcases List.mem_cons.mp again with rfl | old
    · exact once member
    · exact valid.fresh w (List.mem_cons_of_mem _ member) old
  · exact (below.mono (List.subset_cons_self v explored)).forget (List.mem_cons_self ..)

private theorem Searching.skip {v next : V} {untried : List V} {stack : List (Frame V)}
    {explored : List V} (valid : Searching adjacency (⟨v, next :: untried⟩ :: stack) explored)
    (known : next ∈ explored) : Searching adjacency (⟨v, untried⟩ :: stack) explored := by
  obtain ⟨up, edges, tried, below⟩ := valid.pending
  refine ⟨valid.settled, valid.nodup, valid.fresh, up, ?_, ?_, below⟩
  · exact fun u member => edges u (List.mem_cons_of_mem _ member)
  · intro u edge
    rcases tried u edge with later | rest
    · exact (List.mem_cons.mp later).elim (fun same => .inr (.inl (same ▸ known))) .inl
    · exact .inr rest

private theorem Searching.enter {v next : V} {untried : List V} {stack : List (Frame V)}
    {explored : List V} (valid : Searching adjacency (⟨v, next :: untried⟩ :: stack) explored)
    (offPath : next ∉ v :: stack.map Frame.vertex) (unknown : next ∉ explored) :
    Searching adjacency (⟨next, neighbours adjacency next⟩ :: ⟨v, untried⟩ :: stack) explored := by
  obtain ⟨_, edges, tried, below⟩ := valid.pending
  refine ⟨valid.settled, List.nodup_cons.mpr ⟨offPath, valid.nodup⟩, ?_, ?_⟩
  · intro w member
    rcases List.mem_cons.mp member with rfl | old
    · exact unknown
    · exact valid.fresh w old
  · refine ⟨by simp, fun u member => member, fun u edge => .inl edge, ?_, ?_, ?_, below⟩
    · intro u same
      exact Option.mem_some.mp same ▸ edges next (List.mem_cons_self ..)
    · exact fun u member => edges u (List.mem_cons_of_mem _ member)
    · intro u edge
      rcases tried u edge with later | explored | none
      · rcases List.mem_cons.mp later with rfl | rest
        · exact .inr (.inr rfl)
        · exact .inl rest
      · exact .inr (.inl explored)
      · cases none

/-- The search as a loop without a bound on its steps, from a stack and what was explored before to what
it comes to. -/
inductive Searches (adjacency : Adjacency V) : List (Frame V) → List V → Search V → Prop where
  | done (explored : List V) : Searches adjacency [] explored (.exhausted explored)
  | leave {v : V} {stack : List (Frame V)} {explored : List V} {result : Search V}
      (more : Searches adjacency stack (v :: explored) result) :
      Searches adjacency (⟨v, []⟩ :: stack) explored result
  | close {v next : V} {untried : List V} {stack : List (Frame V)} {explored : List V}
      (onPath : next ∈ (v :: stack.map Frame.vertex).reverse) :
      Searches adjacency (⟨v, next :: untried⟩ :: stack) explored
        (.cycle ((v :: stack.map Frame.vertex).reverse.dropWhile (· ≠ next)))
  | skip {v next : V} {untried : List V} {stack : List (Frame V)} {explored : List V}
      {result : Search V} (offPath : next ∉ (v :: stack.map Frame.vertex).reverse)
      (known : next ∈ explored) (more : Searches adjacency (⟨v, untried⟩ :: stack) explored result) :
      Searches adjacency (⟨v, next :: untried⟩ :: stack) explored result
  | enter {v next : V} {untried : List V} {stack : List (Frame V)} {explored : List V}
      {result : Search V} (offPath : next ∉ (v :: stack.map Frame.vertex).reverse)
      (unknown : next ∉ explored)
      (more : Searches adjacency (⟨next, neighbours adjacency next⟩ :: ⟨v, untried⟩ :: stack)
        explored result) :
      Searches adjacency (⟨v, next :: untried⟩ :: stack) explored result

/-- Every move leaves less work, so that a search with enough steps comes to its end. -/
theorem search_searches (fuel : Nat) {stack : List (Frame V)} {explored : List V}
    (valid : Searching adjacency stack explored) (enough : work adjacency stack explored ≤ fuel) :
    Searches adjacency stack explored (search adjacency fuel stack explored) := by
  fun_induction search adjacency fuel stack explored with
  | case1 stack explored =>
    cases stack with
    | nil => exact .done explored
    | cons f rest => simp [work] at enough
  | case2 fuel explored => exact .done explored
  | case3 fuel v stack explored ih =>
    have seen : ∀ u, u ∈ v :: stack.map Frame.vertex ++ explored ↔
        u ∈ stack.map Frame.vertex ++ v :: explored := by
      intro u
      simp only [List.cons_append, List.mem_cons, List.mem_append]
      tauto
    refine .leave (ih valid.leave ?_)
    simp only [work, List.map_cons, List.foldr_cons, List.length_nil, unseen_congr seen] at enough
    unfold work
    omega
  | case4 fuel v next untried stack explored path onPath => exact .close onPath
  | case5 fuel v next untried stack explored path offPath known ih =>
    refine .skip offPath known (ih (valid.skip known) ?_)
    simp only [work, List.map_cons, List.foldr_cons, List.length_cons] at enough ⊢
    omega
  | case6 fuel v next untried stack explored path offPath unknown ih =>
    have fresh : next ∉ v :: stack.map Frame.vertex := by
      simpa only [path, List.mem_reverse] using offPath
    obtain ⟨_, edges, _⟩ := valid.pending
    have known := (edges next (List.mem_cons_self ..)).target_mem
    have unvisited : next ∉ v :: stack.map Frame.vertex ++ explored := by
      rw [List.mem_append]
      exact fun either => either.elim fresh unknown
    have drop : unseen adjacency (vertices adjacency)
        (next :: (v :: stack.map Frame.vertex ++ explored)) + cost adjacency next =
          unseen adjacency (vertices adjacency) (v :: stack.map Frame.vertex ++ explored) :=
      unseen_cons (vertices_nodup adjacency) known unvisited
    refine .enter offPath unknown (ih (valid.enter fresh unknown) ?_)
    simp only [work, List.map_cons, List.foldr_cons, List.length_cons, List.cons_append, cost]
      at enough drop ⊢
    omega

/-- What the end of a search means. -/
def Search.Correct (adjacency : Adjacency V) (stack : List (Frame V)) (explored : List V) :
    Search V → Prop
  | .cycle vertices => IsCycle adjacency vertices
  | .exhausted final => Settled adjacency final ∧ explored ⊆ final ∧
      ∀ v ∈ stack.map Frame.vertex, v ∈ final

private theorem Searches.correct {stack : List (Frame V)} {explored : List V} {result : Search V}
    (searches : Searches adjacency stack explored result)
    (valid : Searching adjacency stack explored) : result.Correct adjacency stack explored := by
  induction searches with
  | done explored => exact ⟨valid.settled, List.Subset.refl _, by simp⟩
  | @leave v stack explored result _ ih =>
    have correct := ih valid.leave
    cases result with
    | cycle vertices => exact correct
    | exhausted final =>
      obtain ⟨settled, more, covered⟩ := correct
      refine ⟨settled, fun u member => more (List.mem_cons_of_mem _ member), ?_⟩
      intro u member
      rcases List.mem_cons.mp member with rfl | below
      · exact more (List.mem_cons_self ..)
      · exact covered u below
  | close onPath =>
    obtain ⟨_, edges, _⟩ := valid.pending
    have chain := valid.pending.isChain
    have nodup := List.nodup_reverse.mpr valid.nodup
    simp only [List.map_cons, List.reverse_cons] at chain nodup onPath
    simp only [List.reverse_cons]
    exact isCycle_dropWhile nodup chain (edges _ (List.mem_cons_self ..)) onPath
  | skip _ known _ ih => exact ih (valid.skip known)
  | @enter v next untried stack explored result offPath unknown _ ih =>
    have correct := ih (valid.enter (fun onPath => offPath (List.mem_reverse.mpr onPath)) unknown)
    cases result with
    | cycle vertices => exact correct
    | exhausted final =>
      obtain ⟨settled, more, covered⟩ := correct
      exact ⟨settled, more, fun u member => covered u (List.mem_cons_of_mem _ member)⟩

/-- The search from one root after another, without a bound on its steps. -/
inductive SearchesRoots (adjacency : Adjacency V) : List V → List V → Option (List V) → Prop where
  | done (explored : List V) : SearchesRoots adjacency [] explored none
  | skip {root : V} {rest explored : List V} {answer : Option (List V)} (known : root ∈ explored)
      (more : SearchesRoots adjacency rest explored answer) :
      SearchesRoots adjacency (root :: rest) explored answer
  | found {root : V} {rest explored cycle : List V} (fresh : root ∉ explored)
      (searches : Searches adjacency [⟨root, neighbours adjacency root⟩] explored (.cycle cycle)) :
      SearchesRoots adjacency (root :: rest) explored (some cycle)
  | exhausted {root : V} {rest explored reached : List V} {answer : Option (List V)}
      (fresh : root ∉ explored)
      (searches : Searches adjacency [⟨root, neighbours adjacency root⟩] explored
        (.exhausted reached))
      (more : SearchesRoots adjacency rest reached answer) :
      SearchesRoots adjacency (root :: rest) explored answer

private theorem Searching.root {root : V} {explored : List V} (settled : Settled adjacency explored)
    (fresh : root ∉ explored) :
    Searching adjacency [⟨root, neighbours adjacency root⟩] explored :=
  ⟨settled, by simp, by simpa using fresh, by simp, fun _ member => member,
    fun _ edge => .inl edge, trivial⟩

private theorem searchRoots_searches {roots explored : List V} (inside : roots ⊆ vertices adjacency)
    (settled : Settled adjacency explored) :
    SearchesRoots adjacency roots explored (searchRoots adjacency roots explored) := by
  induction roots generalizing explored with
  | nil => exact .done explored
  | cons root rest ih =>
    obtain ⟨known, others⟩ := List.cons_subset.mp inside
    by_cases old : root ∈ explored
    · rw [searchRoots, if_pos old]
      exact .skip old (ih others settled)
    · have start := Searching.root settled old
      have searches := search_searches _ start (work_root_le known old)
      rw [searchRoots, if_neg old]
      cases outcome : search adjacency (searchBound adjacency)
          [⟨root, neighbours adjacency root⟩] explored with
      | cycle vertices =>
        rw [outcome] at searches
        exact .found old searches
      | exhausted reached =>
        rw [outcome] at searches
        obtain ⟨done, -, -⟩ := searches.correct start
        exact .exhausted old searches (ih others done)

/-- A cycle that comes out of the search is one, and if none does, then all that the roots lead to is
settled. -/
theorem SearchesRoots.correct {roots explored : List V} {answer : Option (List V)}
    (searches : SearchesRoots adjacency roots explored answer)
    (settled : Settled adjacency explored) :
    (∀ cycle ∈ answer, IsCycle adjacency cycle) ∧
      (answer = none → ∃ final, Settled adjacency final ∧ explored ⊆ final ∧ roots ⊆ final) := by
  induction searches with
  | done explored =>
    exact ⟨by simp, fun _ => ⟨explored, settled, List.Subset.refl _, List.nil_subset _⟩⟩
  | skip known _ ih =>
    obtain ⟨found, missed⟩ := ih settled
    refine ⟨found, fun none => ?_⟩
    obtain ⟨final, done, more, covered⟩ := missed none
    exact ⟨final, done, more, List.cons_subset.mpr ⟨more known, covered⟩⟩
  | found fresh searches =>
    refine ⟨fun cycle same => ?_, fun none => nomatch none⟩
    rw [← Option.mem_some.mp same]
    exact searches.correct (Searching.root settled fresh)
  | exhausted fresh searches _ ih =>
    obtain ⟨done, more, covered⟩ := searches.correct (Searching.root settled fresh)
    obtain ⟨found, missed⟩ := ih done
    refine ⟨found, fun none => ?_⟩
    obtain ⟨final, finished, further, coveredRest⟩ := missed none
    exact ⟨final, finished, fun v member => further (more member),
      List.cons_subset.mpr ⟨further (covered _ (by simp)), coveredRest⟩⟩

private theorem settled_nil : Settled adjacency [] :=
  ⟨by simp, by simp⟩

theorem extractCycle_searches (adjacency : Adjacency V) :
    SearchesRoots adjacency adjacency.keys [] (extractCycle adjacency) :=
  searchRoots_searches (List.subset_append_left _ _) settled_nil

/-- The search gives a cycle if there is one, and nothing otherwise. -/
theorem extractCycle_correct (adjacency : Adjacency V) :
    (∀ cycle, extractCycle adjacency = some cycle → IsCycle adjacency cycle) ∧
    (extractCycle adjacency = none → ¬ HasCycle adjacency) := by
  obtain ⟨found, missed⟩ := (extractCycle_searches adjacency).correct settled_nil
  refine ⟨found, fun none => ?_⟩
  rintro ⟨v, back⟩
  obtain ⟨final, settled, _, covered⟩ := missed none
  obtain ⟨_, edge, _⟩ := Relation.TransGen.head'_iff.mp back
  exact not_transGen_self (settled.founded v (covered edge.source_mem))
    (Relation.transGen_swap.mpr back)

end IdlLint.Graph

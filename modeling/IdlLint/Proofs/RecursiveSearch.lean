import IdlLint.Proofs.DepthFirstSearch

/-! The search in depth as a recursion. A vertex is entered by trying its neighbours in turn, with the
path that leads to it at hand; the search along a stack does the same, with one frame for each level of
the recursion. -/
namespace IdlLint.Graph

variable {V : Type} [DecidableEq V]

/-! ### The recursion -/

/-- What was explored before stays explored. -/
def Search.Keeps (explored : List V) : Search V → Prop
  | .cycle _ => True
  | .exhausted final => explored ⊆ final

omit [DecidableEq V] in
private theorem Search.Keeps.mono {explored explored' : List V} (less : explored ⊆ explored')
    {result : Search V} (keeps : result.Keeps explored') : result.Keeps explored := by
  cases result with
  | cycle vertices => trivial
  | exhausted final => exact fun v member => keeps (less member)

/-- The vertices with an entry that are neither on a path nor explored. -/
def unentered (adjacency : Adjacency V) (path explored : List V) : List V :=
  adjacency.keys.filter fun v => v ∉ path ∧ v ∉ explored

private theorem unentered_sublist (adjacency : Adjacency V) {path path' explored explored' : List V}
    (onPath : path ⊆ path') (done : explored ⊆ explored') :
    (unentered adjacency path' explored').Sublist (unentered adjacency path explored) := by
  apply List.monotone_filter_right
  intro v fresh
  simp only [decide_eq_true_eq] at fresh ⊢
  exact ⟨fun member => fresh.1 (onPath member), fun member => fresh.2 (done member)⟩

/-- With a vertex that is entered fewer are left, or it has no neighbours. -/
theorem unentered_enter {adjacency : Adjacency V} {path explored : List V} {next : V}
    (offPath : next ∉ path) (unknown : next ∉ explored) :
    (unentered adjacency (path ++ [next]) explored).length <
        (unentered adjacency path explored).length ∨
      unentered adjacency (path ++ [next]) explored = unentered adjacency path explored ∧
        neighbours adjacency next = [] := by
  have part : (unentered adjacency (path ++ [next]) explored).Sublist
      (unentered adjacency path explored) :=
    unentered_sublist adjacency (List.subset_append_left path [next]) (List.Subset.refl explored)
  by_cases key : next ∈ adjacency.keys
  · left
    have before : next ∈ unentered adjacency path explored := by
      simp [unentered, key, offPath, unknown]
    have after : next ∉ unentered adjacency (path ++ [next]) explored := by
      simp [unentered]
    apply Nat.lt_of_le_of_ne part.length_le
    intro same
    rw [part.eq_of_length same] at after
    exact after before
  · right
    refine ⟨?_, neighbours_of_notMem key⟩
    apply List.filter_congr
    intro v member
    have other : v ≠ next := fun same => key (same ▸ member)
    simp [other]

/-- Tries the neighbours `untried` of the last vertex of `path` in turn. One on the path closes a cycle,
and one that is explored is skipped. Any other is entered; once nothing is left to try there, it is
explored, and the neighbours after it are tried. -/
def explore (adjacency : Adjacency V) (path explored : List V) :
    List V → { result : Search V // result.Keeps explored }
  | [] => ⟨.exhausted explored, List.Subset.refl explored⟩
  | next :: untried =>
    if _ : next ∈ path then ⟨.cycle (path.dropWhile (· ≠ next)), trivial⟩
    else if _ : next ∈ explored then explore adjacency path explored untried
    else
      match explore adjacency (path ++ [next]) explored (neighbours adjacency next) with
      | ⟨.cycle vertices, _⟩ => ⟨.cycle vertices, trivial⟩
      | ⟨.exhausted reached, keeps⟩ =>
        have more : explored ⊆ next :: reached := fun _ member => .tail next (keeps member)
        let rest := explore adjacency path (next :: reached) untried
        ⟨rest, rest.2.mono more⟩
termination_by untried => ((unentered adjacency path explored).length, untried.length)
decreasing_by
  · exact Prod.Lex.right _ (Nat.lt_succ_self _)
  · rcases unentered_enter ‹next ∉ path› ‹next ∉ explored› with fewer | ⟨same, none⟩
    · exact Prod.Lex.left _ _ fewer
    · rw [same, none]
      exact Prod.Lex.right _ (Nat.succ_pos _)
  · have fewer := (unentered_sublist adjacency (List.Subset.refl path) more).length_le
    rcases Nat.lt_or_eq_of_le fewer with less | same
    · exact Prod.Lex.left _ _ less
    · rw [same]
      exact Prod.Lex.right _ (Nat.lt_succ_self _)

variable {adjacency : Adjacency V}

private theorem explore_nil (path explored : List V) :
    (explore adjacency path explored []).1 = .exhausted explored := by
  rw [explore]

/-- The recursion in one equation. -/
theorem explore_cons (path explored : List V) (next : V) (untried : List V) :
    (explore adjacency path explored (next :: untried)).1 =
      if next ∈ path then .cycle (path.dropWhile (· ≠ next))
      else if next ∈ explored then (explore adjacency path explored untried).1
      else
        match (explore adjacency (path ++ [next]) explored (neighbours adjacency next)).1 with
        | .cycle vertices => .cycle vertices
        | .exhausted reached => (explore adjacency path (next :: reached) untried).1 := by
  rw [explore]
  by_cases onPath : next ∈ path
  · simp [onPath]
  · by_cases known : next ∈ explored
    · simp [onPath, known]
    · simp only [onPath, known, dite_false, if_false]
      rcases explore adjacency (path ++ [next]) explored (neighbours adjacency next) with
        ⟨_ | _, _⟩ <;> rfl

/-- Enters one root after another, until a cycle is found. -/
def exploreRoots (adjacency : Adjacency V) : List V → List V → Option (List V)
  | [], _ => none
  | root :: roots, explored =>
    if root ∈ explored then exploreRoots adjacency roots explored
    else
      match (explore adjacency [root] explored (neighbours adjacency root)).1 with
      | .cycle vertices => some vertices
      | .exhausted reached => exploreRoots adjacency roots (root :: reached)

/-- The first cycle that the recursion comes upon. -/
def firstCycle (adjacency : Adjacency V) : Option (List V) :=
  exploreRoots adjacency adjacency.keys []

/-! ### The stack -/

/-- What the search comes to when its top, the vertex `v`, has come to something: a cycle ends it, and
otherwise it goes on with the rest of the stack and `v` explored. -/
def Resumes (adjacency : Adjacency V) (v : V) (stack : List (Frame V)) (result : Search V) :
    Search V → Prop
  | .cycle vertices => result = .cycle vertices
  | .exhausted reached => Searches adjacency stack (v :: reached) result

/-- The search along a stack tries the neighbours of its top as the recursion does, if the stack mirrors
the path. -/
theorem Searches.resumes {path explored untried : List V} {v : V} {stack : List (Frame V)}
    (mirrors : (v :: stack.map Frame.vertex).reverse = path) {result : Search V}
    (searches : Searches adjacency (⟨v, untried⟩ :: stack) explored result) :
    Resumes adjacency v stack result (explore adjacency path explored untried).1 := by
  -- One case for each branch of the recursion; in each the search can make one move only.
  induction path, explored, untried using explore.induct adjacency generalizing v stack with
  | case1 path explored =>
    rw [explore_nil]
    cases searches with
    | leave more => exact more
  | case2 path explored next untried onPath =>
    rw [explore_cons, if_pos onPath]
    rw [← mirrors] at onPath ⊢
    cases searches with
    | close _ => rfl
    | skip offPath _ _ => exact absurd onPath offPath
    | enter offPath _ _ => exact absurd onPath offPath
  | case3 path explored next untried offPath known ih =>
    rw [explore_cons, if_neg offPath, if_pos known]
    cases searches with
    | close onPath => exact absurd (mirrors ▸ onPath) offPath
    | skip _ _ more => exact ih mirrors more
    | enter _ unknown _ => exact absurd known unknown
  | case4 path explored next untried offPath unknown vertices _ found entered =>
    rw [explore_cons, if_neg offPath, if_neg unknown]
    cases searches with
    | close onPath => exact absurd (mirrors ▸ onPath) offPath
    | skip _ known _ => exact absurd known unknown
    | enter _ _ more =>
      have inside := entered (by rw [← mirrors]; simp) more
      rw [found] at inside ⊢
      exact inside
  | case5 path explored next untried offPath unknown reached _ found _ entered left =>
    rw [explore_cons, if_neg offPath, if_neg unknown]
    cases searches with
    | close onPath => exact absurd (mirrors ▸ onPath) offPath
    | skip _ known _ => exact absurd known unknown
    | enter _ _ more =>
      have inside := entered (by rw [← mirrors]; simp) more
      rw [found] at inside ⊢
      exact left mirrors inside

private theorem Searches.root {root : V} {explored : List V} {result : Search V}
    (searches : Searches adjacency [⟨root, neighbours adjacency root⟩] explored result) :
    result = match (explore adjacency [root] explored (neighbours adjacency root)).1 with
      | .cycle vertices => .cycle vertices
      | .exhausted reached => .exhausted (root :: reached) := by
  have mirrors : (root :: ([] : List (Frame V)).map Frame.vertex).reverse = [root] := rfl
  have resumes := searches.resumes mirrors
  cases outcome : (explore adjacency [root] explored (neighbours adjacency root)).1 with
  | cycle vertices =>
    rw [outcome] at resumes
    exact resumes
  | exhausted reached =>
    rw [outcome] at resumes
    cases resumes with
    | done => rfl

private theorem SearchesRoots.eq_exploreRoots {roots explored : List V} {answer : Option (List V)}
    (searches : SearchesRoots adjacency roots explored answer) :
    answer = exploreRoots adjacency roots explored := by
  induction searches with
  | done explored => rfl
  | skip known _ ih => rw [ih, exploreRoots, if_pos known]
  | @found root rest explored cycle fresh searches =>
    have entered := searches.root
    rw [exploreRoots, if_neg fresh]
    cases outcome : (explore adjacency [root] explored (neighbours adjacency root)).1 with
    | cycle vertices =>
      rw [outcome] at entered
      rw [Search.cycle.inj entered]
    | exhausted reached =>
      rw [outcome] at entered
      cases entered
  | @exhausted root rest explored reached answer fresh searches more ih =>
    have entered := searches.root
    rw [exploreRoots, if_neg fresh]
    cases outcome : (explore adjacency [root] explored (neighbours adjacency root)).1 with
    | cycle vertices =>
      rw [outcome] at entered
      cases entered
    | exhausted final =>
      rw [outcome] at entered
      rw [ih, Search.exhausted.inj entered]

/-- The search along a stack gives the cycle that the recursion finds first, and nothing exactly if the
recursion finds nothing. So where not all vertices can be put in order, the answer is the recursion's
first cycle, and it is an error that there is none exactly if the recursion finds none. -/
theorem extractCycle_eq_firstCycle (adjacency : Adjacency V) :
    extractCycle adjacency = firstCycle adjacency ∧
    ∀ (inDegree : OrderedMap V Int) (count : Nat), countSortable adjacency inDegree = .ok count →
      count ≠ adjacency.size →
      (∀ cycle, findCycle adjacency inDegree = .ok (some cycle) ↔ firstCycle adjacency = some cycle) ∧
      (findCycle adjacency inDegree = .error .lost ↔ firstCycle adjacency = none) := by
  have same := (extractCycle_searches adjacency).eq_exploreRoots
  refine ⟨same, ?_⟩
  intro inDegree count counted left
  rw [findCycle, counted]
  simp only [if_neg left]
  rw [same, firstCycle]
  cases exploreRoots adjacency adjacency.keys [] <;> simp

/-- Two vertices on a cycle, one that leads into it past a neighbour without an entry, and one that leads
nowhere. -/
theorem extractCycle_eq_firstCycle_lasso :
    let adjacency : Adjacency Nat := .ofList [(4, []), (1, [9, 4, 2]), (2, [3]), (3, [2])]
    let inDegree : OrderedMap Nat Int := .ofList [(4, 1), (1, 0), (2, 2), (3, 1), (9, 1)]
    countSortable adjacency inDegree = .ok 3 ∧ adjacency.size = 4 ∧
      findCycle adjacency inDegree = .ok (some [2, 3]) ∧ firstCycle adjacency = some [2, 3] := by
  intro adjacency inDegree
  have counted : countSortable adjacency inDegree = .ok 3 := by decide
  have left : 3 ≠ adjacency.size := by decide
  have found : findCycle adjacency inDegree = .ok (some [2, 3]) := by decide
  have recursive := ((extractCycle_eq_firstCycle adjacency).2 inDegree 3 counted left).1 [2, 3]
  exact ⟨counted, rfl, found, recursive.mp found⟩

end IdlLint.Graph

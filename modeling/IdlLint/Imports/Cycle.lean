import IdlLint.Data.OrderedMap

/-! Cycles in finite graphs. A first pass counts the vertices that can be put in order; if some are
left, a search in depth finds a cycle among them. -/
namespace IdlLint.Graph

variable {V : Type} [DecidableEq V]

/-- The neighbours of each vertex, with repetitions, in order. -/
abbrev Adjacency (V : Type) := OrderedMap V (List V)

/-- The neighbours of a vertex; one without an entry has none. -/
def neighbours (adjacency : Adjacency V) (vertex : V) : List V :=
  (adjacency.get? vertex).getD []

/-- Why there is no answer about the cycles of a graph. -/
inductive CycleError (V : Type) where
  /-- A neighbour has no count of incoming edges. -/
  | uncounted (vertex : V)
  /-- Not all vertices could be put in order, but there is no cycle. -/
  | lost
deriving DecidableEq, Repr

/-- Takes away one incoming edge of each of some vertices, and gives those that have none left. -/
def release : List V → OrderedMap V Int → List V →
    Except (CycleError V) (OrderedMap V Int × List V)
  | [], remaining, upcoming => .ok (remaining, upcoming)
  | vertex :: rest, remaining, upcoming =>
    match remaining.get? vertex with
    | none => .error (.uncounted vertex)
    | some count =>
      let upcoming := if count - 1 = 0 then upcoming ++ [vertex] else upcoming
      release rest (remaining.insert vertex (count - 1)) upcoming

/-- Removes the vertices of a generation, and gives the next one. -/
def removeAll (adjacency : Adjacency V) : List V → OrderedMap V Int → List V →
    Except (CycleError V) (OrderedMap V Int × List V)
  | [], remaining, upcoming => .ok (remaining, upcoming)
  | vertex :: rest, remaining, upcoming =>
    match release (neighbours adjacency vertex) remaining upcoming with
    | .error e => .error e
    | .ok (remaining, upcoming) => removeAll adjacency rest remaining upcoming

/-- Removes one generation after another and counts the vertices removed. -/
def removeGenerations (adjacency : Adjacency V) :
    Nat → List V → OrderedMap V Int → Except (CycleError V) Nat
  | _, [], _ => .ok 0
  | 0, _ :: _, _ => .ok 0
  | fuel + 1, vertex :: rest, remaining =>
    match removeAll adjacency (vertex :: rest) remaining [] with
    | .error e => .error e
    | .ok (remaining, upcoming) =>
      match removeGenerations adjacency fuel upcoming remaining with
      | .error e => .error e
      | .ok count => .ok ((vertex :: rest).length + count)

/-- The vertices without incoming edges. -/
def sources (adjacency : Adjacency V) (inDegree : OrderedMap V Int) : List V :=
  adjacency.keys.filter fun vertex => (inDegree.get? vertex).getD 0 = 0

/-- The number of vertices that can be put in order. No vertex is removed twice, so the two maps
bound the number of generations. -/
def countSortable (adjacency : Adjacency V) (inDegree : OrderedMap V Int) :
    Except (CycleError V) Nat :=
  removeGenerations adjacency (adjacency.size + inDegree.size + 1)
    (sources adjacency inDegree) inDegree

/-- A vertex on the way of a search, with the neighbours that were not tried yet. -/
structure Frame (V : Type) where
  vertex : V
  untried : List V

/-- What a search from some vertices comes to. -/
inductive Search (V : Type) where
  | cycle (vertices : List V)
  | exhausted (explored : List V)

/-- Searches in depth along a stack, whose top is its head. Vertices whose neighbours were all tried
are explored and not entered again. -/
def search (adjacency : Adjacency V) : Nat → List (Frame V) → List V → Search V
  | 0, _, explored => .exhausted explored
  | _ + 1, [], explored => .exhausted explored
  | fuel + 1, ⟨vertex, []⟩ :: stack, explored => search adjacency fuel stack (vertex :: explored)
  | fuel + 1, ⟨vertex, next :: untried⟩ :: stack, explored =>
    let path := (vertex :: stack.map Frame.vertex).reverse
    if next ∈ path then .cycle (path.dropWhile (· ≠ next))
    else if next ∈ explored then search adjacency fuel (⟨vertex, untried⟩ :: stack) explored
    else
      search adjacency fuel
        (⟨next, neighbours adjacency next⟩ :: ⟨vertex, untried⟩ :: stack) explored

/-- The steps that a search can take: every vertex is entered once, and every edge tried once. -/
def searchBound (adjacency : Adjacency V) : Nat :=
  adjacency.size + 2 * (adjacency.entries.flatMap Prod.snd).length + 1

/-- Searches from one root after another. -/
def searchRoots (adjacency : Adjacency V) : List V → List V → Option (List V)
  | [], _ => none
  | root :: rest, explored =>
    if root ∈ explored then searchRoots adjacency rest explored
    else
      match search adjacency (searchBound adjacency)
          [⟨root, neighbours adjacency root⟩] explored with
      | .cycle vertices => some vertices
      | .exhausted explored => searchRoots adjacency rest explored

/-- The vertices of one cycle in the order of its edges, if there is a cycle. -/
def extractCycle (adjacency : Adjacency V) : Option (List V) :=
  searchRoots adjacency adjacency.keys []

/-- A cycle, or `none` if all vertices can be put in order. -/
def findCycle (adjacency : Adjacency V) (inDegree : OrderedMap V Int) :
    Except (CycleError V) (Option (List V)) :=
  match countSortable adjacency inDegree with
  | .error e => .error e
  | .ok count =>
    if count = adjacency.size then .ok none
    else
      match extractCycle adjacency with
      | some cycle => .ok (some cycle)
      | none => .error .lost

end IdlLint.Graph

import IdlLint.Imports.Cycle
import IdlLint.Lint.Check

/-! The graph of includes between files. Files are numbered in the order in which they are first
seen, from one on. -/
namespace IdlLint

open IdlLint.Schema

/-- Where a file is included. -/
structure IncludeSite where
  filename : String
  header : Include
deriving DecidableEq, Repr, Inhabited

/-- The includes seen so far. Repeated edges are kept; of the sites of an edge the first is. -/
structure ImportGraph where
  adjacency : OrderedMap Nat (List Nat) := .empty
  inDegree : OrderedMap Nat Int := .empty
  sites : OrderedMap (Nat × Nat) IncludeSite := .empty
  ids : OrderedMap String Nat := .empty
  paths : OrderedMap Nat String := .empty
  /-- Whether the graph has been searched; it must not change after that. -/
  frozen : Bool := false
deriving Inhabited

namespace ImportGraph

/-- The rule about cycles of includes. -/
def ruleId : String := "import.cycle.disallowed"

/-- The number of a file, which gets the next one if it has none. -/
def vertexId (g : ImportGraph) (path : String) : ImportGraph × Nat :=
  match g.ids.get? path with
  | some id => (g, id)
  | none =>
    let id := g.ids.size + 1
    ({ g with ids := g.ids.insert path id, paths := g.paths.insert id path }, id)

/-- Makes a vertex part of the graph. -/
def addVertex (g : ImportGraph) (id : Nat) : ImportGraph :=
  if g.adjacency.contains id then g
  else { g with adjacency := g.adjacency.insert id [], inDegree := g.inDegree.insert id 0 }

/-- Records that one file includes another. The site is named by `filename`, or by the including
file if that is missing or empty. -/
def addEdge (g : ImportGraph) (importer importee : String) (header : Include)
    (filename : Option String) : Except Failure ImportGraph :=
  if g.frozen then .error .frozenGraph
  else
    let (g, source) := g.vertexId importer
    let (g, target) := g.vertexId importee
    let g := (g.addVertex source).addVertex target
    let shown := match filename with
      | some name => if name.isEmpty then importer else name
      | none => importer
    .ok { g with
      inDegree := g.inDegree.insert target ((g.inDegree.get? target).getD 0 + 1)
      adjacency := g.adjacency.insert source (Graph.neighbours g.adjacency source ++ [target])
      sites := g.sites.insertNew (source, target) ⟨shown, header⟩ }

/-- The edges without repetitions, in ascending order. -/
def distinctEdges (g : ImportGraph) : List (Nat × Nat) :=
  g.sites.keys.mergeSort fun a b => decide (a.1 < b.1 ∨ (a.1 = b.1 ∧ a.2 ≤ b.2))

/-- The path of a vertex. -/
def pathOf (g : ImportGraph) (vertex : Nat) : Except Failure String :=
  match g.paths.get? vertex with
  | some path => .ok path
  | none => .error (.unknownVertex vertex)

/-- The finding about the edge from `source` to `target`, which is the one numbered `index` of
`count` in its cycle. -/
def edgeDiagnostic (g : ImportGraph) (index count source target : Nat) :
    Except Failure Diagnostic := do
  match g.sites.get? (source, target) with
  | none => .error (.unknownVertex source)
  | some site =>
    let importer ← g.pathOf source
    let importee ← g.pathOf target
    .ok (.placed site.filename site.header.position ruleId Diagnostic.errorSeverity
      ("circular include (" ++ toString index ++ "/" ++ toString count ++ "): " ++ importer ++
        " -> " ++ importee ++ " (included as \"" ++ site.header.path ++ "\")"))

/-- The findings about the edges between consecutive vertices, the first one numbered `index`. -/
def chainDiagnostics (g : ImportGraph) (count : Nat) : Nat → List Nat →
    Except Failure (List Diagnostic)
  | index, source :: target :: rest => do
    let diagnostic ← g.edgeDiagnostic index count source target
    let more ← g.chainDiagnostics count (index + 1) (target :: rest)
    .ok (diagnostic :: more)
  | _, _ => .ok []

/-- The findings about a cycle, one for each edge, the last of which leads back to the start. -/
def cycleDiagnostics (g : ImportGraph) (cycle : List Nat) : Except Failure (List Diagnostic) :=
  g.chainDiagnostics cycle.length 1 (cycle ++ cycle.take 1)

/-- Freezes the graph and reports one cycle, if there is one. -/
def finalize (g : ImportGraph) : ImportGraph × Except Failure (List Diagnostic) :=
  let g := { g with frozen := true }
  let found := match Graph.findCycle g.adjacency g.inDegree with
    | .error (.uncounted vertex) => .error (.unknownVertex vertex)
    | .error .lost => .error .lostCycle
    | .ok none => .ok []
    | .ok (some cycle) => g.cycleDiagnostics cycle
  (g, found)

/-- Records an include, unless its target cannot be found or either file lies outside the working
directory. -/
def visit (ctx : Context) (header : Include) (g : ImportGraph) : ImportGraph × Option Failure :=
  let w := ctx.file.workspace
  match ctx.file.resolveInclude header.path with
  | .error failure => (g, some failure)
  | .ok none => (g, none)
  | .ok (some target) =>
    match w.relativeName w.cwd (.ofString ctx.file.filename), w.relativeName w.cwd target with
    | .ok importer, .ok importee =>
      match g.addEdge importer importee header (some ctx.file.filename) with
      | .ok g => (g, none)
      | .error failure => (g, some failure)
    | _, _ => (g, none)

/-- The check for cycles of includes, with nothing seen. -/
def watcher : RunCheck ImportGraph where
  ruleId := ruleId
  kinds := [.include]
  visit := fun ctx node g => match node with
    | .include header => visit ctx header g
    | _ => (g, none)
  finalize := finalize
  memory := {}

/-- The check for cycles of includes among other checks. -/
def check : Check ImportGraph := .run watcher

end ImportGraph

end IdlLint

import IdlLint.Lint.Session
import IdlLint.Proofs.CheckDispatch
import IdlLint.Proofs.CycleReport
import IdlLint.Proofs.DocumentWalk
import IdlLint.Proofs.PathName

/-! Cycles of includes in a run over some files. The check for cycles sees every include of every
file that could be read, so the report at the end of the run tells whether the files include one
another in a circle. -/
namespace IdlLint

open IdlLint.Schema

namespace ImportGraph

/-- The check for cycles with what it has seen. -/
def watching (g : ImportGraph) (phase : Phase) : Check ImportGraph :=
  .run { watcher with memory := g, phase := phase }

/-- The edge that an include of a file stands for, if it stands for one. -/
def requestOf (file : FileContext) (header : Include) : Option EdgeRequest :=
  let w := file.workspace
  match file.resolveInclude header.path with
  | .ok (some target) =>
    match w.relativeName w.cwd (.ofString file.filename), w.relativeName w.cwd target with
    | .ok importer, .ok importee => some ⟨importer, importee, header, some file.filename⟩
    | _, _ => none
  | _ => none

/-- The graph of some edges that were asked for in turn. -/
def ofRequests (requests : List EdgeRequest) : GraphHistory :=
  .ofCalls (requests.map .connect)

theorem ofRequests_concat (requests : List EdgeRequest) (request : EdgeRequest) :
    ofRequests (requests ++ [request]) = (ofRequests requests).record (.connect request) := by
  rw [ofRequests, List.map_append, List.map_singleton, GraphHistory.ofCalls_concat]
  rfl

theorem invariant_ofRequests (requests : List EdgeRequest) : (ofRequests requests).Invariant :=
  GraphHistory.invariant_ofCalls _

/-- The check enters the edge of an include, if it has one. -/
theorem visit_graph (h : GraphHistory) (ctx : Context) (header : Include) :
    (visit ctx header h.graph).1 =
      match requestOf ctx.file header with
      | some request => (h.record (.connect request)).graph
      | none => h.graph := by
  unfold visit requestOf
  dsimp only
  cases ctx.file.resolveInclude header.path with
  | error failure => rfl
  | ok found =>
    cases found with
    | none => rfl
    | some target =>
      dsimp only
      cases ctx.file.workspace.relativeName ctx.file.workspace.cwd
          (.ofString ctx.file.filename) with
      | error _ => rfl
      | ok importer =>
        cases ctx.file.workspace.relativeName ctx.file.workspace.cwd target with
        | error _ => rfl
        | ok importee =>
          simp only [GraphHistory.record, EdgeRequest.submit]
          cases h.graph.addEdge importer importee header (some ctx.file.filename) <;> rfl

private theorem visit_ofRequests (requests : List EdgeRequest) (ctx : Context) (header : Include) :
    (visit ctx header (ofRequests requests).graph).1 =
      (ofRequests (requests ++ (requestOf ctx.file header).toList)).graph := by
  rw [visit_graph]
  cases requestOf ctx.file header with
  | none => simp
  | some request => rw [Option.toList_some, ofRequests_concat]

/-- No annotation silences an include, so the check sees it. -/
theorem offer_include (g : ImportGraph) {phase : Phase} (accepting : phase.isClosed = false)
    (file : FileContext) (document : Document) (header : Include) :
    ((watching g phase).offer file [.document document] (.include header)).1 =
      watching (visit ⟨file, ruleId, [.document document]⟩ header g).1 .accumulating := by
  have heard : Suppression.isSuppressed (watching g phase).ruleId
      (Suppression.ofNode (.include header) [.document document]) = false := rfl
  have once : (watching g phase).interest (Node.include header).kind = 1 := rfl
  rw [Check.offer, heard, once]
  simp only [Check.meetTimes, Check.meet, watching, RunCheck.see, accepting]
  rfl

private theorem attend_includes (file : FileContext) (document : Document) (headers : List Include)
    (requests : List EdgeRequest) {phase : Phase} (accepting : phase.isClosed = false) :
    ∃ later, later.isClosed = false ∧
      (watching (ofRequests requests).graph phase).attend file
          (headers.map fun header => ⟨.include header, [.document document]⟩) =
        watching (ofRequests (requests ++ headers.filterMap (requestOf file))).graph later := by
  induction headers generalizing requests phase with
  | nil => exact ⟨phase, accepting, by simp [Check.attend]⟩
  | cons header rest ih =>
    have begun : Phase.accumulating.isClosed = false := rfl
    obtain ⟨later, still, walked⟩ := ih (requests ++ (requestOf file header).toList) begun
    refine ⟨later, still, ?_⟩
    rw [Check.attend, List.map_cons, List.foldl_cons, offer_include _ accepting,
      visit_ofRequests]
    rw [List.append_assoc] at walked
    rw [← Check.attend, walked, List.filterMap_cons]
    cases requestOf file header <;> rfl

/-- A walk through a file adds the edges of its includes to the graph. -/
theorem attend_walk (file : FileContext) (requests : List EdgeRequest) {phase : Phase}
    (accepting : phase.isClosed = false) :
    ∃ later, later.isClosed = false ∧
      (watching (ofRequests requests).graph phase).attend file
          (Schema.walk (.document file.document)) =
        watching (ofRequests
          (requests ++ file.document.includes.filterMap (requestOf file))).graph later := by
  have kinds : ∀ visit : Visit,
      (decide (visit.node.kind ∈ (watching (ofRequests requests).graph phase).kinds)) =
        decide (visit.node.kind = .include) := by
    intro visit
    exact decide_eq_decide.mpr List.mem_singleton
  rw [Check.attend_filter]
  simp only [kinds]
  rw [includes_walk]
  exact attend_includes file file.document file.document.includes requests accepting

private theorem walk_fst (file : FileContext) (nodes : List NodeCheck) (requests : List EdgeRequest)
    {phase : Phase} (accepting : phase.isClosed = false) :
    ∃ later, later.isClosed = false ∧
      (Checks.walk file (nodes.map .node ++ [watching (ofRequests requests).graph phase])).1 =
        nodes.map .node ++ [watching (ofRequests
          (requests ++ file.document.includes.filterMap (requestOf file))).graph later] := by
  obtain ⟨later, still, walked⟩ := attend_walk file requests accepting
  refine ⟨later, still, ?_⟩
  rw [Checks.walk_fst, List.map_append, List.map_map, List.map_singleton, walked]
  congr 1
  apply List.map_congr_left
  intro c _
  exact Check.attend_node ..

/-- During a walk nothing is found under the rule about cycles. -/
theorem walk_others (file : FileContext) {nodes : List NodeCheck}
    (ordinary : ∀ c ∈ nodes, Rules.IsOrdinary c) (g : ImportGraph) (phase : Phase) :
    ∀ d ∈ (Checks.walk file (nodes.map .node ++ [watching g phase])).2.diagnostics,
      d.ruleId ≠ ruleId := by
  have keeps : ∀ check ∈ nodes.map .node ++ [watching g phase], check.Keeps (· ≠ ruleId) := by
    intro check member c same
    subst same
    rcases List.mem_append.mp member with node | last
    · obtain ⟨other, inside, ⟨⟩⟩ := List.mem_map.mp node
      exact ordinary c inside
    · exact nomatch List.mem_singleton.mp last
  exact Checks.walk_keeps file keeps

end ImportGraph

/-- Whether a run ends because a check failed fatally. -/
def Abort.isFatal : Abort → Bool
  | .failure f => f.isFatal
  | _ => false

namespace Session

/-- The edges that the includes of a file stand for. A file without a document has none. -/
def requestsOf (w : Workspace) (directories : List Path) (path : Path) : List EdgeRequest :=
  match parseFile w path with
  | .ok document => document.includes.filterMap
      (ImportGraph.requestOf ⟨path.toString, document, .empty, directories, w⟩)
  | .error _ => []

/-- A session that has seen some edges and can go on. Its last check is the one for cycles. -/
structure Watches (s : Session ImportGraph) (directories : List Path) (nodes : List NodeCheck)
    (requests : List EdgeRequest) : Prop where
  checks : ∃ phase : Phase, phase.isClosed = false ∧
    s.checks = nodes.map .node ++ [ImportGraph.watching (ImportGraph.ofRequests requests).graph phase]
  includeDirs : s.includeDirs = directories
  unfinished : s.finished = false
  others : ∀ d ∈ s.diagnostics, d.ruleId ≠ ImportGraph.ruleId

private theorem firstFile_failure {w : Workspace} {paths : List Path} {failure : Failure}
    (failed : FileContext.firstFile w paths = .error failure) : failure.isFatal = false := by
  induction paths with
  | nil => cases failed
  | cons path rest ih =>
    rw [FileContext.firstFile] at failed
    split at failed
    · cases failed
    · exact ih failed
    · cases failed
      rfl

private theorem loadInclude_abort {w : Workspace} {path : Path}
    {documents : OrderedMap Location (Option Document)} {abort : Abort}
    (failed : (loadInclude w path documents).2 = .error abort) : abort.isFatal = false := by
  unfold loadInclude at failed
  dsimp only at failed
  split at failed
  · cases failed
  · split at failed
    · cases failed
    · cases failed
      rfl
    · cases failed

theorem loadIncludes_abort {w : Workspace} {filename : String} {directories : List Path}
    {headers : List Include} {documents : OrderedMap Location (Option Document)}
    {includes : Includes} {abort : Abort}
    (failed : (loadIncludes w filename directories headers documents includes).2 = .error abort) :
    abort.isFatal = false := by
  induction headers generalizing documents includes with
  | nil => cases failed
  | cons header rest ih =>
    unfold loadIncludes at failed
    split at failed
    · rename_i failure stopped
      cases failed
      exact firstFile_failure stopped
    · exact ih failed
    · split at failed
      · rename_i stopped
        cases failed
        exact loadInclude_abort (congrArg Prod.snd stopped)
      · exact ih failed
      · exact ih failed

/-- Checks of single nodes have nothing to say at the end. -/
theorem conclude_nodes {σ : Type} (nodes : List NodeCheck) (checks : List (Check σ)) :
    conclude (nodes.map .node ++ checks) =
      { conclude checks with checks := nodes.map .node ++ (conclude checks).checks } := by
  induction nodes with
  | nil => rfl
  | cons c rest ih =>
    rw [List.map_cons, List.cons_append, conclude, ih]
    rfl

/-- The check for cycles answers with the report on its graph. -/
theorem conclude_watching {g : ImportGraph} {phase : Phase} (accepting : phase.isClosed = false)
    {found : List Diagnostic} (written : g.finalize.2 = .ok found) :
    (conclude [ImportGraph.watching g phase]).found = ⟨found, []⟩ ∧
      (conclude [ImportGraph.watching g phase]).fatal = none := by
  have report : ImportGraph.watcher.finalize g = (g.finalize.1, .ok found) := Prod.ext rfl written
  simp only [ImportGraph.watching, conclude, RunCheck.conclude, accepting, report]
  exact ⟨congrArg₂ Findings.mk (List.append_nil found) rfl, rfl⟩

/-- Findings of one rule that come after those of others. -/
theorem exists_rule_iff {before found : List Diagnostic} {rule : String}
    (others : ∀ d ∈ before, d.ruleId ≠ rule) (rules : ∀ d ∈ found, d.ruleId = rule) :
    (∃ d ∈ Diagnostic.sort before ++ found, d.ruleId = rule) ↔ found ≠ [] := by
  constructor
  · rintro ⟨d, member, same⟩ empty
    rw [empty, List.append_nil] at member
    exact others d (List.mem_mergeSort.mp member) same
  · intro nonempty
    obtain ⟨d, member⟩ := List.exists_mem_of_ne_nil found nonempty
    exact ⟨d, List.mem_append_right _ member, rules d member⟩

namespace Watches

variable {s : Session ImportGraph} {directories : List Path} {nodes : List NodeCheck}
  {requests : List EdgeRequest}

/-- A file without a document leaves everything but a finding of its own rule. -/
theorem reject (valid : s.Watches directories nodes requests) (path : Path) (position : Position)
    (message : String) :
    (s.reject path position message).1.Watches directories nodes requests := by
  refine ⟨valid.checks, valid.includeDirs, valid.unfinished, ?_⟩
  intro d member
  rcases List.mem_append.mp member with old | new
  · exact valid.others d old
  · rw [List.mem_singleton.mp new]
    change parseRule ≠ ImportGraph.ruleId
    decide

/-- Checking a document adds the edges of its includes. -/
theorem checkDocument (valid : s.Watches directories nodes requests)
    (ordinary : ∀ c ∈ nodes, Rules.IsOrdinary c) (w : Workspace) (path : Path)
    (document : Document) :
    (∀ found, (s.checkDocument w path document).2 = .ok found →
      (s.checkDocument w path document).1.Watches directories nodes
        (requests ++ document.includes.filterMap
          (ImportGraph.requestOf ⟨path.toString, document, .empty, directories, w⟩))) ∧
      (s.checkDocument w path document).2 ≠ .error (.failure .lostCycle) := by
  obtain ⟨phase, accepting, checks⟩ := valid.checks
  unfold Session.checkDocument
  dsimp only
  split
  · rename_i documents abort stopped
    refine ⟨?_, ?_⟩
    · intro found success
      cases success
    · intro same
      have harmless := loadIncludes_abort (congrArg Prod.snd stopped)
      rw [Except.error.inj same] at harmless
      cases harmless
  · rename_i documents includes loaded
    rw [checks, valid.includeDirs]
    let file : FileContext := ⟨path.toString, document, includes, directories, w⟩
    refine ⟨fun found _ => ⟨?_, rfl, valid.unfinished, ?_⟩, by simp⟩
    · exact ImportGraph.walk_fst file nodes requests accepting
    · intro d member
      rcases List.mem_append.mp member with old | new
      · exact valid.others d old
      · exact ImportGraph.walk_others file ordinary _ phase d new

/-- Checking a file adds the edges of its includes, if it has a document. -/
theorem checkFile (valid : s.Watches directories nodes requests)
    (ordinary : ∀ c ∈ nodes, Rules.IsOrdinary c) (w : Workspace) (path : Path) :
    (∀ found, (s.checkFile w path).2 = .ok found →
      (s.checkFile w path).1.Watches directories nodes
        (requests ++ requestsOf w directories path)) ∧
      (s.checkFile w path).2 ≠ .error (.failure .lostCycle) := by
  rw [Session.checkFile, valid.unfinished, requestsOf]
  cases parsed : parseFile w path with
  | ok document => exact valid.checkDocument ordinary w path document
  | error e =>
    rw [List.append_nil]
    cases e with
    | unreadable e =>
      cases e with
      | nullCharacter => simp
      | _ => exact ⟨fun _ _ => valid.reject .., by simp⟩
    | undecodable e => exact ⟨fun _ _ => valid.reject .., by simp⟩
    | parse failure =>
      cases failure with
      | excessiveDigits count => simp
      | rejected e => exact ⟨fun _ _ => valid.reject .., by simp⟩

/-- Asked at the end, the checks report a cycle if the graph has one, and nothing else. -/
theorem conclude (valid : s.Watches directories nodes requests) : ∃ found : List Diagnostic,
    (Session.conclude s.checks).found = ⟨found, []⟩ ∧ (Session.conclude s.checks).fatal = none ∧
      (found = [] ↔ ¬Graph.HasCycle (ImportGraph.ofRequests requests).graph.adjacency) ∧
      ∀ d ∈ found, d.ruleId = ImportGraph.ruleId := by
  obtain ⟨phase, accepting, checks⟩ := valid.checks
  obtain ⟨found, written, acyclic, rules⟩ :=
    GraphHistory.finalize_graph (ImportGraph.invariant_ofRequests requests)
  obtain ⟨answer, fatal⟩ := conclude_watching accepting written
  rw [checks, conclude_nodes]
  exact ⟨found, answer, fatal, acyclic, rules⟩

/-- The end of the run reports a cycle exactly if the graph has one. -/
theorem finish (valid : s.Watches directories nodes requests) :
    ∃ outcome, s.finish.2 = .ok outcome ∧
      ((∃ d ∈ outcome.diagnostics, d.ruleId = ImportGraph.ruleId) ↔
        Graph.HasCycle (ImportGraph.ofRequests requests).graph.adjacency) := by
  obtain ⟨found, answer, fatal, acyclic, rules⟩ := valid.conclude
  have ended : ∃ outcome, s.finish.2 = .ok outcome ∧
      outcome.diagnostics = Diagnostic.sort s.diagnostics ++ found := by
    rw [Session.finish, valid.unfinished]
    simp only [answer, fatal]
    exact ⟨_, rfl, rfl⟩
  obtain ⟨outcome, success, same⟩ := ended
  refine ⟨outcome, success, ?_⟩
  rw [same, exists_rule_iff valid.others rules, Ne, acyclic, not_not]

/-- A run reports a cycle exactly if the edges of all its files make one. -/
theorem run (valid : s.Watches directories nodes requests)
    (ordinary : ∀ c ∈ nodes, Rules.IsOrdinary c) (w : Workspace) (files : List Path) :
    (s.run w files).2 ≠ .error (.failure .lostCycle) ∧
      ∀ outcome, (s.run w files).2 = .ok outcome →
        ((∃ d ∈ outcome.diagnostics, d.ruleId = ImportGraph.ruleId) ↔
          Graph.HasCycle (ImportGraph.ofRequests
            (requests ++ files.flatMap (requestsOf w directories))).graph.adjacency) := by
  induction files generalizing s requests with
  | nil =>
    obtain ⟨outcome, success, cycles⟩ := valid.finish
    rw [Session.run, success, List.flatMap_nil, List.append_nil]
    refine ⟨by simp, ?_⟩
    rintro other ⟨⟩
    exact cycles
  | cons path rest ih =>
    obtain ⟨kept, never⟩ := valid.checkFile ordinary w path
    rw [Session.run]
    cases checked : s.checkFile w path with
    | mk next answer =>
      rw [checked] at kept never
      cases answer with
      | error abort => exact ⟨by simpa using never, by simp⟩
      | ok found =>
        rw [List.flatMap_cons, ← List.append_assoc]
        exact ih (kept found rfl)

end Watches

end Session

end IdlLint

import IdlLint.Proofs.CycleChain
import IdlLint.Proofs.FindingWords

/-! Where the words of a report come from. Whatever a run reports repeats the name of a listed file, and
beyond that only four kinds of texts that are not on one line by themselves: the paths of includes, the
names of packages, the patterns for them, and the names of files that include one another. -/
namespace IdlLint

open IdlLint.Config
open IdlLint.Schema

/-! ### Walks -/

namespace Findings

/-- Something holds of all findings and of all faults. -/
structure Each (P : Diagnostic → Prop) (found : Findings) : Prop where
  diagnostics : ∀ d ∈ found.diagnostics, P d
  faults : ∀ d ∈ found.faults, P d

variable {P : Diagnostic → Prop} {a b : Findings}

private theorem each_empty : Each P {} :=
  ⟨List.forall_mem_nil _, List.forall_mem_nil _⟩

private theorem Each.append (first : a.Each P) (second : b.Each P) : (a ++ b).Each P :=
  ⟨List.forall_mem_append.mpr ⟨first.diagnostics, second.diagnostics⟩,
    List.forall_mem_append.mpr ⟨first.faults, second.faults⟩⟩

private theorem each_foldr {all : List Findings} (each : ∀ found ∈ all, found.Each P) :
    (all.foldr Findings.append {}).Each P := by
  induction all with
  | nil => exact each_empty
  | cons found rest ih =>
    obtain ⟨here, later⟩ := List.forall_mem_cons.mp each
    exact here.append (ih later)

end Findings

/-- Shown a node once, a check of single nodes leaves its findings, or a fault if it fails. -/
theorem Check.each_meet_node {σ : Type} {P : Diagnostic → Prop} {file : FileContext}
    {parents : List Node} {node : Node} {c : NodeCheck}
    (found : ∀ answer, c.run ⟨file, c.ruleId, parents⟩ node = .ok answer → ∀ d ∈ answer, P d)
    (failed : ∀ failure, c.run ⟨file, c.ruleId, parents⟩ node = .error failure →
      P (.placed file.filename node.position c.ruleId Diagnostic.errorSeverity
        (faultMessage failure))) :
    (Check.meet file parents node (.node c : Check σ)).2.Each P := by
  simp only [Check.meet, Check.ruleId]
  split
  · rename_i answer ran
    exact ⟨found answer ran, List.forall_mem_nil _⟩
  · rename_i failure ran
    exact ⟨List.forall_mem_nil _, List.forall_mem_singleton.mpr (failed failure ran)⟩

/-- A check in one of the states `I` says only what `P` allows when it is shown the node, and stays in
these states. -/
def Upholds {σ : Type} (I : Check σ → Prop) (P : Diagnostic → Prop) (file : FileContext)
    (visit : Visit) : Prop :=
  ∀ check, I check → visit.node.kind ∈ check.kinds →
    I (check.meet file visit.parents visit.node).1 ∧
      (check.meet file visit.parents visit.node).2.Each P

namespace Upholds

variable {σ : Type} {I : Check σ → Prop} {P : Diagnostic → Prop} {file : FileContext}
  {visit : Visit}

private theorem meetTimes (upholds : Upholds I P file visit) {check : Check σ} (valid : I check)
    (asked : visit.node.kind ∈ check.kinds) (n : Nat) :
    I (check.meetTimes file visit.parents visit.node n).1 ∧
      (check.meetTimes file visit.parents visit.node n).2.Each P := by
  induction n generalizing check with
  | zero => exact ⟨valid, Findings.each_empty⟩
  | succ n ih =>
    obtain ⟨still, first⟩ := upholds check valid asked
    obtain ⟨last, more⟩ := ih still (by rwa [Check.kinds_meet])
    exact ⟨last, first.append more⟩

private theorem offer (upholds : Upholds I P file visit) {check : Check σ} (valid : I check) :
    I (check.offer file visit.parents visit.node).1 ∧
      (check.offer file visit.parents visit.node).2.Each P := by
  by_cases asked : visit.node.kind ∈ check.kinds
  · unfold Check.offer
    split
    · exact ⟨valid, Findings.each_empty⟩
    · exact upholds.meetTimes valid asked _
  · rw [Check.offer_of_notMem file visit.parents asked]
    exact ⟨valid, Findings.each_empty⟩

private theorem dispatch (upholds : Upholds I P file visit) {checks : List (Check σ)}
    (valid : ∀ check ∈ checks, I check) :
    (∀ check ∈ (Checks.dispatch file visit checks).1, I check) ∧
      (Checks.dispatch file visit checks).2.Each P := by
  induction checks with
  | nil => exact ⟨List.forall_mem_nil _, Findings.each_empty⟩
  | cons check rest ih =>
    obtain ⟨here, later⟩ := List.forall_mem_cons.mp valid
    obtain ⟨still, first⟩ := upholds.offer here
    obtain ⟨others, more⟩ := ih later
    exact ⟨List.forall_mem_cons.mpr ⟨still, others⟩, first.append more⟩

private theorem dispatchAll {visits : List Visit} (upholds : ∀ visit ∈ visits, Upholds I P file visit)
    {checks : List (Check σ)} (valid : ∀ check ∈ checks, I check) :
    ∀ result ∈ (Checks.dispatchAll file visits checks).2, result.2.Each P := by
  induction visits generalizing checks with
  | nil => exact List.forall_mem_nil _
  | cons visit rest ih =>
    obtain ⟨here, later⟩ := List.forall_mem_cons.mp upholds
    obtain ⟨still, first⟩ := here.dispatch valid
    exact List.forall_mem_cons.mpr ⟨first, ih later still⟩

/-- What holds of the answers at each node holds of all that a walk finds. -/
theorem walk (upholds : ∀ visit ∈ Schema.walk (.document file.document), Upholds I P file visit)
    {checks : List (Check σ)} (valid : ∀ check ∈ checks, I check) :
    (Checks.walk file checks).2.Each P := by
  refine Findings.each_foldr fun found member => ?_
  obtain ⟨result, dispatched, rfl⟩ := List.mem_map.mp member
  exact dispatchAll upholds valid result dispatched

end Upholds

/-! ### Origins -/

/-- The texts from outside that a finding of a run repeats as they are. -/
inductive Repeats (w : Workspace) (settings : Settings) (directories files : List Path) :
    Diagnostic → List String → Prop where
  /-- Most findings and all faults say on one line what they have to say, after the name of the
  file. -/
  | plain {path : Path} (listed : path ∈ files) (position : Position)
      {ruleId severity message : String} (rule : lineFeeds ruleId = 0)
      (grade : lineFeeds severity = 0) (words : lineFeeds message = 0) :
      Repeats w settings directories files
        (.placed path.toString position ruleId severity message) [path.toString]
  /-- An include that is forbidden is told by its path. -/
  | restricted {path : Path} (listed : path ∈ files) {document : Document}
      (parsed : parseFile w path = .ok document) {header : Include}
      (present : header ∈ document.includes) :
      Repeats w settings directories files
        (.placed path.toString header.position "include.restricted" Diagnostic.errorSeverity
          ("\"" ++ header.path ++ "\" is a restricted import"))
        [path.toString, header.path]
  /-- A package name that does not fit a pattern is told with the pattern. -/
  | mismatched {path : Path} (listed : path ∈ files) {document : Document}
      (parsed : parseFile w path = .ok document) {scope : Scope}
      (present : .scope scope ∈ document.headers) {pattern : PatternRule}
      (known : pattern ∈ settings.namespacePatterns) :
      Repeats w settings directories files
        (.placed path.toString scope.position "namespace.patterns" Diagnostic.errorSeverity
          (Rules.patternMessage scope pattern))
        [path.toString, scope.name, pattern.pattern]
  /-- An include on a cycle is told by the names of both files and its path. -/
  | circular {request : EdgeRequest} (asked : request ∈ files.flatMap (Session.requestsOf w directories))
      (index count : Nat) :
      Repeats w settings directories files (request.finding index count)
        [request.site.filename, request.importer, request.importee, request.header.path]

/-- A finding that comes about in one of these ways. -/
def Originates (w : Workspace) (settings : Settings) (directories files : List Path)
    (d : Diagnostic) : Prop :=
  ∃ texts, Repeats w settings directories files d texts

variable {w : Workspace} {settings : Settings} {directories files : List Path}

/-! ### Single files -/

/-- A check of the linter that can be shown further nodes. -/
inductive Rules.Ready (settings : Settings) : Check ImportGraph → Prop where
  | node {c : NodeCheck} (rule : lineFeeds c.ruleId = 0) (speaks : Speaks settings c) :
      Ready settings (.node c)
  | watching {g : ImportGraph} {phase : Phase} (thawed : g.frozen = false)
      (accepting : phase.isClosed = false) : Ready settings (ImportGraph.watching g phase)

private theorem Rules.ready_enabled (settings : Settings) :
    ∀ check ∈ Rules.enabled settings, Ready settings check := by
  obtain ⟨nodes, same, speak⟩ := speaks_all settings
  intro check member
  have listed := (List.mem_filter.mp member).1
  rw [same] at listed
  rcases List.mem_append.mp listed with node | last
  · obtain ⟨c, known, rfl⟩ := List.mem_map.mp node
    exact .node (speak c known).1 (speak c known).2
  · rw [List.mem_singleton.mp last]
    exact .watching rfl rfl

section File

variable {path : Path} {document : Document}

/-- A walk meets the document, its headers, and what stands in or below a definition. -/
theorem walk_cases {visit : Visit} (member : visit ∈ Schema.walk (.document document)) :
    visit.node = .document document ∨ (∃ header ∈ document.headers, visit.node = header.toNode) ∨
      visit.node.isInner = true := by
  refine Visit.drain_invariant (P := fun node => node = .document document ∨
    (∃ header ∈ document.headers, node = header.toNode) ∨ node.isInner = true) ?_ _ ?_ visit member
  · rintro node (rfl | ⟨header, -, rfl⟩ | inner) child below
    · rcases List.mem_append.mp below with first | second
      · obtain ⟨header, listed, rfl⟩ := List.mem_map.mp first
        exact .inr (.inl ⟨header, listed, rfl⟩)
      · obtain ⟨definition, -, rfl⟩ := List.mem_map.mp second
        exact .inr (.inr (Node.isInner_definition definition))
    · rw [Node.children_header] at below
      cases below
    · exact .inr (.inr (Node.isInner_children node inner child below))
  · intro first alone
    rw [List.mem_singleton.mp alone]
    exact .inl rfl

/-- A walk meets every header. -/
theorem exists_visit_header {header : Header} (present : header ∈ document.headers) :
    ∃ visit ∈ Schema.walk (.document document), visit.node = header.toNode := by
  have child : header.toNode ∈ (Node.document document).children :=
    List.mem_append_left _ (List.mem_map_of_mem present)
  have inside : header.toNode ∈ (Node.document document).within :=
    Node.mem_within_iff.mpr (.inr (List.mem_flatMap.mpr ⟨_, child, Node.mem_within_self _⟩))
  exact List.mem_map.mp inside

private theorem include_of_walk {visit : Visit} (member : visit ∈ Schema.walk (.document document))
    {header : Include} (shown : visit.node = .include header) : header ∈ document.includes := by
  rcases walk_cases member with top | ⟨other, listed, same⟩ | inner
  · cases shown.symm.trans top
  · refine List.mem_filterMap.mpr ⟨other, listed, ?_⟩
    cases other <;> cases shown.symm.trans same
    rfl
  · rw [shown] at inner
    cases inner

private theorem scope_of_walk {visit : Visit} (member : visit ∈ Schema.walk (.document document))
    {scope : Scope} (shown : visit.node = .scope scope) : .scope scope ∈ document.headers := by
  rcases walk_cases member with top | ⟨other, listed, same⟩ | inner
  · cases shown.symm.trans top
  · cases other <;> cases shown.symm.trans same
    exact listed
  · rw [shown] at inner
    cases inner

/-- What a check of single nodes says in a listed file. -/
theorem originates_of_says (listed : path ∈ files) (parsed : parseFile w path = .ok document)
    {includes : Includes} {visit : Visit} (member : visit ∈ Schema.walk (.document document))
    {rule : String} (plain : lineFeeds rule = 0) {d : Diagnostic}
    (said : Rules.Says settings ⟨⟨path.toString, document, includes, directories, w⟩, rule, visit.parents⟩
      visit.node d) : Originates w settings directories files d := by
  generalize shown : visit.node = node at said
  cases said with
  | plain position grade words => exact ⟨_, .plain listed position plain grade words⟩
  | restricted header known =>
    obtain rfl : rule = "include.restricted" := known
    exact ⟨_, .restricted listed parsed (include_of_walk member shown)⟩
  | mismatched scope pattern known =>
    obtain rfl : rule = "namespace.patterns" := known
    exact ⟨_, .mismatched listed parsed (scope_of_walk member shown) pattern⟩

/-- The check for cycles fails only where a path is too long, which the system tells. -/
theorem lineFeeds_visit {g : ImportGraph} (thawed : g.frozen = false) (ctx : Context) (node : Node) :
    ∀ failure ∈ (ImportGraph.watcher.visit ctx node g).2, lineFeeds failure.message = 0 := by
  cases node with
  | «include» header =>
    intro failure failed
    have reason := (ImportGraph.visit_thawed thawed ctx header).2
    change failure ∈ (ImportGraph.visit ctx header g).2 at failed
    rw [reason] at failed
    cases resolved : ctx.file.resolveInclude header.path with
    | ok found =>
      rw [resolved] at failed
      cases failed
    | error other =>
      rw [resolved] at failed
      obtain rfl := Option.some.inj failed
      obtain ⟨target, -, rfl⟩ := firstFile_error resolved
      exact lineFeeds_pathError .nameTooLong target
  | _ => exact fun failure failed => nomatch failed

private theorem lineFeeds_faultMessage {failure : Failure} (told : lineFeeds failure.message = 0) :
    lineFeeds (faultMessage failure) = 0 :=
  lineFeeds_joined (lineFeeds_literal rfl) told

/-- One node of a listed file: what the checks say there, and why they fail. -/
theorem upholds_originates (listed : path ∈ files) (parsed : parseFile w path = .ok document)
    (includes : Includes) {visit : Visit} (member : visit ∈ Schema.walk (.document document))
    (words : ∀ word ∈ visit.node.words, lineFeeds word = 0) :
    Upholds (Rules.Ready settings) (Originates w settings directories files)
      ⟨path.toString, document, includes, directories, w⟩ visit := by
  intro check ready asked
  cases ready with
  | @node c rule speaks =>
    rw [Check.meet_node]
    have answered := speaks ⟨⟨path.toString, document, includes, directories, w⟩, c.ruleId,
      visit.parents⟩ visit.node rfl asked words
    refine ⟨.node rule speaks, Check.each_meet_node ?_ ?_⟩
    · intro answer ran d found
      rw [ran] at answered
      exact originates_of_says listed parsed member rule (answered d found)
    · intro failure ran
      rw [ran] at answered
      exact ⟨_, .plain listed _ rule (lineFeeds_literal rfl) (lineFeeds_faultMessage answered)⟩
  | @watching g phase thawed accepting =>
    let ctx : Context :=
      ⟨⟨path.toString, document, includes, directories, w⟩, ImportGraph.ruleId, visit.parents⟩
    have told := lineFeeds_visit thawed ctx visit.node
    rw [ImportGraph.meet_watching accepting]
    refine ⟨.watching (ImportGraph.watcher_visit thawed thawed ctx visit.node).1 rfl,
      List.forall_mem_nil _, ?_⟩
    intro d fault
    obtain ⟨failure, failed, rfl⟩ := List.mem_map.mp fault
    have plain := lineFeeds_faultMessage (told failure (Option.mem_toList.mp failed))
    exact ⟨_, .plain listed _ (lineFeeds_literal rfl) (lineFeeds_literal rfl) plain⟩

/-- The words of a document that is read from a file stand on one line each. -/
theorem words_of_parseFile (parsed : parseFile w path = .ok document) :
    ∀ visit ∈ Schema.walk (.document document), ∀ word ∈ visit.node.words, lineFeeds word = 0 := by
  unfold parseFile at parsed
  split at parsed
  · cases parsed
  · split at parsed
    · cases parsed
    · split at parsed
      · cases parsed
      · rename_i read
        cases parsed
        intro visit member word listed
        exact lineFeeds_eq_zero_iff.mpr (words_of_parse read visit member word listed)

private theorem originates_reject (listed : path ∈ files) (position : Position) {message : String}
    (words : lineFeeds message = 0) (checks : List (Check ImportGraph)) :
    let s : Session ImportGraph := { checks := checks, includeDirs := directories }
    ∀ d ∈ (s.reject path position message).1.diagnostics ++ (s.reject path position message).1.faults,
      Originates w settings directories files d := by
  intro s d member
  obtain rfl : d = .placed path.toString position Session.parseRule Diagnostic.errorSeverity message := by
    simpa [s, Session.reject] using member
  exact ⟨_, .plain listed position (lineFeeds_literal rfl) (lineFeeds_literal rfl) words⟩

/-- A listed file without a document is told on one line: what stands in it is quoted. -/
theorem originates_unread (listed : path ∈ files) {e : FileError}
    (failed : parseFile w path = .error e) (checks : List (Check ImportGraph)) :
    let only := Session.alone w checks directories path
    ∀ d ∈ only.1.diagnostics ++ only.1.faults, Originates w settings directories files d := by
  intro only
  have unread : ∀ {text : String}, lineFeeds text = 0 → lineFeeds ("cannot read file: " ++ text) = 0 :=
    fun plain => lineFeeds_joined (lineFeeds_literal rfl) plain
  simp only [only, Session.alone, Session.checkFile, failed]
  cases e with
  | unreadable e =>
    cases e with
    | nullCharacter => exact List.forall_mem_nil _
    | _ => exact originates_reject listed _ (unread (lineFeeds_pathError _ path)) checks
  | undecodable e => exact originates_reject listed _ (unread (Text.lineFeeds_decodeError e)) checks
  | parse failure =>
    cases failure with
    | excessiveDigits count => exact List.forall_mem_nil _
    | rejected e => exact originates_reject listed _ (Problem.lineFeeds_message e.problem) checks

/-- What is found in a listed file by itself. -/
theorem originates_alone (listed : path ∈ files) :
    let only := Session.alone w (Rules.enabled settings) directories path
    ∀ d ∈ only.1.diagnostics ++ only.1.faults, Originates w settings directories files d := by
  intro only
  cases parsed : parseFile w path with
  | error e => exact originates_unread listed parsed (Rules.enabled settings)
  | ok document =>
    let start : Session ImportGraph :=
      { checks := Rules.enabled settings, includeDirs := directories }
    obtain ⟨documents, checked⟩ :=
      Session.checkFile_of_faithful (s := start) rfl (Session.faithful_empty w) parsed
    change only = _ at checked
    cases made : Session.includeMap ⟨path.toString, document, .empty, directories, w⟩
        (fun _ => none) document.includes with
    | error abort =>
      rw [checked, made]
      exact List.forall_mem_nil _
    | ok includes =>
      rw [checked, made]
      have words := words_of_parseFile parsed
      let file : FileContext := ⟨path.toString, document, includes, directories, w⟩
      have each : (Checks.walk file (Rules.enabled settings)).2.Each
          (Originates w settings directories files) :=
        Upholds.walk
          (fun visit member => upholds_originates listed parsed includes member (words visit member))
          (Rules.ready_enabled settings)
      exact List.forall_mem_append.mpr ⟨each.diagnostics, each.faults⟩

end File

/-! ### Cycles -/

/-- The report on a graph is about edges that the graph took. -/
theorem GraphHistory.Invariant.finding_of_finalize {h : GraphHistory} (valid : h.Invariant)
    {found : List Diagnostic} (written : h.graph.finalize.2 = .ok found) :
    ∀ d ∈ found, ∃ request ∈ h.accepted, ∃ index count, d = request.finding index count := by
  intro d member
  obtain ⟨answer, success, -, cyclic⟩ := Graph.findCycle_correct valid.recorded.balanced
  simp only [ImportGraph.finalize, success] at written
  cases answer with
  | none =>
    cases written
    cases member
  | some cycle =>
    have closed : Graph.IsCycle h.graph.adjacency cycle := cyclic cycle rfl
    -- The graph is frozen before it is searched, which changes none of its maps.
    have frozen : (h.record .finalize).Invariant := invariant_record valid .finalize
    obtain ⟨others, same, size, each⟩ := frozen.cycleDiagnostics closed
    obtain rfl : found = others := Except.ok.inj (written.symm.trans same)
    obtain ⟨i, here⟩ := List.mem_iff_getElem?.mp member
    have inside : i < cycle.length := size ▸ (List.getElem?_eq_some_iff.mp here).1
    have next : (i + 1) % cycle.length < cycle.length := Nat.mod_lt _ (by omega)
    have long : ((h.record .finalize).pathsOf cycle).length = cycle.length := List.length_map ..
    obtain ⟨first, earliest, reported⟩ := each i _ _
      (List.getElem?_eq_getElem (long.symm ▸ inside)) (List.getElem?_eq_getElem (long.symm ▸ next))
    rw [here, Option.some.injEq] at reported
    exact ⟨first, List.mem_of_find?_eq_some earliest, _, _, reported⟩

namespace Session

private theorem Watches.finding_of_conclude {s : Session ImportGraph} {nodes : List NodeCheck}
    {requests : List EdgeRequest} (valid : s.Watches directories nodes requests) :
    ∀ d ∈ (Session.conclude s.checks).found.diagnostics,
      ∃ request ∈ requests, ∃ index count, d = request.finding index count := by
  obtain ⟨phase, accepting, checks⟩ := valid.checks
  have invariant := ImportGraph.invariant_ofRequests requests
  obtain ⟨found, written, -⟩ := GraphHistory.finalize_graph invariant
  obtain ⟨answer, -⟩ := conclude_watching accepting written
  rw [checks, conclude_nodes]
  change ∀ d ∈ (Session.conclude _).found.diagnostics, _
  rw [answer]
  intro d member
  obtain ⟨request, accepted, told⟩ := invariant.finding_of_finalize written d member
  rw [ImportGraph.accepted_ofRequests] at accepted
  exact ⟨request, accepted, told⟩

/-- What the checks of the whole run answer is about includes of the listed files. -/
theorem originates_conclude (w : Workspace) (settings : Settings) (directories files : List Path)
    (passed : (checkFiles w files
      { checks := Rules.enabled settings, includeDirs := directories }).2 = none) :
    ∀ d ∈ (conclude (checkFiles w files
        { checks := Rules.enabled settings, includeDirs := directories }).1.checks).found.diagnostics,
      Originates w settings directories files d := by
  obtain ⟨nodes, watches, ordinary⟩ := watches_all settings directories
  let keep := Rules.reported settings
  let all : Session ImportGraph := { checks := Rules.all settings, includeDirs := directories }
  have start : { checks := Rules.enabled settings, includeDirs := directories } =
      all.restrict keep := by
    rw [Rules.enabled_eq_restrict]
    rfl
  have kept : keep parseRule = true := by simp [keep, Rules.reported]
  obtain ⟨checked, own⟩ := checkFiles_restrict kept w files (s := all) (Rules.own_all settings)
  rw [start, checked] at passed ⊢
  have last := watches.checkFiles ordinary w files passed
  obtain ⟨_, -, fatal, -⟩ := last.conclude
  have ended := conclude_restrict keep own fatal
  intro d member
  change d ∈ (conclude (Checks.restrict keep (all.checkFiles w files).1.checks)).found.diagnostics
    at member
  rw [ended] at member
  obtain ⟨request, asked, index, count, rfl⟩ :=
    last.finding_of_conclude d (List.mem_filter.mp member).1
  exact ⟨_, .circular asked index count⟩

/-- Everything that a run of the linter reports comes about in one of these ways. -/
theorem originates_run (w : Workspace) (settings : Settings) (directories files : List Path)
    {outcome : Outcome}
    (ended : (run w files { checks := Rules.enabled settings, includeDirs := directories }).2 =
      .ok outcome) :
    ∀ d ∈ outcome.diagnostics ++ outcome.faults, Originates w settings directories files d := by
  obtain ⟨diagnostics, faults, -, -⟩ := (run_alone w settings directories files).2 outcome ended
  have passed : (checkFiles w files
      { checks := Rules.enabled settings, includeDirs := directories }).2 = none := by
    rw [run_eq] at ended
    split at ended
    · cases ended
    · rename_i checked
      rw [checked]
  let only := alone w (Rules.enabled settings) directories
  have single : ∀ path ∈ files,
      (∀ d ∈ (only path).1.diagnostics, Originates w settings directories files d) ∧
        ∀ d ∈ (only path).1.faults, Originates w settings directories files d :=
    fun path listed => List.forall_mem_append.mp (originates_alone listed)
  rw [diagnostics, faults]
  refine List.forall_mem_append.mpr ⟨List.forall_mem_append.mpr ⟨?_, ?_⟩, ?_⟩
  · intro d member
    obtain ⟨path, listed, found⟩ := List.mem_flatMap.mp (List.mem_mergeSort.mp member)
    exact (single path listed).1 d found
  · exact originates_conclude w settings directories files passed
  · intro d member
    obtain ⟨path, listed, found⟩ := List.mem_flatMap.mp member
    exact (single path listed).2 d found

end Session

theorem originates_lint {includeDirs : Option (List Path)} {paths : List Path} {report : Report}
    (ended : lint w settings includeDirs paths = .ok report) :
    ∃ files, collectFiles w paths = .ok files ∧ ∀ d ∈ report.entries,
      Originates w settings (includeDirs.getD (settings.includes.map .ofString)) files d := by
  unfold lint at ended
  dsimp only at ended
  split at ended
  · cases ended
  · rename_i files collected
    split at ended
    · cases ended
    · rename_i outcome returned
      cases ended
      exact ⟨files, collected, Session.originates_run w settings _ files returned⟩

end IdlLint

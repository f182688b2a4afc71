import IdlLint.Proofs.CheckIndependence
import IdlLint.Proofs.IncludeCache

/-! Files do not touch one another. What a run finds in a file is what it would find there if it
were the only one, so the order of the files shows nowhere but in the report on a cycle. -/
namespace IdlLint

open IdlLint.Config
open IdlLint.Schema

namespace ImportGraph

/-- Two states of one check that show no difference before the check is asked for its answer. -/
inductive Alike : Check ImportGraph → Check ImportGraph → Prop where
  | node (c : NodeCheck) : Alike (.node c) (.node c)
  | watching {one two : ImportGraph} {early late : Phase}
      (first : one.frozen = false ∧ early.isClosed = false)
      (second : two.frozen = false ∧ late.isClosed = false) :
      Alike (watching one early) (watching two late)

/-- As long as the graph takes edges, the check fails only at includes that cannot be looked up. -/
theorem visit_thawed {g : ImportGraph} (thawed : g.frozen = false) (ctx : Context)
    (header : Include) :
    (visit ctx header g).1.frozen = false ∧
      (visit ctx header g).2 = match ctx.file.resolveInclude header.path with
        | .error failure => some failure
        | .ok _ => none := by
  unfold visit
  dsimp only
  cases ctx.file.resolveInclude header.path with
  | error failure => exact ⟨thawed, rfl⟩
  | ok found =>
    cases found with
    | none => exact ⟨thawed, rfl⟩
    | some target =>
      dsimp only
      split
      · rename_i importer importee _ _
        have added :=
          EdgeRequest.submit_ok ⟨importer, importee, header, some ctx.file.filename⟩ thawed
        rw [EdgeRequest.submit] at added
        rw [added]
        exact ⟨by simp [thawed], rfl⟩
      · exact ⟨thawed, rfl⟩

theorem watcher_visit {one two : ImportGraph} (first : one.frozen = false)
    (second : two.frozen = false) (ctx : Context) (node : Node) :
    (watcher.visit ctx node one).1.frozen = false ∧
      (watcher.visit ctx node one).2 = (watcher.visit ctx node two).2 := by
  unfold watcher
  dsimp only
  split
  · rename_i header
    exact ⟨(visit_thawed first ctx header).1,
      (visit_thawed first ctx header).2.trans (visit_thawed second ctx header).2.symm⟩
  · exact ⟨first, rfl⟩

theorem meet_watching {g : ImportGraph} {phase : Phase} (accepting : phase.isClosed = false)
    (file : FileContext) (parents : List Node) (node : Node) :
    let ctx : Context := ⟨file, ruleId, parents⟩
    let seen := watcher.visit ctx node g
    (watching g phase).meet file parents node = (watching seen.1 .accumulating,
      ⟨[], seen.2.toList.map fun failure => ctx.error node.position (faultMessage failure)⟩) := by
  simp only [Check.meet, watching, RunCheck.see, accepting]
  rfl

namespace Alike

variable {a b : Check ImportGraph} (file : FileContext) (parents : List Node) (node : Node)

private theorem symm (alike : Alike a b) : Alike b a := by
  cases alike with
  | node c => exact .node c
  | watching first second => exact .watching second first

private theorem ruleId_eq (alike : Alike a b) : a.ruleId = b.ruleId := by
  cases alike <;> rfl

private theorem kinds_eq (alike : Alike a b) : a.kinds = b.kinds := by
  cases alike <;> rfl

private theorem meet (alike : Alike a b) :
    Alike (a.meet file parents node).1 b ∧
      (a.meet file parents node).2 = (b.meet file parents node).2 := by
  cases alike with
  | node c =>
    rw [Check.meet_node]
    exact ⟨.node c, rfl⟩
  | watching first second =>
    rename_i one two early late
    rw [meet_watching first.2, meet_watching second.2]
    obtain ⟨thawed, same⟩ := watcher_visit first.1 second.1 ⟨file, ruleId, parents⟩ node
    refine ⟨.watching ⟨thawed, rfl⟩ second, ?_⟩
    simp only [same]

private theorem meetTimes (alike : Alike a b) (n : Nat) :
    Alike (a.meetTimes file parents node n).1 b ∧
      (a.meetTimes file parents node n).2 = (b.meetTimes file parents node n).2 := by
  induction n generalizing a b with
  | zero => exact ⟨alike, rfl⟩
  | succ n ih =>
    obtain ⟨after, first⟩ := alike.meet file parents node
    -- The other check has met the node as well before it meets it again.
    obtain ⟨both, _⟩ := after.symm.meet file parents node
    obtain ⟨last, _⟩ := ih after
    obtain ⟨_, more⟩ := ih both.symm
    exact ⟨last, congrArg₂ Findings.append first more⟩

private theorem offer (alike : Alike a b) :
    Alike (a.offer file parents node).1 b ∧
      (a.offer file parents node).2 = (b.offer file parents node).2 := by
  unfold Check.offer Check.interest
  rw [alike.ruleId_eq, alike.kinds_eq]
  split
  · exact ⟨alike, rfl⟩
  · exact alike.meetTimes file parents node _

end Alike

end ImportGraph

namespace Checks

variable (file : FileContext) {one two : List (Check ImportGraph)}

private theorem dispatch_alike (visit : Visit) (alike : List.Forall₂ ImportGraph.Alike one two) :
    List.Forall₂ ImportGraph.Alike (dispatch file visit one).1 two ∧
      (dispatch file visit one).2 = (dispatch file visit two).2 := by
  induction alike with
  | nil => exact ⟨.nil, rfl⟩
  | cons first _ ih =>
    obtain ⟨after, found⟩ := first.offer file visit.parents visit.node
    exact ⟨.cons after ih.1, congrArg₂ Findings.append found ih.2⟩

private theorem dispatchAll_alike (visits : List Visit)
    (alike : List.Forall₂ ImportGraph.Alike one two) :
    List.Forall₂ ImportGraph.Alike (dispatchAll file visits one).1 two ∧
      (dispatchAll file visits one).2 = (dispatchAll file visits two).2 := by
  have flip : ∀ {one two : List (Check ImportGraph)}, List.Forall₂ ImportGraph.Alike one two →
      List.Forall₂ ImportGraph.Alike two one :=
    fun alike => (alike.imp fun _ _ => ImportGraph.Alike.symm).flip
  induction visits generalizing one two with
  | nil => exact ⟨alike, rfl⟩
  | cons visit rest ih =>
    obtain ⟨after, first⟩ := dispatch_alike file visit alike
    obtain ⟨both, _⟩ := dispatch_alike file visit (flip after)
    obtain ⟨last, _⟩ := ih after
    obtain ⟨_, more⟩ := ih (flip both)
    exact ⟨last, congrArg₂ List.cons (congrArg (Prod.mk visit) first) more⟩

/-- A walk finds the same whatever has been walked through before. -/
theorem walk_alike (alike : List.Forall₂ ImportGraph.Alike one two) :
    List.Forall₂ ImportGraph.Alike (walk file one).1 two ∧
      (walk file one).2 = (walk file two).2 := by
  obtain ⟨after, found⟩ := dispatchAll_alike file (Schema.walk (.document file.document)) alike
  refine ⟨after, ?_⟩
  simp only [walk, found]

end Checks

namespace Session

/-- What comes of a file when it is the only one. -/
def alone (w : Workspace) (checks : List (Check ImportGraph)) (directories : List Path)
    (path : Path) : Session ImportGraph × Except Abort (List Diagnostic) :=
  checkFile w path { checks := checks, includeDirs := directories }

/-- A session that goes on as it began: nothing that it remembers shows in what it will find. -/
structure Continues (s : Session ImportGraph) (w : Workspace)
    (checks : List (Check ImportGraph)) (directories : List Path) : Prop where
  checks : List.Forall₂ ImportGraph.Alike s.checks checks
  includeDirs : s.includeDirs = directories
  unfinished : s.finished = false
  faithful : Faithful w s.documents.get?

/-- While the disk stays as it is, a file that holds a document is checked with the documents that
its includes lead to. -/
theorem checkFile_of_faithful {σ : Type} {s : Session σ} (unfinished : s.finished = false)
    {w : Workspace} (faithful : Faithful w s.documents.get?) {path : Path} {document : Document}
    (parsed : parseFile w path = .ok document) : ∃ documents, s.checkFile w path =
      match includeMap ⟨path.toString, document, .empty, s.includeDirs, w⟩ (fun _ => none)
          document.includes with
      | .error abort => ({ s with documents := documents }, .error abort)
      | .ok includes =>
        let walked := Checks.walk ⟨path.toString, document, includes, s.includeDirs, w⟩ s.checks
        ({ s with
            checks := walked.1
            documents := documents
            faults := s.faults ++ walked.2.faults
            diagnostics := s.diagnostics ++ walked.2.diagnostics
            filesChecked := s.filesChecked + 1 },
          .ok walked.2.diagnostics) := by
  let file : FileContext := ⟨path.toString, document, .empty, s.includeDirs, w⟩
  have same := (faithful.insert parsed).includeMap file document.includes
  have spec := (checkFile_of_parsed unfinished parsed).2
  dsimp only at spec
  rw [same] at spec
  refine ⟨(s.checkFile w path).1.documents, ?_⟩
  cases made : includeMap file (fun _ => none) document.includes with
  | error abort =>
    rw [made] at spec
    exact spec
  | ok includes =>
    rw [made] at spec
    exact spec

/-- Only files that hold a document count. -/
theorem filesChecked_checkFile {σ : Type} {s : Session σ} (unfinished : s.finished = false)
    (w : Workspace) (path : Path) (found : List Diagnostic)
    (passed : (s.checkFile w path).2 = .ok found) :
    (s.checkFile w path).1.filesChecked =
      s.filesChecked + if (parseFile w path).isOk then 1 else 0 := by
  unfold checkFile at passed ⊢
  rw [if_neg (by simp [unfinished])] at passed ⊢
  cases parsed : parseFile w path with
  | error e =>
    cases e with
    | unreadable e => cases e <;> rfl
    | undecodable e => rfl
    | parse failure => cases failure <;> rfl
  | ok document =>
    rw [parsed] at passed
    dsimp only [checkDocument] at passed ⊢
    split at passed
    · cases passed
    · rfl

namespace Continues

variable {s : Session ImportGraph} {w : Workspace} {checks : List (Check ImportGraph)}
  {directories : List Path}

/-- A file adds to a session what it would come to by itself. -/
theorem checkFile (valid : s.Continues w checks directories) (path : Path) :
    let here := s.checkFile w path
    let only := alone w checks directories path
    here.1.Continues w checks directories ∧ here.2 = only.2 ∧
      here.1.diagnostics = s.diagnostics ++ only.1.diagnostics ∧
      here.1.faults = s.faults ++ only.1.faults := by
  intro here only
  obtain ⟨sameDirs, sameEnd⟩ := checkFile_frame w path s
  have continues : List.Forall₂ ImportGraph.Alike here.1.checks checks →
      here.1.Continues w checks directories := fun alike =>
    ⟨alike, sameDirs.trans valid.includeDirs, sameEnd.trans valid.unfinished,
      valid.faithful.checkFile valid.unfinished path⟩
  cases parsed : parseFile w path with
  | error e =>
    have rejected : here.1.checks = s.checks ∧ here.2 = only.2 ∧
        here.1.diagnostics = s.diagnostics ++ only.1.diagnostics ∧
        here.1.faults = s.faults ++ only.1.faults := by
      simp only [here, only, alone, Session.checkFile, valid.unfinished, parsed]
      cases e with
      | unreadable e => cases e <;> simp [reject]
      | undecodable e => simp [reject]
      | parse failure => cases failure <;> simp [reject]
    exact ⟨continues (rejected.1 ▸ valid.checks), rejected.2⟩
  | ok document =>
    obtain ⟨documents, first⟩ := checkFile_of_faithful valid.unfinished valid.faithful parsed
    obtain ⟨others, second⟩ := checkFile_of_faithful
      (s := { checks := checks, includeDirs := directories }) rfl (faithful_empty w) parsed
    rw [valid.includeDirs] at first
    change here = _ at first
    change only = _ at second
    cases made : includeMap ⟨path.toString, document, .empty, directories, w⟩ (fun _ => none)
        document.includes with
    | error abort =>
      rw [made] at first second
      refine ⟨continues ?_, ?_⟩
      · rw [first]
        exact valid.checks
      · rw [first, second]
        simp
    | ok includes =>
      rw [made] at first second
      obtain ⟨after, found⟩ := Checks.walk_alike
        ⟨path.toString, document, includes, directories, w⟩ valid.checks
      refine ⟨continues ?_, ?_⟩
      · rw [first]
        exact after
      · rw [first, second]
        simp [found]

/-- Some files come to their end exactly if each would by itself, and then they add up. -/
theorem checkFiles (valid : s.Continues w checks directories) (files : List Path) :
    let only := alone w checks directories
    let last := s.checkFiles w files
    (last.2 = none ↔ ∀ path ∈ files, ∃ found, (only path).2 = .ok found) ∧
      (last.2 = none →
        last.1.diagnostics =
          s.diagnostics ++ files.flatMap (fun path => (only path).1.diagnostics) ∧
        last.1.faults = s.faults ++ files.flatMap (fun path => (only path).1.faults) ∧
        last.1.filesChecked =
          s.filesChecked + files.countP fun path => (parseFile w path).isOk) := by
  induction files generalizing s with
  | nil => simp [Session.checkFiles]
  | cons path rest ih =>
    obtain ⟨still, answer, diagnostics, faults⟩ := valid.checkFile path
    have count := filesChecked_checkFile valid.unfinished w path
    obtain ⟨passes, adds⟩ := ih still
    dsimp only
    rw [List.forall_mem_cons, ← answer, Session.checkFiles]
    cases checked : s.checkFile w path with
    | mk next found =>
      rw [checked] at diagnostics faults count passes adds
      cases found with
      | error abort => simp
      | ok found =>
        refine ⟨by simpa using passes, ?_⟩
        intro passed
        obtain ⟨moreDiagnostics, moreFaults, moreCount⟩ := adds passed
        rw [moreDiagnostics, moreFaults, moreCount, diagnostics, faults, count found rfl,
          List.flatMap_cons, List.flatMap_cons, List.countP_cons]
        exact ⟨List.append_assoc .., List.append_assoc .., by omega⟩

end Continues

/-- The checks that are enabled have seen nothing when a session begins. -/
theorem continues_enabled (w : Workspace) (settings : Settings) (directories : List Path) :
    Continues { checks := Rules.enabled settings, includeDirs := directories } w
      (Rules.enabled settings) directories := by
  refine ⟨List.forall₂_same.mpr ?_, rfl, rfl, faithful_empty w⟩
  intro check member
  obtain ⟨nodes, same, _⟩ := Rules.all_eq settings
  have listed := (List.mem_filter.mp member).1
  rw [same] at listed
  rcases List.mem_append.mp listed with node | last
  · obtain ⟨c, _, rfl⟩ := List.mem_map.mp node
    exact .node c
  · rw [List.mem_singleton.mp last]
    exact .watching ⟨rfl, rfl⟩ ⟨rfl, rfl⟩

/-- Whichever rules are kept, a session that has been watching for cycles comes to its end. The only
answer that its checks give there is the report on a cycle. -/
theorem Watches.finish_restrict {s : Session ImportGraph} {directories : List Path}
    {nodes : List NodeCheck} {requests : List EdgeRequest}
    (valid : s.Watches directories nodes requests) (own : ∀ check ∈ s.checks, check.Own)
    (keep : String → Bool) :
    let part := s.restrict keep
    let found := (Session.conclude part.checks).found.diagnostics
    part.finish.2 = .ok ⟨Diagnostic.sort part.diagnostics ++ found, part.faults,
        part.filesChecked⟩ ∧
      ((∃ d ∈ Diagnostic.sort part.diagnostics ++ found, d.ruleId = ImportGraph.ruleId) ↔
        keep ImportGraph.ruleId = true ∧
          Graph.HasCycle (ImportGraph.ofRequests requests).graph.adjacency) := by
  intro part found
  obtain ⟨report, answer, fatal, acyclic, rules⟩ := valid.conclude
  have ended := conclude_restrict keep own fatal
  have answers : (Session.conclude part.checks).found = Findings.restrict keep ⟨report, []⟩ :=
    answer ▸ congrArg Conclusion.found ended
  have reported : found = report.filter fun d => keep d.ruleId :=
    congrArg Findings.diagnostics answers
  refine ⟨?_, ?_⟩
  · have faultless : (Session.conclude part.checks).found.faults = [] :=
      congrArg Findings.faults answers
    rw [finish_eq (s := part) valid.unfinished (congrArg Conclusion.fatal ended), closed]
    simp only [faultless, List.append_nil]
    rfl
  · have others : ∀ d ∈ part.diagnostics, d.ruleId ≠ ImportGraph.ruleId :=
      fun d member => valid.others d (List.mem_filter.mp member).1
    have left : ∀ d ∈ found, d.ruleId = ImportGraph.ruleId := by
      rw [reported]
      exact fun d member => rules d (List.mem_filter.mp member).1
    have whole : found = if keep ImportGraph.ruleId then report else [] := by
      rw [reported, List.filter_congr fun d member => congrArg keep (rules d member)]
      cases keep ImportGraph.ruleId <;> simp
    rw [exists_rule_iff others left, whole, ← not_iff_comm.mp acyclic.symm]
    cases keep ImportGraph.ruleId <;> simp

/-- When all files have been checked, a run comes to its end, and it reports a cycle if there is one
and the settings do not forbid it. -/
theorem finish_enabled (w : Workspace) (settings : Settings) (directories files : List Path)
    (passed : (checkFiles w files
      { checks := Rules.enabled settings, includeDirs := directories }).2 = none) :
    let last := (checkFiles w files
      { checks := Rules.enabled settings, includeDirs := directories }).1
    let found := (conclude last.checks).found.diagnostics
    last.finish.2 = .ok ⟨Diagnostic.sort last.diagnostics ++ found, last.faults,
        last.filesChecked⟩ ∧
      ((∃ d ∈ Diagnostic.sort last.diagnostics ++ found, d.ruleId = ImportGraph.ruleId) ↔
        settings.isEnabled ImportGraph.ruleId = true ∧ Graph.HasCycle (ImportGraph.ofRequests
          (files.flatMap (requestsOf w directories))).graph.adjacency) := by
  obtain ⟨nodes, watches, ordinary⟩ := watches_all settings directories
  let keep := Rules.reported settings
  let all : Session ImportGraph := { checks := Rules.all settings, includeDirs := directories }
  have start : { checks := Rules.enabled settings, includeDirs := directories } =
      all.restrict keep := by
    rw [Rules.enabled_eq_restrict]
    rfl
  have kept : keep parseRule = true := by simp [keep, Rules.reported]
  have cycles : keep ImportGraph.ruleId = settings.isEnabled ImportGraph.ruleId := by
    have other : ImportGraph.ruleId ≠ parseRule := by decide
    simp [keep, Rules.reported, other]
  obtain ⟨checked, own⟩ := checkFiles_restrict kept w files (s := all) (Rules.own_all settings)
  rw [start, checked] at passed ⊢
  rw [← cycles]
  exact (watches.checkFiles ordinary w files passed).finish_restrict own keep

/-- A run comes to its end exactly if each of its files would by itself. Then what was found in the
files stands first, put in order, and the answers of the checks of the whole run follow. -/
theorem run_alone (w : Workspace) (settings : Settings) (directories files : List Path) :
    let start : Session ImportGraph :=
      { checks := Rules.enabled settings, includeDirs := directories }
    let only := alone w (Rules.enabled settings) directories
    ((∃ outcome, (start.run w files).2 = .ok outcome) ↔
        ∀ path ∈ files, ∃ found, (only path).2 = .ok found) ∧
      ∀ outcome, (start.run w files).2 = .ok outcome →
        outcome.diagnostics =
          Diagnostic.sort (files.flatMap fun path => (only path).1.diagnostics) ++
            (conclude (start.checkFiles w files).1.checks).found.diagnostics ∧
        outcome.faults = files.flatMap (fun path => (only path).1.faults) ∧
        outcome.filesChecked = files.countP (fun path => (parseFile w path).isOk) ∧
        ((∃ d ∈ outcome.diagnostics, d.ruleId = ImportGraph.ruleId) ↔
          settings.isEnabled ImportGraph.ruleId = true ∧ Graph.HasCycle (ImportGraph.ofRequests
            (files.flatMap (requestsOf w directories))).graph.adjacency) := by
  intro start only
  obtain ⟨passes, adds⟩ := (continues_enabled w settings directories).checkFiles files
  have ended := finish_enabled w settings directories files
  change (start.checkFiles w files).2 = none ↔ _ at passes
  rw [← passes, run_eq]
  cases checked : start.checkFiles w files with
  | mk last answer =>
    rw [checked] at adds ended
    cases answer with
    | some abort => simp
    | none =>
      obtain ⟨diagnostics, faults, count⟩ := adds rfl
      obtain ⟨success, cycles⟩ := ended rfl
      refine ⟨by simp [success], ?_⟩
      intro outcome returned
      dsimp only at returned
      rw [success] at returned
      cases returned
      refine ⟨?_, ?_, ?_, cycles⟩
      · dsimp only
        rw [diagnostics]
        rfl
      · exact faults
      · exact count.trans (Nat.zero_add _)

private theorem fileIncludes_congr {w : Workspace} {directories one two : List Path}
    (same : ∀ path, path ∈ one ↔ path ∈ two) :
    FileIncludes w directories one = FileIncludes w directories two := by
  funext source target
  simp only [FileIncludes, same]

/-- A run does not depend on the order of its files: it comes to its end in every order or in none,
finds the same in the files, counts as many, and either always reports a cycle or never does. -/
theorem run_perm (w : Workspace) (settings : Settings) (directories : List String)
    {names others : List String} (same : names.Perm others) :
    let start : Session ImportGraph :=
      { checks := Rules.enabled settings, includeDirs := directories.map .ofString }
    let result (names : List String) := (start.run w (names.map .ofString)).2
    let answers (names : List String) :=
      (conclude (start.checkFiles w (names.map .ofString)).1.checks).found.diagnostics
    ((∃ outcome, result names = .ok outcome) ↔ ∃ outcome, result others = .ok outcome) ∧
      ∀ one two, result names = .ok one → result others = .ok two →
        (∃ found, one.diagnostics = found ++ answers names ∧
          two.diagnostics = found ++ answers others) ∧
        one.filesChecked = two.filesChecked ∧ one.faults.Perm two.faults ∧
        ((∃ d ∈ one.diagnostics, d.ruleId = ImportGraph.ruleId) ↔
          ∃ d ∈ two.diagnostics, d.ruleId = ImportGraph.ruleId) := by
  intro start result answers
  have files : (names.map Path.ofString).Perm (others.map Path.ofString) := same.map _
  have normal : ∀ texts : List String, ∀ path ∈ texts.map Path.ofString, path.Normal := by
    intro texts path member
    obtain ⟨text, _, rfl⟩ := List.mem_map.mp member
    exact Path.normal_ofString text
  obtain ⟨oneReturns, oneIs⟩ :=
    run_alone w settings (directories.map .ofString) (names.map .ofString)
  obtain ⟨twoReturns, twoIs⟩ :=
    run_alone w settings (directories.map .ofString) (others.map .ofString)
  refine ⟨?_, ?_⟩
  · refine oneReturns.trans (Iff.trans ?_ twoReturns.symm)
    exact forall_congr' fun path => by rw [files.mem_iff]
  · intro one two first second
    obtain ⟨oneFound, oneFaults, oneCount, oneCycle⟩ := oneIs one first
    obtain ⟨twoFound, twoFaults, twoCount, twoCycle⟩ := twoIs two second
    refine ⟨⟨_, oneFound, ?_⟩, ?_, ?_, ?_⟩
    · rw [Diagnostic.sort_congr (files.flatMap_right _)]
      exact twoFound
    · rw [oneCount, twoCount]
      exact files.countP_eq _
    · rw [oneFaults, twoFaults]
      exact files.flatMap_right _
    -- The graphs differ in their numbers, but the files run in a circle in both or in none.
    · rw [oneCycle, twoCycle, hasCycle_iff (normal directories) (normal names),
        hasCycle_iff (normal directories) (normal others),
        fileIncludes_congr fun path => files.mem_iff]

theorem exists_ok_of_any {ε α : Type} {result : Except ε α} {p : α → Bool}
    (found : result.toOption.any p = true) : ∃ a, result = .ok a ∧ p a = true := by
  cases result with
  | error e => cases found
  | ok a => exact ⟨a, rfl, found⟩

/-- In another order two files that include one another, and one that is not there, give another
report on the cycle, but nothing else changes. -/
theorem run_perm_twoFiles :
    let start : Session ImportGraph :=
      { checks := Rules.enabled {}, includeDirs := ["sub"].map .ofString }
    let names := ["one.thrift", "none.thrift", "sub/two.thrift"]
    let others := ["sub/two.thrift", "one.thrift", "none.thrift"]
    names.Perm others ∧ ∃ one two, (start.run twoFiles (names.map .ofString)).2 = .ok one ∧
      (start.run twoFiles (others.map .ofString)).2 = .ok two ∧
      one.diagnostics ≠ two.diagnostics ∧ one.filesChecked = two.filesChecked ∧
      (∃ d ∈ one.diagnostics, d.ruleId = ImportGraph.ruleId) ∧
      ∃ d ∈ two.diagnostics, d.ruleId = ImportGraph.ruleId := by
  intro start names others
  have same : names.Perm others := by decide
  have agree := (run_perm twoFiles {} ["sub"] same).2
  have differ : (start.run twoFiles (names.map .ofString)).2.toOption.any (fun one =>
      (start.run twoFiles (others.map .ofString)).2.toOption.any fun two =>
        one.diagnostics != two.diagnostics &&
          one.diagnostics.any (·.ruleId == ImportGraph.ruleId)) = true := by
    decide +kernel
  obtain ⟨one, first, again⟩ := exists_ok_of_any differ
  obtain ⟨two, second, apart⟩ := exists_ok_of_any again
  rw [Bool.and_eq_true, bne_iff_ne, List.any_eq_true] at apart
  obtain ⟨apart, d, member, rule⟩ := apart
  obtain ⟨_, count, _, cycle⟩ := agree one two first second
  have found : ∃ d ∈ one.diagnostics, d.ruleId = ImportGraph.ruleId :=
    ⟨d, member, eq_of_beq rule⟩
  exact ⟨same, one, two, first, second, apart, count, found, cycle.mp found⟩

end Session

end IdlLint

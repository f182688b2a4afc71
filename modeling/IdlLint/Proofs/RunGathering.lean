import IdlLint.Proofs.FileIndependence
import Mathlib.Data.List.Infix

/-! What a run gathers. Whatever the calls for its files gave back stands in its outcome once, in
order, and the answers of the checks of the whole run follow; every failure of a check is a fault, in
the order in which the checks failed. -/
namespace IdlLint

open IdlLint.Schema

namespace Findings

private theorem faults_foldr (all : List Findings) :
    (all.foldr append {}).faults = all.flatMap faults := by
  induction all with
  | nil => rfl
  | cons first rest ih => rw [List.flatMap_cons, ← ih]; rfl

end Findings

namespace Checks

variable {σ : Type} (file : FileContext)

/-- The faults of a walk: node by node in the order of the walk, and check by check at each node. A
check has seen all the nodes before. -/
def faultsIn (checks : List (Check σ)) : List Diagnostic :=
  let visits := Schema.walk (.document file.document)
  (visits.inits.zip visits).flatMap fun step => checks.flatMap fun check =>
    ((check.attend file step.1).offer file step.2.parents step.2.node).2.faults

private theorem dispatch_faults (visit : Visit) (checks : List (Check σ)) :
    (dispatch file visit checks).2.faults =
      checks.flatMap fun check => (check.offer file visit.parents visit.node).2.faults := by
  induction checks with
  | nil => rfl
  | cons check rest ih => rw [List.flatMap_cons, ← ih]; rfl

private theorem dispatchAll_faults (visits : List Visit) (checks : List (Check σ)) :
    (dispatchAll file visits checks).2.flatMap (fun result => result.2.faults) =
      (visits.inits.zip visits).flatMap fun step => checks.flatMap fun check =>
        ((check.attend file step.1).offer file step.2.parents step.2.node).2.faults := by
  induction visits generalizing checks with
  | nil => rfl
  | cons visit rest ih =>
    have later := ih (dispatch file visit checks).1
    rw [dispatch_fst] at later
    simp only [dispatchAll, List.flatMap_cons, dispatch_faults, dispatch_fst, later, List.inits,
      List.zip_cons_cons, List.zip_map_left, List.flatMap_map]
    rfl

private theorem walk_faults (checks : List (Check σ)) :
    (walk file checks).2.faults = faultsIn file checks := by
  rw [faultsIn, ← dispatchAll_faults]
  simp only [walk, Findings.faults_foldr, List.flatMap_map]

end Checks

namespace RunCheck

variable {σ : Type}

/-- The answer of a check that is asked for it. It can be asked for once. -/
def answer (c : RunCheck σ) : Except Failure (List Diagnostic) :=
  if c.phase.isClosed then .error (.finalizedTwice c.ruleId) else (c.finalize c.memory).2

/-- What a check answers at the end, which is nothing if it fails. -/
def findings (c : RunCheck σ) : List Diagnostic :=
  match c.answer with
  | .ok found => found
  | .error _ => []

/-- The fault of a check that fails at the end. -/
def fault? (c : RunCheck σ) : Option Diagnostic :=
  match c.answer with
  | .ok _ => none
  | .error failure => some {
      filename := "<finalize>"
      line := 0
      column := 1
      ruleId := c.ruleId
      severity := "error"
      message := "internal error in check: " ++ failure.message }

private theorem conclude_snd (c : RunCheck σ) : c.conclude.2 = c.answer := by
  unfold conclude answer
  split
  · rfl
  · split <;> rename_i finalized <;> rw [finalized]

end RunCheck

namespace Session

variable {σ : Type}

/-- At the end the checks answer one after the other, and those that fail leave a fault each. -/
theorem conclude_found {checks : List (Check σ)} (sound : (conclude checks).fatal = none) :
    (conclude checks).found = ⟨(Checks.runChecks checks).flatMap RunCheck.findings,
      (Checks.runChecks checks).filterMap RunCheck.fault?⟩ := by
  induction checks with
  | nil => rfl
  | cons check rest ih =>
    cases check with
    | node c => exact ih sound
    | run c =>
      have listed : Checks.runChecks (.run c :: rest) = c :: Checks.runChecks rest := rfl
      have answered := c.conclude_snd
      rw [listed, List.flatMap_cons, List.filterMap_cons, RunCheck.findings, RunCheck.fault?,
        ← answered]
      cases concluded : c.conclude with
      | mk next result =>
        rw [conclude, concluded] at sound ⊢
        cases result with
        | ok found =>
          dsimp only at sound ⊢
          rw [ih sound]
          rfl
        | error failure =>
          cases fatal : failure.isFatal with
          | true => simp [fatal] at sound
          | false =>
            simp only [fatal] at sound ⊢
            rw [ih sound]
            rfl

/-! ### One file -/

/-- Each of some files with the session as it is when the file is checked. -/
def stops (w : Workspace) : List Path → Session σ → List (Path × Session σ)
  | [], _ => []
  | path :: rest, s => (path, s) :: stops w rest (s.checkFile w path).1

/-- What the call that checks a file gives back. -/
def returned (w : Workspace) (stop : Path × Session σ) : List Diagnostic :=
  (stop.2.checkFile w stop.1).2.toOption.getD []

/-- The faults of the checks in a file. -/
def faultsAt (w : Workspace) (stop : Path × Session σ) : List Diagnostic :=
  match parseFile w stop.1 with
  | .error _ => []
  | .ok document =>
    match loadIncludes w stop.1.toString stop.2.includeDirs document.includes
        (stop.2.documents.insert (w.locate stop.1) (some document)) .empty with
    | (_, .error _) => []
    | (_, .ok includes) =>
      Checks.faultsIn ⟨stop.1.toString, document, includes, stop.2.includeDirs, w⟩ stop.2.checks

/-- What a session has more than it had before. -/
structure Adds (s next : Session σ) (found faults : List Diagnostic) (count : Nat) : Prop where
  diagnostics : next.diagnostics = s.diagnostics ++ found
  faults : next.faults = s.faults ++ faults
  filesChecked : next.filesChecked = s.filesChecked + count

private theorem Adds.trans {one two three : Session σ} {found found' faults faults' : List Diagnostic}
    {count count' : Nat} (first : one.Adds two found faults count)
    (second : two.Adds three found' faults' count') :
    one.Adds three (found ++ found') (faults ++ faults') (count + count') := by
  refine ⟨?_, ?_, ?_⟩
  · rw [second.diagnostics, first.diagnostics, List.append_assoc]
  · rw [second.faults, first.faults, List.append_assoc]
  · rw [second.filesChecked, first.filesChecked, Nat.add_assoc]

variable {w : Workspace} {path : Path} {s : Session σ} {found : List Diagnostic}

private theorem reject_adds (s : Session σ) (path : Path) (position : Position) (message : String) :
    (∃ d, (s.reject path position message).2 = [d] ∧ d.ruleId = parseRule ∧
      d.filename = path.toString) ∧
      s.Adds (s.reject path position message).1 (s.reject path position message).2 [] 0 :=
  ⟨⟨_, rfl, rfl, rfl⟩, rfl, (List.append_nil _).symm, rfl⟩

/-- A file without a document is reported once, and the checks do not see it. -/
theorem checkFile_of_error (unfinished : s.finished = false)
    (passed : (s.checkFile w path).2 = .ok found) {e : FileError}
    (failed : parseFile w path = .error e) :
    (∃ d, found = [d] ∧ d.ruleId = parseRule ∧ d.filename = path.toString) ∧
      s.Adds (s.checkFile w path).1 found [] 0 := by
  unfold checkFile at passed ⊢
  rw [if_neg (by simp [unfinished]), failed] at passed ⊢
  cases e with
  | unreadable e =>
    cases e with
    | nullCharacter => cases passed
    | _ => cases passed; exact s.reject_adds path _ _
  | undecodable e => cases passed; exact s.reject_adds path _ _
  | parse failure =>
    cases failure with
    | excessiveDigits count => cases passed
    | rejected e => cases passed; exact s.reject_adds path _ _

/-- A file with a document gives back what the walk through it found, and the faults are kept. -/
theorem checkFile_of_document (unfinished : s.finished = false)
    (passed : (s.checkFile w path).2 = .ok found) {document : Document}
    (parsed : parseFile w path = .ok document) :
    s.Adds (s.checkFile w path).1 found (faultsAt w (path, s)) 1 := by
  have result : s.checkFile w path = s.checkDocument w path document := by
    rw [checkFile, if_neg (by simp [unfinished]), parsed]
  rw [result, checkDocument] at passed ⊢
  simp only [faultsAt, parsed]
  revert passed
  rcases loadIncludes w path.toString s.includeDirs document.includes
    (s.documents.insert (w.locate path) (some document)) .empty with ⟨documents, failure | includes⟩
  · rintro ⟨⟩
  · rintro ⟨⟩
    refine ⟨rfl, ?_, rfl⟩
    simp only [Checks.walk_faults]

private theorem checkFile_adds (unfinished : s.finished = false)
    (passed : (s.checkFile w path).2 = .ok found) :
    s.Adds (s.checkFile w path).1 found (faultsAt w (path, s))
      (if (parseFile w path).isOk then 1 else 0) := by
  cases parsed : parseFile w path with
  | error e =>
    have none : faultsAt w (path, s) = [] := by simp [faultsAt, parsed]
    rw [none]
    exact (checkFile_of_error unfinished passed parsed).2
  | ok document => exact checkFile_of_document unfinished passed parsed

/-! ### All files -/

/-- What some files add to a session, if none of them ends the run. -/
theorem checkFiles_adds (unfinished : s.finished = false) (w : Workspace) (files : List Path)
    (passed : (s.checkFiles w files).2 = none) :
    (∀ stop ∈ s.stops w files, stop.2.finished = false ∧
      (stop.2.checkFile w stop.1).2 = .ok (returned w stop)) ∧
      s.Adds (s.checkFiles w files).1 ((s.stops w files).flatMap (returned w))
        ((s.stops w files).flatMap (faultsAt w))
        (files.countP fun path => (parseFile w path).isOk) := by
  induction files generalizing s with
  | nil =>
    refine ⟨by simp [stops], ?_, ?_, rfl⟩ <;> simp [stops, checkFiles]
  | cons path rest ih =>
    have still := (checkFile_frame w path s).2.trans unfinished
    have adds := @checkFile_adds σ w path s
    have gives : returned w (path, s) = (s.checkFile w path).2.toOption.getD [] := rfl
    rw [stops, checkFiles] at *
    cases checked : s.checkFile w path with
    | mk next answer =>
      rw [checked] at still adds gives passed
      cases answer with
      | error abort => cases passed
      | ok found =>
        obtain ⟨each, more⟩ := ih still passed
        have first : returned w (path, s) = found := gives
        refine ⟨?_, ?_⟩
        · rw [List.forall_mem_cons]
          exact ⟨⟨unfinished, by rw [first, checked]⟩, each⟩
        · rw [List.flatMap_cons, List.flatMap_cons, List.countP_cons, first, Nat.add_comm]
          exact (adds unfinished rfl).trans more

/-- The outcome of a run that comes to its end. The findings are those that the calls for the files
gave back, in ascending order and each as often as it was given back, followed by the answers of the
checks of the whole run that did not fail. The faults are those of the checks, in the order of the
files, of the walk and of the checks, followed by one for each check that failed at the end. Files
that hold a document are counted, and each other one is reported once. -/
theorem run_gathers (w : Workspace) (checks : List (Check σ)) (directories files : List Path)
    {outcome : Outcome}
    (ended : (run w files { checks := checks, includeDirs := directories }).2 = .ok outcome) :
    let start : Session σ := { checks := checks, includeDirs := directories }
    let stops := start.stops w files
    let last := Checks.runChecks (start.checkFiles w files).1.checks
    (∀ stop ∈ stops, (stop.2.checkFile w stop.1).2 = .ok (returned w stop)) ∧
    (∃ ordered, outcome.diagnostics = ordered ++ last.flatMap RunCheck.findings ∧
      ordered.Perm (stops.flatMap (returned w)) ∧
      ordered.Pairwise fun a b => a.fields ≤ b.fields) ∧
    outcome.faults = stops.flatMap (faultsAt w) ++ last.filterMap RunCheck.fault? ∧
    outcome.filesChecked = files.countP (fun path => (parseFile w path).isOk) ∧
    ∀ stop ∈ stops, (parseFile w stop.1).isOk = false →
      ∃ d, returned w stop = [d] ∧ d.ruleId = "parse.error" ∧ d.filename = stop.1.toString := by
  intro start stops last
  rw [run_eq] at ended
  cases checked : start.checkFiles w files with
  | mk next stopped =>
    rw [checked] at ended
    cases stopped with
    | some abort => cases ended
    | none =>
      obtain ⟨each, adds⟩ := checkFiles_adds (s := start) rfl w files (by rw [checked])
      rw [checked] at adds
      have active : next.finished = false := by
        cases state : next.finished with
        | false => rfl
        | true => simp [finish, state] at ended
      have sound : (conclude next.checks).fatal = none := by
        cases fatal : (conclude next.checks).fatal with
        | none => rfl
        | some failure => simp [finish, active, fatal] at ended
      dsimp only at ended
      rw [finish_eq active sound] at ended
      have result := (Except.ok.inj ended).symm
      have final : last = Checks.runChecks next.checks := by simp only [last, checked]
      refine ⟨fun stop listed => (each stop listed).2, ?_, ?_, ?_, ?_⟩
      · refine ⟨Diagnostic.sort next.diagnostics, ?_, ?_, ?_⟩
        · rw [result, final, closed, conclude_found sound]
        · rw [adds.diagnostics]
          exact Diagnostic.sort_perm _
        · refine (Diagnostic.sort_pairwise _).imp ?_
          exact fun before => (Diagnostic.precedes_iff _ _).mp before
      · rw [result, final, closed, conclude_found sound, adds.faults]
        rfl
      · rw [result, adds.filesChecked]
        exact Nat.zero_add _
      · intro stop listed failed
        obtain ⟨unfinished, passed⟩ := each stop listed
        cases parsed : parseFile w stop.1 with
        | ok document =>
          rw [parsed] at failed
          cases failed
        | error e => exact (checkFile_of_error unfinished passed parsed).1

/-- A file that breaks off and one with two enumerations. The findings in the files are put in order
before the answer of the check that counts, and the check that fails at the end has its fault behind
those in the files. -/
theorem run_gathers_mixedChecks :
    let files := ["two.thrift", "one.thrift"].map Path.ofString
    let start : Session (List String) := { checks := mixedChecks }
    let stops := start.stops twoEnums files
    let last := Checks.runChecks (start.checkFiles twoEnums files).1.checks
    (stops.flatMap (returned twoEnums)).map (·.ruleId) =
        ["parse.error", "enum.seen", "enum.seen"] ∧
      (last.flatMap RunCheck.findings).map (·.ruleId) = ["enum.count"] ∧
      ∃ outcome, (run twoEnums files start).2 = .ok outcome ∧
        (∃ ordered, outcome.diagnostics = ordered ++ last.flatMap RunCheck.findings ∧
          ordered.Perm (stops.flatMap (returned twoEnums)) ∧
          ordered.Pairwise fun a b => a.fields ≤ b.fields) ∧
        outcome.faults.map (·.ruleId) = ["enum.fails", "enum.fails", "last.fails"] ∧
        outcome.filesChecked = 1 := by
  intro files start stops last
  have ended : (run twoEnums files start).2.toOption.any (fun outcome =>
      outcome.faults.map (·.ruleId) == ["enum.fails", "enum.fails", "last.fails"] &&
        outcome.filesChecked == 1) = true := by
    decide +kernel
  obtain ⟨outcome, success, seen⟩ := exists_ok_of_any ended
  simp only [Bool.and_eq_true, beq_iff_eq] at seen
  have gathers := run_gathers twoEnums mixedChecks [] files success
  exact ⟨by decide +kernel, by decide +kernel, outcome, success, gathers.2.1, seen.1, seen.2⟩

end Session

end IdlLint

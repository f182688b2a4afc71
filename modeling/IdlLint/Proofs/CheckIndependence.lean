import IdlLint.Lint.Probe
import IdlLint.Lint.Run
import IdlLint.Proofs.CycleRun
import IdlLint.Proofs.DiagnosticOrder
import IdlLint.Proofs.Utf8Encoding

/-! Checks do not touch one another. A run with some of the checks left out is the run with all of
them, less what the missing ones found: each part of a run commutes with leaving out rules. -/
namespace IdlLint

open IdlLint.Config
open IdlLint.Schema

namespace Findings

/-- All findings and faults stand under one rule. -/
def Under (rule : String) (found : Findings) : Prop :=
  (∀ d ∈ found.diagnostics, d.ruleId = rule) ∧ ∀ d ∈ found.faults, d.ruleId = rule

/-- The findings under the rules that are kept. -/
def restrict (keep : String → Bool) (found : Findings) : Findings :=
  ⟨found.diagnostics.filter fun d => keep d.ruleId, found.faults.filter fun d => keep d.ruleId⟩

variable {keep : String → Bool} {rule : String} {a b : Findings}

private theorem under_empty (rule : String) : Under rule {} :=
  ⟨by simp, by simp⟩

private theorem Under.append (first : a.Under rule) (second : b.Under rule) :
    (a ++ b).Under rule := by
  refine ⟨?_, ?_⟩
  · intro d member
    exact (List.mem_append.mp member).elim (first.1 d) (second.1 d)
  · intro d member
    exact (List.mem_append.mp member).elim (first.2 d) (second.2 d)

theorem restrict_append (keep : String → Bool) (a b : Findings) :
    (a ++ b).restrict keep = a.restrict keep ++ b.restrict keep :=
  congrArg₂ mk (List.filter_append ..) (List.filter_append ..)

theorem restrict_of_keep (under : a.Under rule) (kept : keep rule = true) :
    a.restrict keep = a := by
  have all : ∀ {found : List Diagnostic}, (∀ d ∈ found, d.ruleId = rule) →
      found.filter (fun d => keep d.ruleId) = found := by
    intro found same
    apply List.filter_eq_self.mpr
    intro d member
    rw [same d member, kept]
  exact congrArg₂ mk (all under.1) (all under.2)

theorem restrict_of_not_keep (under : a.Under rule) (dropped : keep rule = false) :
    a.restrict keep = {} := by
  have none : ∀ {found : List Diagnostic}, (∀ d ∈ found, d.ruleId = rule) →
      found.filter (fun d => keep d.ruleId) = [] := by
    intro found same
    apply List.filter_eq_nil_iff.mpr
    intro d member
    simp [same d member, dropped]
  exact congrArg₂ mk (none under.1) (none under.2)

@[simp] theorem empty_append (found : Findings) : ({} : Findings) ++ found = found := rfl

end Findings

namespace Check

variable {σ : Type}

/-- Whatever a check finds stands under its own rule. -/
def Own : Check σ → Prop
  | .node c => ∀ ctx node found, ctx.ruleId = c.ruleId → c.run ctx node = .ok found →
      ∀ d ∈ found, d.ruleId = c.ruleId
  | .run c => ∀ memory found, (c.finalize memory).2 = .ok found → ∀ d ∈ found, d.ruleId = c.ruleId

/-- What comes of showing something to a check: the check is still the same one, and all that was
found stands under its rule. -/
structure Answers (check : Check σ) (result : Check σ × Findings) : Prop where
  ruleId : result.1.ruleId = check.ruleId
  own : result.1.Own
  under : result.2.Under check.ruleId

variable (file : FileContext) (parents : List Node) (node : Node) {check : Check σ}

private theorem Own.meet (own : check.Own) : check.Answers (check.meet file parents node) := by
  cases check with
  | node c =>
    simp only [Check.meet]
    split
    · rename_i found answered
      exact ⟨rfl, own, own _ _ found rfl answered, by simp⟩
    · refine ⟨rfl, own, by simp, ?_⟩
      intro d member
      rw [List.mem_singleton.mp member]
      rfl
  | run c =>
    have under : Findings.Under c.ruleId ((Check.run c).meet file parents node).2 := by
      refine ⟨by simp [Check.meet], ?_⟩
      intro d member
      obtain ⟨failure, _, rfl⟩ := List.mem_map.mp member
      rfl
    refine ⟨?_, ?_, under⟩ <;> simp only [Check.meet, RunCheck.see] <;> split
    · rfl
    · rfl
    · exact own
    · exact own

private theorem Own.meetTimes (own : check.Own) (n : Nat) :
    check.Answers (check.meetTimes file parents node n) := by
  induction n generalizing check with
  | zero => exact ⟨rfl, own, Findings.under_empty _⟩
  | succ n ih =>
    have first := own.meet file parents node
    have more := ih first.own
    have under := more.under
    rw [first.ruleId] at under
    exact ⟨more.ruleId.trans first.ruleId, more.own, first.under.append under⟩

theorem Own.offer (own : check.Own) : check.Answers (check.offer file parents node) := by
  unfold Check.offer
  split
  · exact ⟨rfl, own, Findings.under_empty _⟩
  · exact own.meetTimes file parents node _

/-- Asked for its answer, a check of the whole run stays the same one and answers under its rule. -/
theorem Own.conclude {c : RunCheck σ} (own : (Check.run c).Own) :
    c.conclude.1.ruleId = c.ruleId ∧ (Check.run c.conclude.1).Own ∧
      ∀ found, c.conclude.2 = .ok found → ∀ d ∈ found, d.ruleId = c.ruleId := by
  unfold RunCheck.conclude
  split
  · exact ⟨rfl, own, by simp⟩
  · split
    · rename_i memory diagnostics finalized
      refine ⟨rfl, own, ?_⟩
      rintro found ⟨⟩
      exact own c.memory diagnostics (congrArg Prod.snd finalized)
    · exact ⟨rfl, own, by simp⟩

end Check

namespace Checks

variable {σ : Type} (keep : String → Bool) (file : FileContext)

/-- The checks whose rules are kept. -/
def restrict (checks : List (Check σ)) : List (Check σ) :=
  checks.filter fun check => keep check.ruleId

theorem dispatch_own (visit : Visit) {checks : List (Check σ)}
    (own : ∀ check ∈ checks, check.Own) : ∀ check ∈ (dispatch file visit checks).1, check.Own := by
  rw [dispatch_fst]
  intro other member
  obtain ⟨check, inside, rfl⟩ := List.mem_map.mp member
  exact ((own check inside).offer file visit.parents visit.node).own

private theorem dispatch_restrict (visit : Visit) {checks : List (Check σ)}
    (own : ∀ check ∈ checks, check.Own) :
    dispatch file visit (restrict keep checks) =
      (restrict keep (dispatch file visit checks).1,
        (dispatch file visit checks).2.restrict keep) := by
  induction checks with
  | nil => rfl
  | cons check rest ih =>
    have answer := (own check (List.mem_cons_self ..)).offer file visit.parents visit.node
    have others := ih fun other member => own other (List.mem_cons_of_mem _ member)
    simp only [dispatch, Findings.restrict_append]
    cases kept : keep check.ruleId with
    | true =>
      have same : restrict keep (check :: rest) = check :: restrict keep rest :=
        List.filter_cons_of_pos kept
      rw [same, dispatch, others, Findings.restrict_of_keep answer.under kept]
      simp only [restrict, List.filter_cons, answer.ruleId, kept]
      rfl
    | false =>
      have same : restrict keep (check :: rest) = restrict keep rest :=
        List.filter_cons_of_neg (by simp [kept])
      rw [same, others, Findings.restrict_of_not_keep answer.under kept]
      simp only [restrict, List.filter_cons, answer.ruleId, kept]
      rfl

private theorem dispatchAll_restrict (visits : List Visit) {checks : List (Check σ)}
    (own : ∀ check ∈ checks, check.Own) :
    dispatchAll file visits (restrict keep checks) =
      (restrict keep (dispatchAll file visits checks).1,
        (dispatchAll file visits checks).2.map fun result =>
          (result.1, result.2.restrict keep)) := by
  induction visits generalizing checks with
  | nil => rfl
  | cons visit rest ih =>
    have later := ih (dispatch_own file visit own)
    simp only [dispatchAll, dispatch_restrict keep file visit own, later, List.map_cons]

/-- Of checks with distinct rules those in a part of the list are known by their rules. -/
theorem filter_sublist {remaining checks : List (Check σ)} (fewer : remaining.Sublist checks)
    (distinct : (checks.map Check.ruleId).Nodup) :
    (checks.filter fun check => check.ruleId ∈ remaining.map Check.ruleId) = remaining := by
  induction fewer with
  | slnil => rfl
  | cons check fewer ih =>
    rw [List.map_cons, List.nodup_cons] at distinct
    have absent := fun member => distinct.1 ((fewer.map Check.ruleId).subset member)
    rw [List.filter_cons_of_neg (by simpa using absent), ih distinct.2]
  | cons_cons check fewer ih =>
    rw [List.map_cons, List.nodup_cons] at distinct
    rw [List.filter_cons_of_pos (by simp)]
    congr 1
    refine (List.filter_congr ?_).trans (ih distinct.2)
    intro other member
    have apart : other.ruleId ≠ check.ruleId := by
      intro same
      exact distinct.1 (same ▸ List.mem_map_of_mem member)
    simp [apart]

private theorem foldr_restrict (all : List Findings) :
    (all.map (Findings.restrict keep)).foldr Findings.append {} =
      (all.foldr Findings.append {}).restrict keep := by
  induction all with
  | nil => rfl
  | cons first rest ih =>
    rw [List.map_cons, List.foldr_cons, ih]
    exact (Findings.restrict_append keep first _).symm

/-- A walk with fewer checks changes the others as before and finds what they found. -/
theorem walk_restrict {checks : List (Check σ)} (own : ∀ check ∈ checks, check.Own) :
    walk file (restrict keep checks) =
      (restrict keep (walk file checks).1, (walk file checks).2.restrict keep) := by
  simp only [walk, dispatchAll_restrict keep file _ own, List.map_map]
  rw [← foldr_restrict, List.map_map]
  rfl

private theorem walk_own {checks : List (Check σ)} (own : ∀ check ∈ checks, check.Own) :
    ∀ check ∈ (walk file checks).1, check.Own := by
  have visits : ∀ (visits : List Visit) (checks : List (Check σ)),
      (∀ check ∈ checks, check.Own) →
        ∀ check ∈ (dispatchAll file visits checks).1, check.Own := by
    intro visits
    induction visits with
    | nil => exact fun checks own => own
    | cons visit rest ih => exact fun checks own => ih _ (dispatch_own file visit own)
  exact visits _ checks own

end Checks

/-- What a run found under the rules that are kept. -/
def Outcome.restrict (keep : String → Bool) (outcome : Outcome) : Outcome :=
  { outcome with
    diagnostics := outcome.diagnostics.filter fun d => keep d.ruleId
    faults := outcome.faults.filter fun d => keep d.ruleId }

namespace Session

variable {σ : Type}

/-- Checks some files, until one of them ends the run. -/
def checkFiles (w : Workspace) : List Path → Session σ → Session σ × Option Abort
  | [], s => (s, none)
  | path :: rest, s =>
    match s.checkFile w path with
    | (s, .error abort) => (s, some abort)
    | (s, .ok _) => checkFiles w rest s

/-- A run checks all files and then comes to its end. -/
theorem run_eq (w : Workspace) (files : List Path) (s : Session σ) :
    s.run w files =
      match s.checkFiles w files with
      | (s, some abort) => (s, .error abort)
      | (s, none) => s.finish := by
  induction files generalizing s with
  | nil => rfl
  | cons path rest ih =>
    rw [run, checkFiles]
    cases checked : s.checkFile w path with
    | mk next answer =>
      cases answer with
      | error abort => rfl
      | ok found => exact ih next

variable (keep : String → Bool)

/-- The session without the rules that are not kept. -/
def restrict (s : Session σ) : Session σ :=
  { s with
    checks := Checks.restrict keep s.checks
    faults := s.faults.filter fun d => keep d.ruleId
    diagnostics := s.diagnostics.filter fun d => keep d.ruleId }

private theorem checkDocument_restrict (w : Workspace) (path : Path) (document : Document)
    {s : Session σ} (own : ∀ check ∈ s.checks, check.Own) :
    (s.restrict keep).checkDocument w path document =
      ((s.checkDocument w path document).1.restrict keep,
        (s.checkDocument w path document).2.map (·.filter fun d => keep d.ruleId)) := by
  simp only [checkDocument, restrict]
  split
  · rfl
  · simp only [Checks.walk_restrict keep _ own, Findings.restrict, Except.map,
      List.filter_append]

private theorem reject_restrict {keep : String → Bool} (kept : keep parseRule = true) (s : Session σ)
    (path : Path) (position : Position) (message : String) :
    (s.restrict keep).reject path position message =
      ((s.reject path position message).1.restrict keep,
        (s.reject path position message).2.filter fun d => keep d.ruleId) := by
  simp [reject, restrict, Diagnostic.placed, kept]

private theorem checkFile_restrict {keep : String → Bool} (kept : keep parseRule = true)
    (w : Workspace) (path : Path) {s : Session σ} (own : ∀ check ∈ s.checks, check.Own) :
    (s.restrict keep).checkFile w path =
      ((s.checkFile w path).1.restrict keep,
        (s.checkFile w path).2.map (·.filter fun d => keep d.ruleId)) := by
  have same : (s.restrict keep).finished = s.finished := rfl
  unfold checkFile
  rw [same]
  split
  · rfl
  · split
    · exact checkDocument_restrict keep w path _ own
    · rfl
    · rw [reject_restrict kept]
      rfl
    · rfl
    · rw [reject_restrict kept]
      rfl
    · rw [reject_restrict kept]
      rfl

private theorem checkFile_own (w : Workspace) (path : Path) {s : Session σ}
    (own : ∀ check ∈ s.checks, check.Own) :
    ∀ check ∈ (s.checkFile w path).1.checks, check.Own := by
  unfold checkFile
  split
  · exact own
  · split
    · unfold checkDocument
      dsimp only
      split
      · exact own
      · exact Checks.walk_own _ own
    all_goals exact own

theorem checkFiles_restrict {keep : String → Bool} (kept : keep parseRule = true) (w : Workspace)
    (files : List Path) {s : Session σ} (own : ∀ check ∈ s.checks, check.Own) :
    (s.restrict keep).checkFiles w files =
      ((s.checkFiles w files).1.restrict keep, (s.checkFiles w files).2) ∧
      ∀ check ∈ (s.checkFiles w files).1.checks, check.Own := by
  induction files generalizing s with
  | nil => exact ⟨rfl, own⟩
  | cons path rest ih =>
    have still := checkFile_own w path own
    rw [checkFiles, checkFiles, checkFile_restrict kept w path own]
    cases checked : s.checkFile w path with
    | mk next answer =>
      rw [checked] at still
      cases answer with
      | error abort => exact ⟨rfl, still⟩
      | ok found => exact ih still

/-- What a check adds at the end of a run, whichever checks come after it. A fatal failure would
keep those from answering. -/
theorem conclude_cons {check : Check σ} (own : check.Own) {rest : List (Check σ)}
    (sound : (conclude (check :: rest)).fatal = none) :
    ∃ next found, check.Answers (next, found) ∧ ∀ others, conclude (check :: others) =
      ⟨next :: (conclude others).checks, found ++ (conclude others).found,
        (conclude others).fatal⟩ := by
  cases check with
  | node c => exact ⟨.node c, {}, ⟨rfl, own, Findings.under_empty _⟩, fun others => rfl⟩
  | run c =>
    obtain ⟨named, owned, answered⟩ := own.conclude
    cases concluded : c.conclude with
    | mk next answer =>
      rw [concluded] at named owned answered
      cases answer with
      | ok found =>
        refine ⟨.run next, ⟨found, []⟩, ⟨named, owned, answered found rfl, by simp⟩, ?_⟩
        intro others
        rw [conclude, concluded]
      | error failure =>
        -- A fatal failure would have ended the run, so this one is only noted.
        have harmless : failure.isFatal = false := by
          rw [conclude, concluded] at sound
          cases fatal : failure.isFatal with
          | true => simp [fatal] at sound
          | false => rfl
        refine ⟨.run next, ⟨[], [.placed finalizeName .nowhere c.ruleId
          Diagnostic.errorSeverity (faultMessage failure)]⟩, ⟨named, owned, by simp, ?_⟩, ?_⟩
        · intro d member
          rw [List.mem_singleton.mp member]
          rfl
        · intro others
          rw [conclude, concluded]
          simp [harmless]

/-- The answers at the end are those of the checks that are left. -/
theorem conclude_restrict {checks : List (Check σ)} (own : ∀ check ∈ checks, check.Own)
    (sound : (conclude checks).fatal = none) :
    conclude (Checks.restrict keep checks) =
      ⟨Checks.restrict keep (conclude checks).checks, (conclude checks).found.restrict keep,
        none⟩ := by
  induction checks with
  | nil => rfl
  | cons check rest ih =>
    obtain ⟨next, found, answer, closes⟩ := conclude_cons (own check (List.mem_cons_self ..)) sound
    rw [closes] at sound
    have others := ih (fun other member => own other (List.mem_cons_of_mem _ member)) sound
    have rule : next.ruleId = check.ruleId := answer.ruleId
    rw [closes, Findings.restrict_append]
    cases kept : keep check.ruleId with
    | true =>
      have same : Checks.restrict keep (check :: rest) = check :: Checks.restrict keep rest :=
        List.filter_cons_of_pos kept
      rw [same, closes, others, Findings.restrict_of_keep answer.under kept]
      simp [Checks.restrict, rule, kept]
    | false =>
      have same : Checks.restrict keep (check :: rest) = Checks.restrict keep rest :=
        List.filter_cons_of_neg (by simp [kept])
      rw [same, others, Findings.restrict_of_not_keep answer.under kept]
      simp [Checks.restrict, rule, kept]

private theorem isFatal_of_conclude {checks : List (Check σ)} {failure : Failure}
    (failed : (conclude checks).fatal = some failure) : failure.isFatal = true := by
  induction checks with
  | nil => cases failed
  | cons check rest ih =>
    cases check with
    | node c => exact ih failed
    | run c =>
      unfold conclude at failed
      split at failed
      · exact ih failed
      · split at failed
        · rename_i fatal
          cases failed
          exact fatal
        · exact ih failed

/-- The session after its checks have answered. -/
def closed (s : Session σ) : Session σ :=
  { s with
    checks := (conclude s.checks).checks
    faults := s.faults ++ (conclude s.checks).found.faults
    diagnostics := Diagnostic.sort s.diagnostics ++ (conclude s.checks).found.diagnostics
    finished := true }

/-- Without a fatal failure the end of a session gives all that it has gathered. -/
theorem finish_eq {s : Session σ} (unfinished : s.finished = false)
    (sound : (conclude s.checks).fatal = none) :
    s.finish = (s.closed, .ok ⟨s.closed.diagnostics, s.closed.faults, s.filesChecked⟩) := by
  simp only [finish, unfinished, sound]
  rfl

private theorem closed_restrict {s : Session σ} (own : ∀ check ∈ s.checks, check.Own)
    (sound : (conclude s.checks).fatal = none) :
    (s.restrict keep).closed = s.closed.restrict keep := by
  simp only [closed, restrict, conclude_restrict keep own sound, Findings.restrict,
    Diagnostic.sort_filter, List.filter_append]

/-- A session that comes to its end without a fatal failure does so with fewer checks, too. -/
theorem finish_restrict {s : Session σ} (own : ∀ check ∈ s.checks, check.Own)
    (sound : ∀ abort, s.finish.2 = .error abort → abort.isFatal = false) :
    (s.restrict keep).finish =
      (s.finish.1.restrict keep, s.finish.2.map (Outcome.restrict keep)) := by
  cases finished : s.finished with
  | true => simp [finish, restrict, finished, Except.map]
  | false =>
    cases fatal : (conclude s.checks).fatal with
    | some failure =>
      have ended : s.finish.2 = .error (.failure failure) := by
        simp [finish, finished, fatal]
      have harmless : failure.isFatal = false := sound _ ended
      exact absurd (isFatal_of_conclude fatal) (by simp [harmless])
    | none =>
      have fewer : (conclude (s.restrict keep).checks).fatal = none :=
        congrArg Conclusion.fatal (conclude_restrict keep own fatal)
      rw [finish_eq finished fatal, finish_eq (s := s.restrict keep) finished fewer,
        closed_restrict keep own fatal]
      rfl

/-- A run with fewer checks gives what is left of the run with all of them. -/
theorem run_restrict {keep : String → Bool} (kept : keep parseRule = true) (w : Workspace)
    (files : List Path) {s : Session σ} (own : ∀ check ∈ s.checks, check.Own)
    (sound : ∀ abort, (s.run w files).2 = .error abort → abort.isFatal = false) :
    (s.restrict keep).run w files =
      ((s.run w files).1.restrict keep, (s.run w files).2.map (Outcome.restrict keep)) := by
  obtain ⟨checked, still⟩ := checkFiles_restrict kept w files own
  rw [run_eq] at sound
  rw [run_eq, run_eq, checked]
  cases stopped : s.checkFiles w files with
  | mk last abort =>
    rw [stopped] at still sound
    cases abort with
    | some abort => rfl
    | none => exact finish_restrict keep still sound

/-- A file ends the run with a failure that is not fatal, if it does at all. -/
theorem checkFile_abort {w : Workspace} {path : Path} {s : Session σ} {abort : Abort}
    (stopped : (s.checkFile w path).2 = .error abort) : abort.isFatal = false := by
  unfold checkFile at stopped
  split at stopped
  · cases stopped
    rfl
  · split at stopped
    · unfold checkDocument at stopped
      dsimp only at stopped
      split at stopped
      · rename_i failed
        cases stopped
        exact loadIncludes_abort (congrArg Prod.snd failed)
      · cases stopped
    all_goals cases stopped
    all_goals rfl

private theorem checkFiles_abort {w : Workspace} {files : List Path} {s : Session σ} {abort : Abort}
    (stopped : (s.checkFiles w files).2 = some abort) : abort.isFatal = false := by
  induction files generalizing s with
  | nil => cases stopped
  | cons path rest ih =>
    unfold checkFiles at stopped
    split at stopped
    · rename_i checked
      cases stopped
      exact checkFile_abort (congrArg Prod.snd checked)
    · exact ih stopped

namespace Watches

variable {s : Session ImportGraph} {directories : List Path} {nodes : List NodeCheck}
  {requests : List EdgeRequest}

/-- When all files have been checked, the graph has the edges of all of them. -/
theorem checkFiles (valid : s.Watches directories nodes requests)
    (ordinary : ∀ c ∈ nodes, Rules.IsOrdinary c) (w : Workspace) (files : List Path)
    (passed : (s.checkFiles w files).2 = none) :
    (s.checkFiles w files).1.Watches directories nodes
      (requests ++ files.flatMap (requestsOf w directories)) := by
  induction files generalizing s requests with
  | nil =>
    rw [List.flatMap_nil, List.append_nil]
    exact valid
  | cons path rest ih =>
    have kept := (valid.checkFile ordinary w path).1
    rw [Session.checkFiles] at passed ⊢
    cases checked : s.checkFile w path with
    | mk next answer =>
      rw [checked] at kept passed
      cases answer with
      | error abort => cases passed
      | ok found =>
        rw [List.flatMap_cons, ← List.append_assoc]
        exact ih (kept found rfl) passed

/-- A run of the checks that there are never fails fatally. -/
theorem run_abort (valid : s.Watches directories nodes requests)
    (ordinary : ∀ c ∈ nodes, Rules.IsOrdinary c) (w : Workspace) (files : List Path) (abort : Abort)
    (stopped : (s.run w files).2 = .error abort) : abort.isFatal = false := by
  have last := valid.checkFiles ordinary w files
  rw [run_eq] at stopped
  cases checked : s.checkFiles w files with
  | mk next answer =>
    rw [checked] at last stopped
    cases answer with
    | some other =>
      cases stopped
      exact checkFiles_abort (congrArg Prod.snd checked)
    | none =>
      obtain ⟨outcome, success, _⟩ := (last rfl).finish
      rw [success] at stopped
      cases stopped

end Watches

end Session

/-! ### The checks that there are -/

namespace ImportGraph

private theorem edgeDiagnostic_rule {g : ImportGraph} {index count source target : Nat}
    {d : Diagnostic} (written : g.edgeDiagnostic index count source target = .ok d) :
    d.ruleId = ruleId := by
  unfold edgeDiagnostic at written
  split at written
  · cases written
  · cases importer : g.pathOf source <;> cases importee : g.pathOf target <;>
      rw [importer, importee] at written <;> cases written
    rfl

private theorem chainDiagnostics_rule (g : ImportGraph) (count index : Nat) (vertices : List Nat)
    {found : List Diagnostic} (written : g.chainDiagnostics count index vertices = .ok found) :
    ∀ d ∈ found, d.ruleId = ruleId := by
  fun_induction chainDiagnostics g count index vertices generalizing found with
  | case1 index source target rest ih =>
    cases first : g.edgeDiagnostic index count source target with
    | error failure =>
      rw [first] at written
      cases written
    | ok d =>
      cases more : g.chainDiagnostics count (index + 1) (target :: rest) with
      | error failure =>
        rw [first, more] at written
        cases written
      | ok others =>
        rw [first, more] at written
        cases written
        exact List.forall_mem_cons.mpr ⟨edgeDiagnostic_rule first, ih more⟩
  | case2 index vertices short =>
    cases written
    simp

theorem finalize_rule (g : ImportGraph) {found : List Diagnostic}
    (written : g.finalize.2 = .ok found) : ∀ d ∈ found, d.ruleId = ruleId := by
  simp only [finalize] at written
  split at written
  · cases written
  · cases written
  · cases written
    simp
  · exact chainDiagnostics_rule _ _ _ _ written

end ImportGraph

namespace Rules

theorem own_all (settings : Settings) : ∀ check ∈ all settings, check.Own := by
  obtain ⟨nodes, same, ordinary⟩ := all_eq settings
  rw [same]
  intro check member
  rcases List.mem_append.mp member with node | last
  · obtain ⟨c, inside, rfl⟩ := List.mem_map.mp node
    intro ctx node found rule answered d listed
    rw [← rule]
    exact (ordinary c inside).1 ctx node found answered d listed
  · rw [List.mem_singleton.mp last]
    exact fun g found written => ImportGraph.finalize_rule g written

private theorem ruleId_ne_parseRule (settings : Settings) :
    ∀ check ∈ all settings, check.ruleId ≠ Session.parseRule := by
  have names : Session.parseRule ∉ (all settings).map Check.ruleId := by
    change Session.parseRule ∉ (all {}).map Check.ruleId
    decide
  intro check member same
  exact names (List.mem_map.mpr ⟨check, member, same⟩)

/-- The rules whose findings a run with some settings can have. -/
def reported (settings : Settings) (rule : String) : Bool :=
  settings.isEnabled rule || rule == Session.parseRule

theorem enabled_eq_restrict (settings : Settings) :
    enabled settings = Checks.restrict (reported settings) (all settings) := by
  apply List.filter_congr
  intro check member
  have other := ruleId_ne_parseRule settings check member
  simp [reported, other]

/-- Settings that name no rules enable all checks. -/
theorem enabled_all (settings : Settings) :
    enabled { settings with enabled := [], disabled := [] } = all settings :=
  List.filter_eq_self.mpr fun _ _ => rfl

end Rules

namespace Session

/-- The checks that there are, all of them, are watching for cycles from the start. -/
theorem watches_all (settings : Settings) (directories : List Path) : ∃ nodes : List NodeCheck,
    Watches { checks := Rules.all settings, includeDirs := directories } directories nodes [] ∧
      ∀ c ∈ nodes, Rules.IsOrdinary c := by
  obtain ⟨nodes, same, ordinary⟩ := Rules.all_eq settings
  exact ⟨nodes, ⟨⟨.created, rfl, same⟩, rfl, rfl, by simp⟩, ordinary⟩

private theorem run_enabled (w : Workspace) (settings : Settings) (directories files : List Path) :
    run w files { checks := Rules.enabled settings, includeDirs := directories } =
      let all := run w files { checks := Rules.all settings, includeDirs := directories }
      (all.1.restrict (Rules.reported settings),
        all.2.map (Outcome.restrict (Rules.reported settings))) := by
  obtain ⟨nodes, watches, ordinary⟩ := watches_all settings directories
  rw [Rules.enabled_eq_restrict]
  exact run_restrict (by simp [Rules.reported]) w files (Rules.own_all settings)
    (watches.run_abort ordinary w files)

end Session

/-- With some rules turned off, a run of the linter reports what is left of its report with all
rules. -/
theorem lint_reported (w : Workspace) (settings : Settings) (includeDirs : Option (List Path))
    (paths : List Path) :
    lint w settings includeDirs paths =
      (lint w { settings with enabled := [], disabled := [] } includeDirs paths).map
        fun report => { report with
          diagnostics := report.diagnostics.filter fun d => Rules.reported settings d.ruleId
          faults := report.faults.filter fun d => Rules.reported settings d.ruleId
          checksRun := (Rules.enabled settings).length } := by
  unfold lint
  rw [Rules.enabled_all]
  cases collectFiles w paths with
  | error failure => rfl
  | ok files =>
    dsimp only
    generalize includeDirs.getD (settings.includes.map Path.ofString) = directories
    rw [Session.run_enabled]
    dsimp only
    cases (Session.run w files { checks := Rules.all settings, includeDirs := directories }).2 <;>
      rfl

namespace Session

/-- Leaving out some checks leaves out what they found and nothing else. The checks may fail as they
like, but at the end of the run no failure may be fatal. In particular rules that are turned off by
the settings make no difference to the others. -/
theorem run_sublist {σ : Type} (w : Workspace) (directories files : List Path)
    {checks remaining : List (Check σ)} (distinct : (checks.map Check.ruleId).Nodup)
    (named : ∀ check ∈ checks, check.ruleId ≠ parseRule) (own : ∀ check ∈ checks, check.Own)
    (fewer : remaining.Sublist checks)
    (sound : ∀ abort, (run w files { checks := checks, includeDirs := directories }).2 =
      .error abort → abort.isFatal = false) :
    let whole := run w files { checks := checks, includeDirs := directories }
    let part := run w files { checks := remaining, includeDirs := directories }
    let stays (rule : String) : Bool := rule ∈ remaining.map Check.ruleId ∨ rule = parseRule
    part.2 = whole.2.map (Outcome.restrict stays) ∧
      part.1.checks = whole.1.checks.filter (fun check => stays check.ruleId) ∧
      ∀ (settings : Settings) (includeDirs : Option (List Path)) (paths : List Path),
        lint w settings includeDirs paths =
          (lint w { settings with enabled := [], disabled := [] } includeDirs paths).map
            fun report => { report with
              diagnostics := report.diagnostics.filter fun d =>
                settings.isEnabled d.ruleId || d.ruleId == parseRule
              faults := report.faults.filter fun d =>
                settings.isEnabled d.ruleId || d.ruleId == parseRule
              checksRun := (Rules.enabled settings).length } := by
  intro whole part stays
  let all : Session σ := { checks := checks, includeDirs := directories }
  have left : Checks.restrict stays checks = remaining := by
    rw [← Checks.filter_sublist fewer distinct]
    apply List.filter_congr
    intro check member
    simp [stays, named check member]
  have same : all.restrict stays = { checks := remaining, includeDirs := directories } := by
    simp [all, restrict, left]
  have split : part = (whole.1.restrict stays, whole.2.map (Outcome.restrict stays)) := by
    rw [← run_restrict (by simp [stays]) w files own sound, same]
  refine ⟨congrArg Prod.snd split, congrArg (fun result => result.1.checks) split, ?_⟩
  exact fun settings includeDirs paths => lint_reported w settings includeDirs paths

/-- A check that reports, one that fails at every node, one that counts, and one that fails at the
end. -/
def mixedChecks : List (Check (List String)) :=
  [Probe.flag "enum.seen" [.enum], Probe.failing "enum.fails" [.enum] "not today",
    Probe.counting "enum.count" [.enum], Probe.failingEnd "last.fails" [.enum] (.raised "too late")]

theorem own_mixedChecks : ∀ check ∈ mixedChecks, check.Own := by
  have reporting : ∀ ruleId severity kinds describe,
      (Probe.reporting ruleId severity kinds describe).Own := by
    intro ruleId severity kinds describe ctx node found rule answered d member
    cases described : describe ctx node with
    | error failure => simp [described, Except.map] at answered
    | ok message =>
      simp only [described, Except.map, Except.ok.injEq] at answered
      subst answered
      rw [List.mem_singleton.mp member]
      exact rule
  simp only [mixedChecks, List.forall_mem_cons]
  refine ⟨reporting _ _ _ _, reporting _ _ _ _, ?_, ?_, by simp⟩
  · intro labels found answered d member
    obtain rfl := Except.ok.inj answered
    rw [List.mem_singleton.mp member]
    rfl
  · intro labels found answered
    cases answered

/-- Two enumerations in one file, and a file that breaks off. -/
def twoEnums : Workspace :=
  ⟨(Disk.empty.write ["work", "one.thrift"]
      (Text.encodeUtf8 "enum A \x7b\x7d enum B \x7b\x7d".toList)).write ["work", "two.thrift"]
    (Text.encodeUtf8 "enum".toList), ["work"]⟩

/-- Without the second and the last check the run finds what the other two and the parser found. -/
theorem run_sublist_mixedChecks :
    let files := ["one.thrift", "two.thrift"].map Path.ofString
    let remaining := [Probe.flag "enum.seen" [.enum], Probe.counting "enum.count" [.enum]]
    (mixedChecks.map Check.ruleId).Nodup ∧ (∀ check ∈ mixedChecks, check.ruleId ≠ parseRule) ∧
      (∀ check ∈ mixedChecks, check.Own) ∧ remaining.Sublist mixedChecks ∧
      ∃ outcome, (run twoEnums files { checks := mixedChecks }).2 = .ok outcome ∧
        outcome.faults.length = 3 ∧
        (run twoEnums files { checks := remaining }).2 = .ok (outcome.restrict fun rule =>
          rule ∈ ["enum.seen", "enum.count"] ∨ rule = parseRule) := by
  intro files remaining
  have distinct : (mixedChecks.map Check.ruleId).Nodup := by decide
  have named : ∀ check ∈ mixedChecks, check.ruleId ≠ parseRule := by
    simp only [mixedChecks, List.forall_mem_cons]
    decide
  have fewer : remaining.Sublist mixedChecks :=
    .cons_cons _ (.cons _ (.cons_cons _ (.cons _ .slnil)))
  have ended : (match (run twoEnums files { checks := mixedChecks }).2 with
      | .ok outcome => outcome.faults.length == 3
      | .error _ => false) = true := by
    decide +kernel
  refine ⟨distinct, named, own_mixedChecks, fewer, ?_⟩
  split at ended
  · rename_i outcome success
    have sound : ∀ abort, (run twoEnums files { checks := mixedChecks }).2 = .error abort →
        abort.isFatal = false := by
      intro abort stopped
      rw [success] at stopped
      cases stopped
    have part := (run_sublist twoEnums [] files distinct named own_mixedChecks fewer sound).1
    rw [success] at part
    exact ⟨outcome, success, eq_of_beq ended, part⟩
  · cases ended

end Session

end IdlLint

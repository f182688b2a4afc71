import IdlLint.Proofs.CheckIndependence
import IdlLint.Proofs.IncludeCache

/-! The life of a run. A session takes files until it is finished, and nothing after that. Its checks
of the whole run go through their phases in one direction: nodes are shown to them before the end, and
each is asked for its answer at most once, while the session comes to its end. -/
namespace IdlLint

open IdlLint.Schema

/-- The place of a phase in the life of a check. -/
def Phase.rank : Phase → Nat
  | .created => 0
  | .accumulating => 1
  | .finalizing => 2
  | .done => 3

private theorem Phase.rank_of_open {phase : Phase} (accepting : phase.isClosed = false) :
    phase.rank ≤ 1 := by
  cases phase with
  | created => decide
  | accumulating => decide
  | finalizing => cases accepting
  | done => cases accepting

/-- The functions of a check of the whole run, as they are executed. -/
inductive Execution where
  | visit | finalize
deriving DecidableEq, Repr

/-- The check with a record of its executions, which it keeps beside its memory. -/
def RunCheck.recorded {σ : Type} (log : List Execution) (c : RunCheck σ) :
    RunCheck (σ × List Execution) where
  ruleId := c.ruleId
  kinds := c.kinds
  visit ctx node memory :=
    let (next, failure) := c.visit ctx node memory.1
    ((next, memory.2 ++ [.visit]), failure)
  finalize memory :=
    let (next, answer) := c.finalize memory.1
    ((next, memory.2 ++ [.finalize]), answer)
  memory := (c.memory, log)
  phase := c.phase

namespace Check

variable {σ : Type}

/-- The check with a record of its executions. A check of single nodes needs none. -/
def recorded (log : List Execution) : Check σ → Check (σ × List Execution)
  | .node c => .node c
  | .run c => .run (c.recorded log)

/-- The record of a check. -/
def log : Check (σ × List Execution) → List Execution
  | .node _ => []
  | .run c => c.memory.2

/-- The check in a later state: all that changed is its memory and its phase, which only moves
forward. -/
inductive Advances : Check σ → Check σ → Prop where
  | node (c : NodeCheck) : Advances (.node c) (.node c)
  | run (c : RunCheck σ) (memory : σ) {phase : Phase} (forward : c.phase.rank ≤ phase.rank) :
      Advances (.run c) (.run { c with memory := memory, phase := phase })

private theorem Advances.refl (check : Check σ) : check.Advances check := by
  cases check with
  | node c => exact .node c
  | run c => exact .run c c.memory (Nat.le_refl _)

private theorem Advances.trans {a b c : Check σ} (first : a.Advances b) (second : b.Advances c) :
    a.Advances c := by
  cases first with
  | node => exact second
  | run check memory forward =>
    cases second with
    | run _ later further => exact .run check later (forward.trans further)

/-- What a check keeps whenever it meets a node it keeps along any nodes. -/
theorem attend_keeps {P : Check σ → Check σ → Prop} (refl : ∀ a, P a a)
    (trans : ∀ {a b c}, P a b → P b c → P a c) {file : FileContext}
    (meet : ∀ parents node a, P a (a.meet file parents node).1) (visits : List Visit)
    (check : Check σ) : P check (check.attend file visits) := by
  have times : ∀ parents node n a, P a (a.meetTimes file parents node n).1 := by
    intro parents node n
    induction n with
    | zero => exact refl
    | succ n ih => exact fun a => trans (meet parents node a) (ih _)
  have offer : ∀ parents node a, P a (a.offer file parents node).1 := by
    intro parents node a
    unfold Check.offer
    split
    · exact refl a
    · exact times parents node _ a
  induction visits generalizing check with
  | nil => exact refl check
  | cons visit rest ih => exact trans (offer visit.parents visit.node check) (ih _)

private theorem advances_meet (file : FileContext) (parents : List Node) (node : Node)
    (check : Check σ) : check.Advances (check.meet file parents node).1 := by
  cases check with
  | node c =>
    rw [meet_node]
    exact .node c
  | run c =>
    simp only [meet, RunCheck.see]
    split
    · exact .refl _
    · rename_i accepting
      exact .run c _ (Phase.rank_of_open (Bool.not_eq_true _ ▸ accepting))

private theorem advances_conclude (c : RunCheck σ) : (Check.run c).Advances (.run c.conclude.1) := by
  unfold RunCheck.conclude
  split
  · exact .refl _
  · rename_i accepting
    have early : c.phase.rank ≤ 1 := Phase.rank_of_open (Bool.not_eq_true _ ▸ accepting)
    split
    · exact .run c _ (early.trans (by decide))
    · exact .run c _ (early.trans (by decide))

/-! ### Recording -/

/-- The first check is the second with a record. -/
inductive Mirrors : Check (σ × List Execution) → Check σ → Prop where
  | node (c : NodeCheck) : Mirrors (.node c) (.node c)
  | run (log : List Execution) (c : RunCheck σ) : Mirrors (.run (c.recorded log)) (.run c)

private theorem mirrors_recorded (log : List Execution) (b : Check σ) :
    (b.recorded log).Mirrors b := by
  cases b with
  | node c => exact .node c
  | run c => exact .run log c

/-- What a check with a record does to it when it is shown nodes: visits are added. -/
def Visited (a b : Check (σ × List Execution)) : Prop :=
  ∀ c, a.Mirrors c → (∃ d, b.Mirrors d) ∧ ∃ n, b.log = a.log ++ List.replicate n .visit

private theorem Visited.refl (a : Check (σ × List Execution)) : a.Visited a :=
  fun c mirrors => ⟨⟨c, mirrors⟩, 0, (List.append_nil _).symm⟩

private theorem Visited.trans {a b c : Check (σ × List Execution)} (first : a.Visited b)
    (second : b.Visited c) : a.Visited c := by
  intro plain mirrors
  obtain ⟨⟨next, still⟩, m, here⟩ := first plain mirrors
  obtain ⟨last, n, there⟩ := second next still
  exact ⟨last, m + n, by rw [there, here, List.append_assoc, List.replicate_append_replicate]⟩

namespace Mirrors

variable {a : Check (σ × List Execution)} {b : Check σ}

private theorem eq_recorded (mirrors : a.Mirrors b) : a = b.recorded a.log := by
  cases mirrors <;> rfl

private theorem same (mirrors : a.Mirrors b) : a.ruleId = b.ruleId ∧ a.kinds = b.kinds := by
  cases mirrors <;> exact ⟨rfl, rfl⟩

/-- A check with a record does what it does without, and what is executed is a visit. -/
theorem meet (mirrors : a.Mirrors b) (file : FileContext) (parents : List Node) (node : Node) :
    ((a.meet file parents node).1.Mirrors (b.meet file parents node).1 ∧
      (a.meet file parents node).2 = (b.meet file parents node).2) ∧
      ∃ n, (a.meet file parents node).1.log = a.log ++ List.replicate n .visit := by
  cases mirrors with
  | node c =>
    rw [meet_node, meet_node]
    refine ⟨⟨.node c, ?_⟩, 0, rfl⟩
    simp only [Check.meet, ruleId]
    cases c.run ⟨file, c.ruleId, parents⟩ node <;> rfl
  | run log c =>
    have phase : (c.recorded log).phase = c.phase := rfl
    simp only [Check.meet, RunCheck.see, phase]
    split
    · exact ⟨⟨.run log c, rfl⟩, 0, (List.append_nil _).symm⟩
    · let next : RunCheck σ := { c with
        memory := (c.visit ⟨file, c.ruleId, parents⟩ node c.memory).1, phase := .accumulating }
      exact ⟨⟨.run (log ++ [.visit]) next, rfl⟩, 1, rfl⟩

/-- Asked for its answer, a check with a record gives the same one as without, and what is executed
is to finalize it, at most once. -/
theorem conclude (log : List Execution) (c : RunCheck σ) :
    (Check.run (c.recorded log).conclude.1).Mirrors (.run c.conclude.1) ∧
      (c.recorded log).conclude.2 = c.conclude.2 ∧
      ((Check.run (c.recorded log).conclude.1).log = log ∨
        (Check.run (c.recorded log).conclude.1).log = log ++ [.finalize]) := by
  have phase : (c.recorded log).phase = c.phase := rfl
  have answer : (c.recorded log).finalize (c.recorded log).memory =
      (((c.finalize c.memory).1, log ++ [.finalize]), (c.finalize c.memory).2) := rfl
  unfold RunCheck.conclude
  rw [phase, answer]
  split
  · exact ⟨.run log c, rfl, .inl rfl⟩
  · cases c.finalize c.memory with
    | mk memory result =>
      let next (phase : Phase) : RunCheck σ := { c with memory := memory, phase := phase }
      cases result with
      | ok found => exact ⟨.run (log ++ [.finalize]) (next .done), rfl, .inr rfl⟩
      | error failure => exact ⟨.run (log ++ [.finalize]) (next .finalizing), rfl, .inr rfl⟩

end Mirrors

private theorem visited_meet (file : FileContext) (parents : List Node) (node : Node)
    (a : Check (σ × List Execution)) : a.Visited (a.meet file parents node).1 := by
  intro plain mirrors
  obtain ⟨⟨still, _⟩, visits⟩ := mirrors.meet file parents node
  exact ⟨⟨_, still⟩, visits⟩

end Check

namespace Checks

variable {σ τ : Type} {file : FileContext}

/-- What each check keeps along any nodes the checks keep during a walk. -/
theorem forall₂_walk {P : Check σ → Check σ → Prop}
    (attend : ∀ visits check, P check (check.attend file visits)) (checks : List (Check σ)) :
    List.Forall₂ P checks (walk file checks).1 := by
  rw [walk_fst, List.forall₂_map_right_iff]
  exact List.forall₂_same.mpr fun check _ => attend _ check

/-- Checks that are related ask for the same nodes and find the same at each, and stay related. -/
structure Simulates (file : FileContext) (R : Check σ → Check τ → Prop) : Prop where
  same : ∀ {a b}, R a b → a.ruleId = b.ruleId ∧ a.kinds = b.kinds
  meet : ∀ {a b}, R a b → ∀ parents node,
    R (a.meet file parents node).1 (b.meet file parents node).1 ∧
      (a.meet file parents node).2 = (b.meet file parents node).2

namespace Simulates

variable {R : Check σ → Check τ → Prop} (simulates : Simulates file R)
include simulates

private theorem meetTimes {a : Check σ} {b : Check τ} (related : R a b) (parents : List Node)
    (node : Node) (n : Nat) :
    R (a.meetTimes file parents node n).1 (b.meetTimes file parents node n).1 ∧
      (a.meetTimes file parents node n).2 = (b.meetTimes file parents node n).2 := by
  induction n generalizing a b with
  | zero => exact ⟨related, rfl⟩
  | succ n ih =>
    obtain ⟨still, first⟩ := simulates.meet related parents node
    obtain ⟨last, more⟩ := ih still
    exact ⟨last, congrArg₂ Findings.append first more⟩

private theorem offer {a : Check σ} {b : Check τ} (related : R a b) (parents : List Node)
    (node : Node) : R (a.offer file parents node).1 (b.offer file parents node).1 ∧
      (a.offer file parents node).2 = (b.offer file parents node).2 := by
  obtain ⟨rule, kinds⟩ := simulates.same related
  unfold Check.offer Check.interest
  rw [rule, kinds]
  split
  · exact ⟨related, rfl⟩
  · exact simulates.meetTimes related parents node _

private theorem dispatch {as : List (Check σ)} {bs : List (Check τ)} (related : List.Forall₂ R as bs)
    (visit : Visit) :
    List.Forall₂ R (Checks.dispatch file visit as).1 (Checks.dispatch file visit bs).1 ∧
      (Checks.dispatch file visit as).2 = (Checks.dispatch file visit bs).2 := by
  induction related with
  | nil => exact ⟨.nil, rfl⟩
  | cons first _ ih =>
    obtain ⟨still, found⟩ := simulates.offer first visit.parents visit.node
    exact ⟨.cons still ih.1, congrArg₂ Findings.append found ih.2⟩

private theorem dispatchAll {as : List (Check σ)} {bs : List (Check τ)}
    (related : List.Forall₂ R as bs) (visits : List Visit) :
    List.Forall₂ R (Checks.dispatchAll file visits as).1 (Checks.dispatchAll file visits bs).1 ∧
      (Checks.dispatchAll file visits as).2 = (Checks.dispatchAll file visits bs).2 := by
  induction visits generalizing as bs with
  | nil => exact ⟨related, rfl⟩
  | cons visit rest ih =>
    obtain ⟨still, first⟩ := simulates.dispatch related visit
    obtain ⟨last, more⟩ := ih still
    exact ⟨last, congrArg₂ List.cons (congrArg (Prod.mk visit) first) more⟩

/-- Related checks find the same during a walk. -/
theorem walk {as : List (Check σ)} {bs : List (Check τ)} (related : List.Forall₂ R as bs) :
    List.Forall₂ R (Checks.walk file as).1 (Checks.walk file bs).1 ∧
      (Checks.walk file as).2 = (Checks.walk file bs).2 := by
  obtain ⟨still, found⟩ :=
    simulates.dispatchAll related (Schema.walk (.document file.document))
  exact ⟨still, by simp only [Checks.walk, found]⟩

end Simulates

private theorem walk_mirrors (file : FileContext) {as : List (Check (σ × List Execution))}
    {bs : List (Check σ)} (mirrors : List.Forall₂ Check.Mirrors as bs) :
    List.Forall₂ Check.Mirrors (walk file as).1 (walk file bs).1 ∧
      (walk file as).2 = (walk file bs).2 :=
  Simulates.walk ⟨fun mirrors => mirrors.same,
    fun mirrors parents node => (mirrors.meet file parents node).1⟩ mirrors

end Checks

namespace Session

variable {σ τ : Type}

/-! ### Calls -/

/-- A call on a session that makes no other calls. -/
inductive Step where
  | checkFile (w : Workspace) (path : Path)
  | finish

inductive Call where
  | checkFile (w : Workspace) (path : Path)
  | finish
  | run (w : Workspace) (files : List Path)

/-- What a call that gives nothing back ends with. -/
def abort? {α : Type} : Except Abort α → Option Abort
  | .ok _ => none
  | .error abort => some abort

def perform (s : Session σ) : Step → Session σ × Option Abort
  | .checkFile w path => ((s.checkFile w path).1, abort? (s.checkFile w path).2)
  | .finish => (s.finish.1, abort? s.finish.2)

def afterSteps (s : Session σ) (steps : List Step) : Session σ :=
  steps.foldl (fun s step => (s.perform step).1) s

def make (s : Session σ) : Call → Session σ × Option Abort
  | .checkFile w path => s.perform (.checkFile w path)
  | .finish => s.perform .finish
  | .run w files => ((s.run w files).1, abort? (s.run w files).2)

def afterMaking (s : Session σ) (calls : List Call) : Session σ :=
  calls.foldl (fun s call => (s.make call).1) s

/-- The calls that a run makes: one for each file until one of them fails, and one to finish. -/
def stepsOfRun (w : Workspace) : List Path → Session σ → List Step
  | [], _ => [.finish]
  | path :: rest, s =>
    .checkFile w path ::
      if (s.checkFile w path).2.isOk then stepsOfRun w rest (s.checkFile w path).1 else []

def stepsOfCall (s : Session σ) : Call → List Step
  | .checkFile w path => [.checkFile w path]
  | .finish => [.finish]
  | .run w files => s.stepsOfRun w files

/-- The calls that are made in the course of some calls. -/
def steps : List Call → Session σ → List Step
  | [], _ => []
  | call :: rest, s => s.stepsOfCall call ++ steps rest (s.make call).1

private theorem afterSteps_append (s : Session σ) (one two : List Step) :
    s.afterSteps (one ++ two) = (s.afterSteps one).afterSteps two :=
  List.foldl_append ..

private theorem afterSteps_run (w : Workspace) (files : List Path) (s : Session σ) :
    s.afterSteps (s.stepsOfRun w files) = (s.run w files).1 := by
  induction files generalizing s with
  | nil => rfl
  | cons path rest ih =>
    rw [stepsOfRun, run, afterSteps, List.foldl_cons, ← afterSteps, perform]
    cases checked : s.checkFile w path with
    | mk next answer =>
      cases answer with
      | error abort => rfl
      | ok found => exact ih next

private theorem afterSteps_call (s : Session σ) (call : Call) :
    s.afterSteps (s.stepsOfCall call) = (s.make call).1 := by
  cases call with
  | checkFile w path => rfl
  | finish => rfl
  | run w files => exact afterSteps_run w files s

private theorem afterSteps_steps (calls : List Call) (s : Session σ) :
    s.afterSteps (s.steps calls) = s.afterMaking calls := by
  induction calls generalizing s with
  | nil => rfl
  | cons call rest ih =>
    rw [steps, afterSteps_append, afterSteps_call, ih]
    rfl

/-! ### The end -/

/-- Once a session is finished, it refuses every call and stays as it is. -/
theorem perform_finished {s : Session σ} (finished : s.finished = true) (step : Step) :
    s.perform step = (s, some .finished) := by
  cases step with
  | checkFile w path => simp [perform, checkFile, finished, abort?]
  | finish => simp [perform, finish, finished, abort?]

private theorem make_finished {s : Session σ} (finished : s.finished = true) (call : Call) :
    s.make call = (s, some .finished) := by
  cases call with
  | checkFile w path => exact perform_finished finished (.checkFile w path)
  | finish => exact perform_finished finished .finish
  | run w files =>
    cases files with
    | nil => exact perform_finished finished .finish
    | cons path rest => simp [make, run, checkFile, finished, abort?]

private theorem finished_finish (s : Session σ) : s.finish.1.finished = true := by
  unfold finish
  split
  · assumption
  · dsimp only
    split <;> rfl

/-- A session is finished from its first call to finish on, whatever comes of that call. -/
theorem finished_afterSteps (s : Session σ) (steps : List Step) :
    (s.afterSteps steps).finished = true ↔ s.finished = true ∨ .finish ∈ steps := by
  induction steps generalizing s with
  | nil => simp [afterSteps]
  | cons step rest ih =>
    rw [afterSteps, List.foldl_cons, ← afterSteps, ih, List.mem_cons]
    cases step with
    | checkFile w path => simp [perform, (checkFile_frame w path s).2]
    | finish => simp [perform, finished_finish]

/-! ### What a step does to the checks -/

/-- What each check keeps along any nodes the checks keep while a file is checked. -/
theorem forall₂_checkFile {P : Check σ → Check σ → Prop} (refl : ∀ a, P a a)
    (attend : ∀ file visits check, P check (check.attend file visits)) (w : Workspace)
    (path : Path) (s : Session σ) : List.Forall₂ P s.checks (s.checkFile w path).1.checks := by
  have unchanged : List.Forall₂ P s.checks s.checks := List.forall₂_same.mpr fun a _ => refl a
  unfold checkFile
  split
  · exact unchanged
  · split
    · unfold checkDocument
      dsimp only
      split
      · exact unchanged
      · exact Checks.forall₂_walk (attend _) s.checks
    all_goals exact unchanged

/-- What each check keeps when it is asked for its answer the checks keep when all of them are. Those
behind a fatal failure are not asked. -/
theorem forall₂_conclude {P : Check σ → Check σ → Prop} (refl : ∀ a, P a a)
    (conclude : ∀ c : RunCheck σ, P (.run c) (.run c.conclude.1)) (checks : List (Check σ)) :
    List.Forall₂ P checks (Session.conclude checks).checks := by
  induction checks with
  | nil => exact .nil
  | cons check rest ih =>
    cases check with
    | node c => exact .cons (refl _) ih
    | run c =>
      have answered := conclude c
      rw [Session.conclude]
      cases concluded : c.conclude with
      | mk next answer =>
        rw [concluded] at answered
        cases answer with
        | ok found => exact .cons answered ih
        | error failure =>
          dsimp only
          split
          · exact .cons answered (List.forall₂_same.mpr fun a _ => refl a)
          · exact .cons answered ih

private theorem forall₂_finish {P : Check σ → Check σ → Prop} (refl : ∀ a, P a a)
    (conclude : ∀ c : RunCheck σ, P (.run c) (.run c.conclude.1)) (s : Session σ) :
    List.Forall₂ P s.checks s.finish.1.checks := by
  unfold finish
  split
  · exact List.forall₂_same.mpr fun a _ => refl a
  · dsimp only
    split <;> exact forall₂_conclude refl conclude s.checks

/-- The checks only ever move forward. -/
theorem advances_perform (s : Session σ) (step : Step) :
    List.Forall₂ Check.Advances s.checks (s.perform step).1.checks := by
  cases step with
  | checkFile w path =>
    refine forall₂_checkFile Check.Advances.refl ?_ w path s
    intro file
    exact Check.attend_keeps Check.Advances.refl Check.Advances.trans
      fun parents node check => check.advances_meet file parents node
  | finish => exact forall₂_finish Check.Advances.refl Check.advances_conclude s

/-! ### Recording a session -/

/-- The session with other checks. -/
def withChecks (s : Session σ) (checks : List (Check τ)) : Session τ where
  checks := checks
  includeDirs := s.includeDirs
  faults := s.faults
  documents := s.documents
  diagnostics := s.diagnostics
  filesChecked := s.filesChecked
  finished := s.finished

/-- The session with records for its checks. -/
def recorded (logs : List (List Execution)) (s : Session σ) : Session (σ × List Execution) :=
  s.withChecks (List.zipWith Check.recorded logs s.checks)

/-- What has been executed of each check after some steps. -/
def executed (s : Session σ) (steps : List Step) : List (List Execution) :=
  ((s.recorded (s.checks.map fun _ => [])).afterSteps steps).checks.map Check.log

variable {s : Session σ} {as : List (Check (σ × List Execution))}

private theorem checkFile_mirrors (mirrors : List.Forall₂ Check.Mirrors as s.checks) (w : Workspace)
    (path : Path) : ∃ bs, (s.withChecks as).checkFile w path =
      ((s.checkFile w path).1.withChecks bs, (s.checkFile w path).2) ∧
        List.Forall₂ Check.Mirrors bs (s.checkFile w path).1.checks := by
  have active : (s.withChecks as).finished = s.finished := rfl
  unfold checkFile
  rw [active]
  split
  · exact ⟨as, rfl, mirrors⟩
  · split
    · rename_i document _
      simp only [checkDocument, withChecks]
      split
      · exact ⟨as, rfl, mirrors⟩
      · rename_i includes _
        obtain ⟨still, found⟩ := Checks.walk_mirrors
          ⟨path.toString, document, includes, s.includeDirs, w⟩ mirrors
        rw [found]
        exact ⟨_, rfl, still⟩
    all_goals exact ⟨as, rfl, mirrors⟩

private theorem conclude_mirrors {bs : List (Check σ)} (mirrors : List.Forall₂ Check.Mirrors as bs) :
    List.Forall₂ Check.Mirrors (conclude as).checks (conclude bs).checks ∧
      (conclude as).found = (conclude bs).found ∧ (conclude as).fatal = (conclude bs).fatal := by
  induction mirrors with
  | nil => exact ⟨.nil, rfl, rfl⟩
  | cons first others ih =>
    obtain ⟨still, found, fatal⟩ := ih
    cases first with
    | node c => exact ⟨.cons (.node c) still, found, fatal⟩
    | run log c =>
      obtain ⟨next, same, _⟩ := Check.Mirrors.conclude log c
      have rule : (c.recorded log).ruleId = c.ruleId := rfl
      rw [conclude, conclude, rule]
      cases plain : c.conclude with
      | mk last answer =>
        cases recorded : (c.recorded log).conclude with
        | mk kept other =>
          rw [plain, recorded] at next same
          obtain rfl : other = answer := same
          cases other with
          | ok diagnostics => exact ⟨.cons next still, congrArg (Findings.append _) found, fatal⟩
          | error failure =>
            dsimp only
            split
            · exact ⟨.cons next others, rfl, rfl⟩
            · exact ⟨.cons next still, congrArg (Findings.append _) found, fatal⟩

private theorem finish_mirrors (mirrors : List.Forall₂ Check.Mirrors as s.checks) :
    ∃ bs, (s.withChecks as).finish = (s.finish.1.withChecks bs, s.finish.2) ∧
      List.Forall₂ Check.Mirrors bs s.finish.1.checks := by
  obtain ⟨still, found, fatal⟩ := conclude_mirrors mirrors
  have active : (s.withChecks as).finished = s.finished := rfl
  have checks : (s.withChecks as).checks = as := rfl
  unfold finish
  rw [active, checks]
  split
  · exact ⟨as, rfl, mirrors⟩
  · dsimp only
    rw [found, fatal]
    split
    · exact ⟨_, rfl, still⟩
    · exact ⟨_, rfl, still⟩

/-- A step does the same whether it is recorded or not. -/
theorem perform_mirrors (mirrors : List.Forall₂ Check.Mirrors as s.checks) (step : Step) :
    ∃ bs, (s.withChecks as).perform step = ((s.perform step).1.withChecks bs, (s.perform step).2) ∧
      List.Forall₂ Check.Mirrors bs (s.perform step).1.checks := by
  cases step with
  | checkFile w path =>
    obtain ⟨bs, same, still⟩ := checkFile_mirrors mirrors w path
    exact ⟨bs, by simp only [perform, same], still⟩
  | finish =>
    obtain ⟨bs, same, still⟩ := finish_mirrors mirrors
    exact ⟨bs, by simp only [perform, same], still⟩

private theorem afterSteps_mirrors (mirrors : List.Forall₂ Check.Mirrors as s.checks)
    (steps : List Step) : ∃ bs, (s.withChecks as).afterSteps steps =
      (s.afterSteps steps).withChecks bs ∧
        List.Forall₂ Check.Mirrors bs (s.afterSteps steps).checks := by
  induction steps generalizing s as with
  | nil => exact ⟨as, rfl, mirrors⟩
  | cons step rest ih =>
    obtain ⟨bs, same, still⟩ := perform_mirrors mirrors step
    obtain ⟨cs, more, last⟩ := ih still
    refine ⟨cs, ?_, last⟩
    rw [afterSteps, List.foldl_cons, ← afterSteps, same]
    exact more

private theorem mirrors_start (checks : List (Check σ)) :
    List.Forall₂ Check.Mirrors (List.zipWith Check.recorded (checks.map fun _ => []) checks)
      checks := by
  induction checks with
  | nil => exact .nil
  | cons check rest ih => exact .cons (check.mirrors_recorded []) ih

private theorem eq_zipWith {bs : List (Check σ)} (mirrors : List.Forall₂ Check.Mirrors as bs) :
    as = List.zipWith Check.recorded (as.map Check.log) bs := by
  induction mirrors with
  | nil => rfl
  | cons first _ ih =>
    rw [List.map_cons, List.zipWith_cons_cons, ← ih, ← first.eq_recorded]

/-- Recording changes nothing but the records. -/
theorem recorded_afterSteps (s : Session σ) (steps : List Step) :
    (s.recorded (s.checks.map fun _ => [])).afterSteps steps =
      (s.afterSteps steps).recorded (s.executed steps) ∧
    List.Forall₂ Check.Mirrors
      ((s.recorded (s.checks.map fun _ => [])).afterSteps steps).checks
      (s.afterSteps steps).checks := by
  obtain ⟨bs, same, mirrors⟩ := afterSteps_mirrors (mirrors_start s.checks) steps
  have listed : s.executed steps = bs.map Check.log := by
    rw [executed, recorded, same]
    rfl
  rw [recorded, recorded, listed, same, ← eq_zipWith mirrors]
  exact ⟨rfl, mirrors⟩

/-- What holds of two checks whenever the first has a record holds of checks that have records. -/
theorem forall₂_of_mirrors {Q : Check (σ × List Execution) → Check (σ × List Execution) → Prop}
    {bs : List (Check (σ × List Execution))} {plain : List (Check σ)}
    (mirrors : List.Forall₂ Check.Mirrors as plain)
    (related : List.Forall₂ (fun a b => ∀ c, a.Mirrors c → Q a b) as bs) :
    List.Forall₂ Q as bs := by
  induction mirrors generalizing bs with
  | nil =>
    cases related
    exact .nil
  | cons first _ ih =>
    cases related with
    | cons here rest => exact .cons (here _ first) (ih rest)

private theorem executed_nil (s : Session σ) : s.executed [] = s.checks.map fun _ => [] := by
  have start : ∀ checks : List (Check σ),
      (List.zipWith Check.recorded (checks.map fun _ => []) checks).map Check.log =
        checks.map fun _ => [] := by
    intro checks
    induction checks with
    | nil => rfl
    | cons check rest ih =>
      rw [List.map_cons, List.zipWith_cons_cons, List.map_cons, ih]
      cases check <;> rfl
  exact start s.checks

private theorem executed_concat (s : Session σ) (steps : List Step) (step : Step) :
    s.executed (steps ++ [step]) =
      (((s.recorded (s.checks.map fun _ => [])).afterSteps steps).perform step).1.checks.map
        Check.log := by
  rw [executed, afterSteps_append]
  rfl

/-- Checking a file executes visits and nothing else. -/
theorem executed_checkFile (s : Session σ) (steps : List Step) (w : Workspace) (path : Path) :
    List.Forall₂ (fun old new => ∃ n, new = old ++ List.replicate n .visit)
      (s.executed steps) (s.executed (steps ++ [.checkFile w path])) := by
  rw [executed_concat, executed, List.forall₂_map_left_iff, List.forall₂_map_right_iff]
  refine forall₂_of_mirrors (recorded_afterSteps s steps).2 ?_
  have visited := forall₂_checkFile Check.Visited.refl (fun file => Check.attend_keeps
    Check.Visited.refl Check.Visited.trans fun parents node a => a.visited_meet file parents node)
    w path ((s.recorded (s.checks.map fun _ => [])).afterSteps steps)
  exact visited.imp fun a b related c mirrors => (related c mirrors).2

/-- Coming to the end finalizes each check at most once and executes nothing else. -/
theorem executed_finish (s : Session σ) (steps : List Step) :
    List.Forall₂ (fun old new => new = old ∨ new = old ++ [.finalize])
      (s.executed steps) (s.executed (steps ++ [.finish])) := by
  rw [executed_concat, executed, List.forall₂_map_left_iff, List.forall₂_map_right_iff]
  refine forall₂_of_mirrors (recorded_afterSteps s steps).2 ?_
  refine forall₂_finish (fun a c mirrors => .inl rfl) ?_ _
  intro a c mirrors
  cases mirrors with
  | run log c => exact (Check.Mirrors.conclude log c).2.2

/-- After the end nothing is executed. -/
theorem executed_finished (s : Session σ) {steps : List Step} (ended : .finish ∈ steps)
    (step : Step) : s.executed (steps ++ [step]) = s.executed steps := by
  have finished := (finished_afterSteps (s.recorded (s.checks.map fun _ => [])) steps).mpr
    (.inr ended)
  rw [executed_concat, perform_finished finished]
  rfl

/-- Before the end no check has been finalized, and after it each has been at most once. -/
theorem count_finalize (s : Session σ) (steps : List Step) : ∀ log ∈ s.executed steps,
    (.finish ∉ steps → log.count .finalize = 0) ∧ log.count .finalize ≤ 1 := by
  have follows : ∀ {R : List Execution → List Execution → Prop} {P Q : List Execution → Prop}
      {olds news : List (List Execution)}, (∀ old new, P old → R old new → Q new) →
      (∀ old ∈ olds, P old) → List.Forall₂ R olds news → ∀ new ∈ news, Q new := by
    intro R P Q olds news step before related
    induction related with
    | nil => simp
    | cons first _ ih =>
      rw [List.forall_mem_cons] at before ⊢
      exact ⟨step _ _ before.1 first, ih before.2⟩
  induction steps using List.reverseRecOn with
  | nil =>
    intro log member
    rw [executed_nil] at member
    obtain ⟨_, _, rfl⟩ := List.mem_map.mp member
    exact ⟨fun _ => rfl, Nat.zero_le _⟩
  | append_singleton steps step ih =>
    by_cases ended : .finish ∈ steps
    · rw [executed_finished s ended]
      intro log member
      exact ⟨fun absent => absurd (List.mem_append_left _ ended) absent, (ih log member).2⟩
    · cases step with
      | checkFile w path =>
        refine follows ?_ ih (executed_checkFile s steps w path)
        rintro old new ⟨before, _⟩ ⟨n, rfl⟩
        have none : (old ++ List.replicate n Execution.visit).count .finalize = 0 := by
          rw [List.count_append, before ended, List.count_replicate]
          rfl
        exact ⟨fun _ => none, by rw [none]; exact Nat.zero_le _⟩
      | finish =>
        refine follows ?_ ih (executed_finish s steps)
        rintro old new ⟨before, _⟩ either
        refine ⟨fun absent => absurd (by simp) absent, ?_⟩
        rcases either with rfl | rfl
        · rw [before ended]
          exact Nat.zero_le _
        · rw [List.count_append, before ended]
          decide

/-- Any calls on a new session come down to calls that check a file or finish. At each of these the
phases of the checks only move forward. The first call to finish closes the session for good, even if
it fails: every later call fails and changes nothing. As recorded beside the memories of the checks,
which the record does not change, their visits are executed before that call, each is finalized at
most once during it, and nothing is executed after it. -/
theorem lifecycle (checks : List (Check σ)) (directories : List Path) (calls : List Call) :
    let start : Session σ := { checks := checks, includeDirs := directories }
    let steps := start.steps calls
    let executed (k : Nat) := start.executed (steps.take k)
    start.afterMaking calls = start.afterSteps steps ∧
    (∀ earlier call later, calls = earlier ++ call :: later → .finish ∈ start.steps earlier →
      (start.afterMaking earlier).make call = (start.afterMaking earlier, some .finished)) ∧
    (∀ k, (start.recorded (checks.map fun _ => [])).afterSteps (steps.take k) =
      (start.afterSteps (steps.take k)).recorded (executed k)) ∧
    (∀ k step, steps[k]? = some step →
      let before := start.afterSteps (steps.take k)
      start.afterSteps (steps.take (k + 1)) = (before.perform step).1 ∧
      List.Forall₂ Check.Advances before.checks (before.perform step).1.checks ∧
      (.finish ∈ steps.take k →
        before.perform step = (before, some .finished) ∧ executed (k + 1) = executed k) ∧
      (.finish ∉ steps.take k →
        (∀ w path, step = .checkFile w path →
          List.Forall₂ (fun old new => ∃ n, new = old ++ List.replicate n .visit)
            (executed k) (executed (k + 1))) ∧
        (step = .finish → List.Forall₂ (fun old new => new = old ∨ new = old ++ [.finalize])
          (executed k) (executed (k + 1))))) ∧
    ∀ log ∈ executed steps.length, log.count .finalize ≤ 1 := by
  intro start steps executed
  refine ⟨(afterSteps_steps calls start).symm, ?_, ?_, ?_, ?_⟩
  · intro earlier call later _ ended
    apply make_finished
    rw [← afterSteps_steps]
    exact (finished_afterSteps start _).mpr (.inr ended)
  · exact fun k => (recorded_afterSteps start (steps.take k)).1
  · intro k step here
    have next : steps.take (k + 1) = steps.take k ++ [step] := by
      rw [List.take_add_one, here]
      rfl
    simp only [executed, next]
    refine ⟨afterSteps_append start _ [step], advances_perform _ step, ?_, ?_⟩
    · intro ended
      exact ⟨perform_finished ((finished_afterSteps start _).mpr (.inr ended)) step,
        executed_finished start ended step⟩
    · intro _
      refine ⟨?_, ?_⟩
      · rintro w path rfl
        exact executed_checkFile start _ w path
      · rintro rfl
        exact executed_finish start _
  · intro log member
    exact (count_finalize start _ log member).2

end Session

end IdlLint

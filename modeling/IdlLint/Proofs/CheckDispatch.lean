import IdlLint.Lint.Dispatch
import IdlLint.Rules.Catalog

/-! What a walk through a document does to each check by itself, and under which rules its findings
stand. -/
namespace IdlLint

open IdlLint.Schema

namespace NodeCheck

/-- All findings of a check stand under the rule that the check was called with. -/
def Honest (c : NodeCheck) : Prop :=
  ∀ ctx node found, c.run ctx node = .ok found → ∀ d ∈ found, d.ruleId = ctx.ruleId

end NodeCheck

namespace Check

variable {σ : Type}

/-- Shows some nodes to a check, one after the other. -/
def attend (file : FileContext) (visits : List Visit) (check : Check σ) : Check σ :=
  visits.foldl (fun check visit => (check.offer file visit.parents visit.node).1) check

theorem meet_node (file : FileContext) (parents : List Node) (node : Node) (c : NodeCheck) :
    (meet file parents node (.node c : Check σ)).1 = .node c := by
  simp only [meet]
  split <;> rfl

private theorem meetTimes_node (file : FileContext) (parents : List Node) (node : Node)
    (c : NodeCheck) (n : Nat) :
    (meetTimes file parents node n (.node c : Check σ)).1 = .node c := by
  induction n with
  | zero => rfl
  | succ n ih => simp only [meetTimes, meet_node, ih]

/-- A check of single nodes remembers nothing. -/
theorem offer_node (file : FileContext) (parents : List Node) (node : Node) (c : NodeCheck) :
    (offer file parents node (.node c : Check σ)).1 = .node c := by
  unfold offer
  split
  · rfl
  · exact meetTimes_node ..

theorem attend_node (file : FileContext) (visits : List Visit) (c : NodeCheck) :
    attend file visits (.node c : Check σ) = .node c := by
  induction visits with
  | nil => rfl
  | cons visit rest ih => rwa [attend, List.foldl_cons, offer_node]

/-- A check is not shown nodes of other kinds than it asked for. -/
theorem offer_of_notMem (file : FileContext) (parents : List Node) {node : Node}
    {check : Check σ} (other : node.kind ∉ check.kinds) :
    check.offer file parents node = (check, {}) := by
  unfold offer interest
  rw [List.count_eq_zero.mpr other]
  split <;> rfl

theorem kinds_meet (file : FileContext) (parents : List Node) (node : Node) (check : Check σ) :
    (check.meet file parents node).1.kinds = check.kinds := by
  cases check with
  | node c => rw [meet_node]
  | run c =>
    simp only [meet, RunCheck.see]
    split <;> rfl

private theorem kinds_meetTimes (file : FileContext) (parents : List Node) (node : Node) (n : Nat)
    (check : Check σ) : (check.meetTimes file parents node n).1.kinds = check.kinds := by
  induction n generalizing check with
  | zero => rfl
  | succ n ih => exact (ih _).trans (kinds_meet ..)

private theorem kinds_offer (file : FileContext) (parents : List Node) (node : Node)
    (check : Check σ) : (check.offer file parents node).1.kinds = check.kinds := by
  unfold offer
  split
  · rfl
  · exact kinds_meetTimes ..

/-- Only the nodes that a check asked for make a difference to it. -/
theorem attend_filter (file : FileContext) (visits : List Visit) (check : Check σ) :
    check.attend file visits =
      check.attend file (visits.filter fun visit => visit.node.kind ∈ check.kinds) := by
  induction visits generalizing check with
  | nil => rfl
  | cons visit rest ih =>
    have step := ih (check.offer file visit.parents visit.node).1
    rw [kinds_offer] at step
    by_cases asked : visit.node.kind ∈ check.kinds
    · rw [List.filter_cons_of_pos (by simpa using asked)]
      exact step
    · rw [List.filter_cons_of_neg (by simpa using asked)]
      rw [offer_of_notMem file visit.parents asked] at step
      rw [← step, attend, List.foldl_cons, offer_of_notMem file visit.parents asked]
      rfl

/-- What a check of single nodes finds stands under a rule in `rules`. -/
def Keeps (rules : String → Prop) (check : Check σ) : Prop :=
  ∀ c, check = .node c → c.Honest ∧ rules c.ruleId

variable {rules : String → Prop} (file : FileContext) (parents : List Node) (node : Node)

private theorem Keeps.meet {check : Check σ} (keeps : check.Keeps rules) :
    (check.meet file parents node).1.Keeps rules ∧
      ∀ d ∈ (check.meet file parents node).2.diagnostics, rules d.ruleId := by
  cases check with
  | node c =>
    rw [meet_node]
    refine ⟨keeps, ?_⟩
    obtain ⟨honest, rule⟩ := keeps c rfl
    intro d member
    simp only [Check.meet] at member
    split at member
    · rename_i found answered
      rw [honest _ _ found answered d member]
      exact rule
    · cases member
  | run c =>
    refine ⟨?_, ?_⟩
    · rintro other ⟨⟩
    · rintro d ⟨⟩

private theorem Keeps.meetTimes {check : Check σ} (keeps : check.Keeps rules) (n : Nat) :
    (check.meetTimes file parents node n).1.Keeps rules ∧
      ∀ d ∈ (check.meetTimes file parents node n).2.diagnostics, rules d.ruleId := by
  induction n generalizing check with
  | zero => exact ⟨keeps, by rintro d ⟨⟩⟩
  | succ n ih =>
    obtain ⟨kept, first⟩ := keeps.meet file parents node
    obtain ⟨last, more⟩ := ih kept
    refine ⟨last, ?_⟩
    intro d member
    rcases List.mem_append.mp member with here | later
    · exact first d here
    · exact more d later

private theorem Keeps.offer {check : Check σ} (keeps : check.Keeps rules) :
    (check.offer file parents node).1.Keeps rules ∧
      ∀ d ∈ (check.offer file parents node).2.diagnostics, rules d.ruleId := by
  unfold Check.offer
  split
  · exact ⟨keeps, by rintro d ⟨⟩⟩
  · exact keeps.meetTimes file parents node _

end Check

namespace Checks

variable {σ : Type} {rules : String → Prop} (file : FileContext)

theorem dispatch_fst (visit : Visit) (checks : List (Check σ)) :
    (dispatch file visit checks).1 =
      checks.map fun check => (check.offer file visit.parents visit.node).1 := by
  induction checks with
  | nil => rfl
  | cons check rest ih => rw [List.map_cons, ← ih]; rfl

private theorem dispatchAll_fst (visits : List Visit) (checks : List (Check σ)) :
    (dispatchAll file visits checks).1 = checks.map (Check.attend file visits) := by
  induction visits generalizing checks with
  | nil =>
    have same : Check.attend file ([] : List Visit) = (id : Check σ → Check σ) := rfl
    rw [same, List.map_id]
    rfl
  | cons visit rest ih =>
    simp only [dispatchAll, ih, dispatch_fst, List.map_map]
    rfl

/-- The walk shows each check all nodes, whatever the other checks do. -/
theorem walk_fst (checks : List (Check σ)) :
    (walk file checks).1 =
      checks.map (Check.attend file (Schema.walk (.document file.document))) :=
  dispatchAll_fst file _ checks

private theorem dispatch_keeps (visit : Visit) {checks : List (Check σ)}
    (keeps : ∀ check ∈ checks, check.Keeps rules) :
    (∀ check ∈ (dispatch file visit checks).1, check.Keeps rules) ∧
      ∀ d ∈ (dispatch file visit checks).2.diagnostics, rules d.ruleId := by
  induction checks with
  | nil => exact ⟨keeps, by rintro d ⟨⟩⟩
  | cons check rest ih =>
    have here := keeps check (List.mem_cons_self ..)
    obtain ⟨kept, first⟩ := here.offer file visit.parents visit.node
    obtain ⟨others, more⟩ := ih fun other member => keeps other (List.mem_cons_of_mem _ member)
    refine ⟨?_, ?_⟩
    · intro other member
      rcases List.mem_cons.mp member with rfl | later
      · exact kept
      · exact others other later
    · intro d member
      rcases List.mem_append.mp member with found | later
      · exact first d found
      · exact more d later

private theorem dispatchAll_keeps (visits : List Visit) {checks : List (Check σ)}
    (keeps : ∀ check ∈ checks, check.Keeps rules) :
    ∀ result ∈ (dispatchAll file visits checks).2, ∀ d ∈ result.2.diagnostics, rules d.ruleId := by
  induction visits generalizing checks with
  | nil => rintro result ⟨⟩
  | cons visit rest ih =>
    obtain ⟨kept, first⟩ := dispatch_keeps file visit keeps
    intro result member
    rcases List.mem_cons.mp member with rfl | later
    · exact first
    · exact ih kept result later

private theorem mem_diagnostics_foldr {d : Diagnostic} {all : List Findings}
    (member : d ∈ (all.foldr Findings.append {}).diagnostics) :
    ∃ found ∈ all, d ∈ found.diagnostics := by
  induction all with
  | nil => cases member
  | cons first rest ih =>
    rcases List.mem_append.mp member with here | later
    · exact ⟨first, List.mem_cons_self .., here⟩
    · obtain ⟨found, inside, listed⟩ := ih later
      exact ⟨found, List.mem_cons_of_mem _ inside, listed⟩

/-- What a walk finds stands under the rules of the checks of single nodes. -/
theorem walk_keeps {checks : List (Check σ)} (keeps : ∀ check ∈ checks, check.Keeps rules) :
    ∀ d ∈ (walk file checks).2.diagnostics, rules d.ruleId := by
  intro d member
  obtain ⟨found, inside, listed⟩ := mem_diagnostics_foldr member
  obtain ⟨result, dispatched, rfl⟩ := List.mem_map.mp inside
  exact dispatchAll_keeps file _ keeps result dispatched d listed

end Checks

namespace Rules

open IdlLint.Config

@[grind =] theorem ruleId_error (ctx : Context) (position : Position) (message : String) :
    (ctx.error position message).ruleId = ctx.ruleId := rfl

@[grind =] theorem ruleId_warning (ctx : Context) (position : Position) (message : String) :
    (ctx.warning position message).ruleId = ctx.ruleId := rfl

/-- A check of single nodes that answers under its own rule, which is not the one about cycles. -/
def IsOrdinary (c : NodeCheck) : Prop :=
  c.Honest ∧ c.ruleId ≠ ImportGraph.ruleId

/-- The last of all checks looks for cycles, the others are ordinary. -/
theorem all_eq (settings : Settings) : ∃ nodes : List NodeCheck,
    all settings = nodes.map .node ++ [ImportGraph.check] ∧ ∀ c ∈ nodes, IsOrdinary c := by
  refine ⟨[_, _, _, _, _, _, _, _, _, _, _, _], rfl, ?_⟩
  simp only [List.forall_mem_cons]
  refine ⟨?_, ?_, ?_, ?_, ?_, ?_, ?_, ?_, ?_, ?_, ?_, ?_, by simp⟩
  all_goals
    refine ⟨?_, of_decide_eq_true rfl⟩
    intro ctx node found answered d member
  · grind [constantReference]
  · grind [enumSize]
  · grind [fieldIdMissing]
  · grind [fieldIdNegative]
  · grind [fieldIdZero]
  · grind [includeRestricted]
  · grind [mapKeyType]
  · grind [mapValueDisallowed]
  · grind [namesReserved]
  · grind [namespacePatterns]
  · grind [setValueType]
  · grind [typesDisallowed]

/-- The same holds of the checks that are enabled, if the one for cycles is. -/
theorem enabled_eq {settings : Settings} (active : settings.isEnabled ImportGraph.ruleId = true) :
    ∃ nodes : List NodeCheck,
      enabled settings = nodes.map .node ++ [ImportGraph.check] ∧ ∀ c ∈ nodes, IsOrdinary c := by
  obtain ⟨nodes, same, ordinary⟩ := all_eq settings
  refine ⟨nodes.filter fun c => settings.isEnabled c.ruleId, ?_, ?_⟩
  · have last : [ImportGraph.check].filter (fun check => settings.isEnabled check.ruleId) =
        [ImportGraph.check] := List.filter_cons_of_pos active
    rw [enabled, same, List.filter_append, List.filter_map, last]
    rfl
  · intro c member
    exact ordinary c (List.mem_filter.mp member).1

end Rules

end IdlLint

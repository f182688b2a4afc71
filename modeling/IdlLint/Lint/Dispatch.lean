import IdlLint.Lint.Check
import IdlLint.Lint.Suppression
import IdlLint.Schema.Walk

/-! Showing a node to every check that asked for its kind. A check that fails leaves a fault and
does not keep the others from running. -/
namespace IdlLint

open IdlLint.Schema

/-- What checks found, and which of them failed. -/
structure Findings where
  diagnostics : List Diagnostic := []
  faults : List Diagnostic := []
deriving DecidableEq, Repr, Inhabited

namespace Findings

def append (a b : Findings) : Findings :=
  ⟨a.diagnostics ++ b.diagnostics, a.faults ++ b.faults⟩

instance : Append Findings := ⟨append⟩

end Findings

/-- What is said of a check that failed. -/
def faultMessage (failure : Failure) : String :=
  "internal error in check: " ++ failure.message

namespace Check

variable {σ : Type}

/-- Shows a node to a check once. -/
def meet (file : FileContext) (parents : List Node) (node : Node) (check : Check σ) :
    Check σ × Findings :=
  let ctx : Context := ⟨file, check.ruleId, parents⟩
  let fault (failure : Failure) : Diagnostic := ctx.error node.position (faultMessage failure)
  match check with
  | .node c =>
    match c.run ctx node with
    | .ok diagnostics => (.node c, ⟨diagnostics, []⟩)
    | .error failure => (.node c, ⟨[], [fault failure]⟩)
  | .run c =>
    let (c', failure) := c.see ctx node
    (.run c', ⟨[], failure.toList.map fault⟩)

/-- Shows a node to a check several times. -/
def meetTimes (file : FileContext) (parents : List Node) (node : Node) :
    Nat → Check σ → Check σ × Findings
  | 0, check => (check, {})
  | n + 1, check =>
    let (check, first) := check.meet file parents node
    let (check, more) := meetTimes file parents node n check
    (check, first ++ more)

/-- How often a check asked for nodes of a kind. -/
def interest (check : Check σ) (kind : NodeKind) : Nat :=
  check.kinds.count kind

/-- Shows a node to a check as often as it asked for the kind, unless its rule is silenced. -/
def offer (file : FileContext) (parents : List Node) (node : Node) (check : Check σ) :
    Check σ × Findings :=
  if Suppression.isSuppressed check.ruleId (Suppression.ofNode node parents) then (check, {})
  else check.meetTimes file parents node (check.interest node.kind)

end Check

namespace Checks

variable {σ : Type}

/-- The rules of the checks that asked for a kind, in the order of the checks. -/
def rulesFor (checks : List (Check σ)) (kind : NodeKind) : List String :=
  checks.flatMap fun check => List.replicate (check.interest kind) check.ruleId

/-- The checks of the whole run. -/
def runChecks (checks : List (Check σ)) : List (RunCheck σ) :=
  checks.filterMap Check.runCheck?

/-- Offers a node to every check in turn. -/
def dispatch (file : FileContext) (visit : Visit) :
    List (Check σ) → List (Check σ) × Findings
  | [] => ([], {})
  | check :: rest =>
    let (check, first) := check.offer file visit.parents visit.node
    let (rest, more) := dispatch file visit rest
    (check :: rest, first ++ more)

/-- Offers one node after another to the checks. -/
def dispatchAll (file : FileContext) :
    List Visit → List (Check σ) → List (Check σ) × List (Visit × Findings)
  | [], checks => (checks, [])
  | visit :: visits, checks =>
    let (checks, first) := dispatch file visit checks
    let (checks, more) := dispatchAll file visits checks
    (checks, (visit, first) :: more)

/-- Walks through a document and offers every node to the checks. -/
def walk (file : FileContext) (checks : List (Check σ)) : List (Check σ) × Findings :=
  let (checks, results) := dispatchAll file (Schema.walk (.document file.document)) checks
  (checks, (results.map Prod.snd).foldr Findings.append {})

end Checks

end IdlLint

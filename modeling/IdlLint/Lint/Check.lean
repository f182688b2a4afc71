import IdlLint.Disk.Basic
import IdlLint.Lint.Diagnostic
import IdlLint.Number.Limit
import IdlLint.Schema.Node
import IdlLint.Schema.Resolve

/-! Checks of two kinds. A check of single nodes answers at once. A check of the whole run keeps a
memory that every node it is shown may change, and answers when all files have been seen. -/
namespace IdlLint

open IdlLint.Schema

/-- Why a check gives no answer. -/
inductive Failure where
  | raised (message : String)
  /-- The check found its own memory inconsistent, and the run cannot go on. -/
  | inconsistent (message : String)
  /-- There should be a cycle in the graph of includes, but none was found. -/
  | lostCycle
  | visitedLate (ruleId : String)
  | finalizedTwice (ruleId : String)
  /-- The graph of includes was changed after it had been searched. -/
  | frozenGraph
  | unknownVertex (vertex : Nat)
  /-- The check looked for the name of a node that has none. -/
  | nameless (kind : NodeKind)
  /-- A message would have to hold an integer that is too long to be written. -/
  | unwritable
  | path (path : Path) (error : PathError)
deriving DecidableEq, Repr, Inhabited

def Failure.message : Failure → String
  | .raised message => message
  | .inconsistent message => message
  | .lostCycle => "topological pass reported a cycle but none was found"
  | .visitedLate ruleId => "check '" ++ ruleId ++ "' visited after finalize"
  | .finalizedTwice ruleId => "check '" ++ ruleId ++ "' finalized twice"
  | .frozenGraph => "import graph is read-only once finalize has started"
  | .unknownVertex vertex => toString vertex
  | .nameless kind => "'" ++ kind.name ++ "' object has no attribute 'name'"
  | .unwritable => unwritableMessage
  | .path p e => e.message p

/-- Whether a failure ends the run. -/
def Failure.isFatal : Failure → Bool
  | .inconsistent _ | .lostCycle => true
  | _ => false

/-- What is known about the file that is walked through. -/
structure FileContext where
  filename : String
  document : Document
  includes : Includes
  includeDirs : List Path
  workspace : Workspace
deriving Inhabited

namespace FileContext

/-- Where the target of an include is looked for: next to the file, in the working directory, and in
the directories for includes. -/
def candidates (filename : String) (includeDirs : List Path) (path : String) : List Path :=
  let target := Path.ofString path
  (Path.ofString filename).parent.join target :: target ::
    includeDirs.map fun directory => directory.join target

/-- The first of some paths that is a file. A path that cannot exist ends the search. -/
def firstFile (w : Workspace) : List Path → Except Failure (Option Path)
  | [] => .ok none
  | path :: rest =>
    match w.isFile path with
    | .ok true => .ok (some path)
    | .ok false => firstFile w rest
    | .error e => .error (.path path e)

/-- The file that an include of this file refers to. -/
def resolveInclude (file : FileContext) (path : String) : Except Failure (Option Path) :=
  firstFile file.workspace (candidates file.filename file.includeDirs path)

end FileContext

/-- What a check is told about the node it is shown. -/
structure Context where
  file : FileContext
  ruleId : String
  /-- The ancestors of the node, outermost first. -/
  parents : List Node
deriving Inhabited

namespace Context

def report (ctx : Context) (severity : String) (position : Position) (message : String) :
    Diagnostic :=
  .placed ctx.file.filename position ctx.ruleId severity message

def error (ctx : Context) (position : Position) (message : String) : Diagnostic :=
  ctx.report Diagnostic.errorSeverity position message

def warning (ctx : Context) (position : Position) (message : String) : Diagnostic :=
  ctx.report Diagnostic.warningSeverity position message

def resolveType (ctx : Context) (type : TypeExpr) : Option TypeTarget :=
  Schema.resolveType type ctx.file.document ctx.file.includes

def resolveConstant (ctx : Context) (name : String) : Option ConstantTarget :=
  Schema.resolveConstant name ctx.file.document ctx.file.includes

end Context

/-- A check that looks at one node at a time. -/
structure NodeCheck where
  ruleId : String
  kinds : List NodeKind
  run : Context → Node → Except Failure (List Diagnostic)

/-- The life of a check of the whole run. -/
inductive Phase where
  | created | accumulating | finalizing | done
deriving DecidableEq, Repr, Inhabited

namespace Phase

def name : Phase → String
  | .created => "created"
  | .accumulating => "accumulating"
  | .finalizing => "finalizing"
  | .done => "done"

/-- Whether the check's answer has been asked for. -/
def isClosed : Phase → Bool
  | .created | .accumulating => false
  | .finalizing | .done => true

end Phase

/-- A check that answers after the last file. What it sees it keeps in a memory of type `σ`, which
it may have changed even if it fails. -/
structure RunCheck (σ : Type) where
  ruleId : String
  kinds : List NodeKind
  visit : Context → Node → σ → σ × Option Failure
  finalize : σ → σ × Except Failure (List Diagnostic)
  memory : σ
  phase : Phase := .created

namespace RunCheck

variable {σ : Type}

/-- Shows a node to the check. -/
def see (c : RunCheck σ) (ctx : Context) (node : Node) : RunCheck σ × Option Failure :=
  if c.phase.isClosed then (c, some (.visitedLate c.ruleId))
  else
    let (memory, failure) := c.visit ctx node c.memory
    ({ c with memory := memory, phase := .accumulating }, failure)

/-- Asks the check for its answer, which can be done once. -/
def conclude (c : RunCheck σ) : RunCheck σ × Except Failure (List Diagnostic) :=
  if c.phase.isClosed then (c, .error (.finalizedTwice c.ruleId))
  else
    match c.finalize c.memory with
    | (memory, .ok diagnostics) => ({ c with memory := memory, phase := .done }, .ok diagnostics)
    | (memory, .error failure) =>
      ({ c with memory := memory, phase := .finalizing }, .error failure)

/-- The check in words. -/
def describe (c : RunCheck σ) : String :=
  "MultiFileCheck(" ++ Text.quote c.ruleId ++ ", phase=" ++ c.phase.name ++ ")"

end RunCheck

/-- A check of either kind. -/
inductive Check (σ : Type) where
  | node (check : NodeCheck)
  | run (check : RunCheck σ)

namespace Check

variable {σ τ : Type}

def ruleId : Check σ → String
  | .node c => c.ruleId
  | .run c => c.ruleId

def kinds : Check σ → List NodeKind
  | .node c => c.kinds
  | .run c => c.kinds

def runCheck? : Check σ → Option (RunCheck σ)
  | .node _ => none
  | .run c => some c

/-- The check among others whose memory is of another type. -/
def inl : Check σ → Check (σ ⊕ τ)
  | .node c => .node c
  | .run c => .run {
      ruleId := c.ruleId
      kinds := c.kinds
      visit := fun ctx node memory => match memory with
        | .inl s =>
          let (s', failure) := c.visit ctx node s
          (.inl s', failure)
        | .inr t => (.inr t, none)
      finalize := fun memory => match memory with
        | .inl s =>
          let (s', answer) := c.finalize s
          (.inl s', answer)
        | .inr t => (.inr t, .ok [])
      memory := .inl c.memory
      phase := c.phase }

/-- The check among others whose memory is of another type. -/
def inr : Check τ → Check (σ ⊕ τ)
  | .node c => .node c
  | .run c => .run {
      ruleId := c.ruleId
      kinds := c.kinds
      visit := fun ctx node memory => match memory with
        | .inl s => (.inl s, none)
        | .inr t =>
          let (t', failure) := c.visit ctx node t
          (.inr t', failure)
      finalize := fun memory => match memory with
        | .inl s => (.inl s, .ok [])
        | .inr t =>
          let (t', answer) := c.finalize t
          (.inr t', answer)
      memory := .inr c.memory
      phase := c.phase }

end Check

end IdlLint

import IdlLint.Lint.Check
import IdlLint.Rules.Typing

/-! Checks that report what they are shown, or fail when told to. With them a run can be
observed. -/
namespace IdlLint.Probe

open IdlLint.Schema

/-- The kind and the name of a node. -/
def label (node : Node) : String :=
  node.kind.name ++ " " ++ node.name?.getD "-"

/-- A check of single nodes that reports `describe` with some severity. -/
def reporting (ruleId severity : String) (kinds : List NodeKind)
    (describe : Context → Node → Except Failure String) : Check (List String) :=
  .node {
    ruleId := ruleId
    kinds := kinds
    run := fun ctx node => (describe ctx node).map fun message =>
      [ctx.report severity node.position message] }

/-- Warns of every node. -/
def flag (ruleId : String) (kinds : List NodeKind) : Check (List String) :=
  reporting ruleId Diagnostic.warningSeverity kinds fun _ node => .ok (label node)

/-- Reports the kinds of the ancestors of every node. -/
def ancestry (ruleId : String) (kinds : List NodeKind) : Check (List String) :=
  reporting ruleId Diagnostic.errorSeverity kinds fun ctx _ =>
    .ok ("/".intercalate (ctx.parents.map fun parent => parent.kind.name))

/-- The name of a node, which must have one. -/
def nameOf (node : Node) : Except Failure String :=
  match node.name? with
  | some name => .ok name
  | none => .error (.nameless node.kind)

/-- What a node stands for when it is taken for a type. -/
def asType : Node → Option TypeTarget
  | .type type => some (.type type)
  | .constant d => some (.definition (.constant d))
  | .typedef d => some (.definition (.typedef d))
  | .enum d => some (.definition (.enum d))
  | .struct d => some (.definition (.struct d))
  | .service d => some (.definition (.service d))
  | _ => none

/-- The kind of the type that a node leads to. -/
def kindOf (ctx : Context) (node : Node) : Option String :=
  (asType node).bind fun target =>
    (follow ctx.file.includes resolutionDepth target ctx.file.document).bind Rules.targetKind

/-- Warns of every node with the kind of its type. -/
def typing (ruleId : String) (kinds : List NodeKind) : Check (List String) :=
  reporting ruleId Diagnostic.warningSeverity kinds fun ctx node => do
    let name ← nameOf node
    .ok (name ++ " is " ++ (kindOf ctx node).getD "None")

/-- The node that a constant's name stands for. -/
def targetNode : ConstantTarget → Node
  | .constant d => .constant d
  | .item item => .enumItem item

/-- Warns of every node with the constant that its name stands for. -/
def constants (ruleId : String) (kinds : List NodeKind) : Check (List String) :=
  reporting ruleId Diagnostic.warningSeverity kinds fun ctx node => do
    let name ← nameOf node
    .ok (((ctx.resolveConstant name).map fun target => label (targetNode target)).getD "unknown")

/-- Fails at every node. -/
def failing (ruleId : String) (kinds : List NodeKind) (message : String) : Check (List String) :=
  reporting ruleId Diagnostic.warningSeverity kinds fun _ _ => .error (.raised message)

/-- The number of labels and the labels. -/
def summary (ruleId : String) (labels : List String) : Diagnostic :=
  .placed "<run>" .nowhere ruleId Diagnostic.warningSeverity
    (toString labels.length ++ " nodes: " ++ ", ".intercalate labels)

/-- A check of the whole run that remembers the labels of its nodes. -/
def remembering (ruleId : String) (kinds : List NodeKind) : RunCheck (List String) where
  ruleId := ruleId
  kinds := kinds
  visit _ node labels := (labels ++ [label node], none)
  finalize labels := (labels, .ok [summary ruleId labels])
  memory := []

def counting (ruleId : String) (kinds : List NodeKind) : Check (List String) :=
  .run (remembering ruleId kinds)

/-- Remembers nothing and fails at every node. -/
def failingVisit (ruleId : String) (kinds : List NodeKind) (message : String) :
    Check (List String) :=
  .run { remembering ruleId kinds with
    visit := fun _ _ labels => (labels, some (.raised message)) }

/-- Fails at the end. -/
def failingEnd (ruleId : String) (kinds : List NodeKind) (failure : Failure) :
    Check (List String) :=
  .run { remembering ruleId kinds with finalize := fun labels => (labels, .error failure) }

end IdlLint.Probe

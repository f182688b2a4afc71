import IdlLint.Schema.Node
import IdlLint.Text.Blank

/-! Annotations that silence rules. They hold for the node that carries them and for everything
below it. -/
namespace IdlLint.Suppression

open IdlLint.Schema

/-- The name of the annotation that silences rules. -/
def annotationName : String := "nolint"

/-- The entry that stands for every rule. -/
def everyRule : String := ""

/-- The rules that one annotation silences: those in its list, or all if it lists none. -/
def entries (note : Note) : List String :=
  if note.name = annotationName then
    let listed := (List.splitOn ',' note.value.toList).map Text.trim |>.filter fun part =>
      !part.isEmpty
    if listed.isEmpty then [everyRule] else listed.map String.ofList
  else []

/-- The entries on a chain of nodes, given by the annotations of each. -/
def collect (owners : List (List Note)) : List String :=
  owners.flatten.flatMap entries

/-- The entries that hold at a node below `parents`. -/
def ofNode (node : Node) (parents : List Node) : List String :=
  collect ((parents ++ [node]).map Node.annotations)

/-- Whether an entry silences a rule: it stands for every rule, or the rule is or refines it. -/
def silences (entry rule : String) : Bool :=
  entry == everyRule || Text.refines rule entry

def isSuppressed (rule : String) (entries : List String) : Bool :=
  entries.any fun entry => silences entry rule

/-- The distinct entries in ascending order. -/
def sorted (entries : List String) : List String :=
  entries.eraseDups.mergeSort fun a b => decide (a ≤ b)

end IdlLint.Suppression

import IdlLint.Text.Position

/-! Findings and their order: by file, then by place, then by rule. -/
namespace IdlLint

/-- A finding. Its texts are strings, except where a report is written out. -/
structure Diagnostic (τ : Type := String) where
  filename : τ
  line : Int
  column : Int
  ruleId : τ
  severity : τ
  message : τ
deriving DecidableEq, Repr, Inhabited

namespace Diagnostic

/-- The severity of a finding that makes a run fail. -/
def errorSeverity : String := "error"

def warningSeverity : String := "warn"

def isError (d : Diagnostic) : Bool :=
  d.severity == errorSeverity

/-- The finding with its texts in another form. -/
def map {τ σ : Type} (f : τ → σ) (d : Diagnostic τ) : Diagnostic σ where
  filename := f d.filename
  line := d.line
  column := d.column
  ruleId := f d.ruleId
  severity := f d.severity
  message := f d.message

/-- A finding of some rule at a place in a file. -/
def placed (filename : String) (position : Position) (ruleId severity message : String) :
    Diagnostic :=
  ⟨filename, position.line, position.column, ruleId, severity, message⟩

/-- Compares two findings field by field; texts compare by their code points. -/
def compare (a b : Diagnostic) : Ordering :=
  (Ord.compare a.filename b.filename).then <|
    (Ord.compare a.line b.line).then <|
      (Ord.compare a.column b.column).then <|
        (Ord.compare a.ruleId b.ruleId).then <|
          (Ord.compare a.severity b.severity).then <| Ord.compare a.message b.message

def precedes (a b : Diagnostic) : Bool :=
  (a.compare b).isLE

/-- The findings in ascending order, every occurrence kept. -/
def sort (diagnostics : List Diagnostic) : List Diagnostic :=
  diagnostics.mergeSort precedes

/-- A finding on one line. -/
def render (d : Diagnostic) : String :=
  d.filename ++ ":" ++ toString d.line ++ ":" ++ toString d.column ++ ": " ++ d.severity ++ ": " ++
    d.message ++ " (" ++ d.ruleId ++ ")"

end Diagnostic

end IdlLint

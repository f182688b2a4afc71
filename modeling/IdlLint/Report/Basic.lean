import IdlLint.Lint.Session
import IdlLint.Number.Decimal
import IdlLint.Report.Json
import IdlLint.Report.Layout

/-! The result of a run in three forms: one line for each finding, the same for human readers with a
summary, and nested data. -/
namespace IdlLint

structure Report (τ : Type := String) where
  diagnostics : List (Diagnostic τ) := []
  faults : List (Diagnostic τ) := []
  checksRun : Int := 0
  filesChecked : Int := 0
  /-- The time taken, in milliseconds. -/
  elapsed : Binary64 := .zero false
deriving DecidableEq, Repr, Inhabited

namespace Report

def errors (r : Report) : List Diagnostic :=
  r.diagnostics.filter Diagnostic.isError

def warnings (r : Report) : List Diagnostic :=
  r.diagnostics.filter fun d => !d.isError

/-- The findings and after them the faults. -/
def entries (r : Report) : List Diagnostic :=
  r.diagnostics ++ r.faults

/-- One line for each finding. -/
def porcelain (r : Report) : String :=
  "\n".intercalate (r.entries.map Diagnostic.render)

/-! ### Nested data

What is written out there are texts of any code points, also of such as are no characters. -/

/-- The report with its texts as code points. -/
def encode (r : Report) : Report CodeText :=
  { r with
    diagnostics := r.diagnostics.map (Diagnostic.map Text.points)
    faults := r.faults.map (Diagnostic.map Text.points) }

section Nested

variable (r : Report CodeText)

/-- How many findings make a run fail. -/
def errorCount : Nat :=
  r.diagnostics.countP fun d => d.severity == Text.points Diagnostic.errorSeverity

def warningCount : Nat :=
  r.diagnostics.countP fun d => d.severity != Text.points Diagnostic.errorSeverity

/-- How numbers without digits are written in nested data. -/
def jsonStyle : Binary64.DecimalStyle := ⟨"Infinity", "NaN"⟩

def integer (n : Int) : Json :=
  .number (toString n)

def diagnosticJson (d : Diagnostic CodeText) : Json :=
  .object [("rule_id", .text d.ruleId), ("severity", .text d.severity), ("file", .text d.filename),
    ("line", integer d.line), ("column", integer d.column), ("message", .text d.message)]

/-- The result as nested data. -/
def toJson : Json :=
  .object [
    ("diagnostics", .array (r.diagnostics.map diagnosticJson)),
    ("faults", .array (r.faults.map diagnosticJson)),
    ("summary", .object [
      ("checks_run", integer r.checksRun),
      ("files_checked", integer r.filesChecked),
      ("errors", integer r.errorCount),
      ("warnings", integer r.warningCount),
      ("faults", integer r.faults.length),
      ("elapsed_ms", .number (r.elapsed.render jsonStyle))])]

/-- The integers of the result. -/
def integers : List Int :=
  (r.diagnostics ++ r.faults).flatMap (fun d => [d.line, d.column]) ++
    [r.checksRun, r.filesChecked, r.errorCount, r.warningCount, r.faults.length]

/-- The text of the result as nested data. An integer may be too long to be written. -/
def json : Except Failure String :=
  if r.integers.all isWritable then .ok r.toJson.render else .error .unwritable

end Nested

/-- How numbers without digits are written in the summary. -/
def summaryStyle : Binary64.DecimalStyle := ⟨"inf", "nan"⟩

/-- The time taken, in seconds. -/
def seconds (r : Report) : String :=
  (r.elapsed.divide 1000).renderOnePlace summaryStyle ++ "s"

/-- The line about a finding for human readers. -/
def richLine (d : Diagnostic) : String :=
  let text := d.filename ++ ":" ++ toString d.line ++ ":" ++ toString d.column ++ "  " ++
    d.severity ++ "  " ++ d.message ++ " (" ++ d.ruleId ++ ")"
  String.ofList (Layout.shown text.toList)

/-- What was looked at. -/
def scope (r : Report) : String :=
  toString r.filesChecked ++ " file(s) (" ++ toString r.checksRun ++ " checks, " ++ r.seconds ++ ")"

/-- The last line for human readers. Faults count as errors there. -/
def summary (r : Report) : String :=
  if r.entries.isEmpty then "✓ No problems found in " ++ r.scope
  else
    toString (r.errors.length + r.faults.length) ++ " error(s), " ++
      toString r.warnings.length ++ " warning(s) in " ++ r.scope

/-- The width of a terminal, in cells. -/
def terminalWidth : Nat := 200

/-- The result for human readers. Only the summary is filled into lines. -/
def rich (r : Report) : String :=
  "\n".intercalate
    (r.entries.map richLine ++ (if r.entries.isEmpty then [] else [""]) ++
      (Layout.fill terminalWidth r.summary.toList).map String.ofList)

end Report

end IdlLint

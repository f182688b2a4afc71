import IdlLint.Lint.Dispatch
import IdlLint.Schema.File

/-! A run over several files: every file is checked on its own, and in the end the checks of the
whole run are asked for their answers. -/
namespace IdlLint

open IdlLint.Schema

/-- Why a run cannot go on. -/
inductive Abort where
  | finished
  /-- A decimal literal in a file has too many digits. -/
  | excessiveDigits (count : Nat)
  | failure (failure : Failure)
deriving DecidableEq, Repr, Inhabited

def Abort.message : Abort → String
  | .finished => "run already finished"
  | .excessiveDigits count => excessMessage count
  | .failure f => f.message

/-- What a run found. -/
structure Outcome where
  diagnostics : List Diagnostic
  faults : List Diagnostic
  filesChecked : Nat
deriving DecidableEq, Repr, Inhabited

structure Session (σ : Type) where
  checks : List (Check σ)
  includeDirs : List Path := []
  faults : List Diagnostic := []
  /-- The files that were read, and `none` for those that held no document. -/
  documents : OrderedMap Location (Option Document) := .empty
  diagnostics : List Diagnostic := []
  filesChecked : Nat := 0
  finished : Bool := false

namespace Session

variable {σ : Type}

/-- The rule of findings about files that hold no document. -/
def parseRule : String := "parse.error"

/-- The file name of faults at the end of a run. -/
def finalizeName : String := "<finalize>"

/-- Reads an included file, unless it was read before. A file that holds no document is remembered
as such, but not one with a literal that is too long. -/
def loadInclude (w : Workspace) (path : Path) (documents : OrderedMap Location (Option Document)) :
    OrderedMap Location (Option Document) × Except Abort (Option Document) :=
  let key := w.locate path
  match documents.get? key with
  | some known => (documents, .ok known)
  | none =>
    match parseFile w path with
    | .ok document => (documents.insert key (some document), .ok (some document))
    | .error (.parse (.excessiveDigits count)) => (documents, .error (.excessiveDigits count))
    | .error _ => (documents.insert key none, .ok none)

/-- Reads the included files in turn and puts their documents under the names of the includes. Of
several includes with one name the last counts. -/
def loadIncludes (w : Workspace) (filename : String) (includeDirs : List Path) :
    List Include → OrderedMap Location (Option Document) → Includes →
      OrderedMap Location (Option Document) × Except Abort Includes
  | [], documents, includes => (documents, .ok includes)
  | header :: rest, documents, includes =>
    match FileContext.firstFile w (FileContext.candidates filename includeDirs header.path) with
    | .error failure => (documents, .error (.failure failure))
    | .ok none => loadIncludes w filename includeDirs rest documents includes
    | .ok (some target) =>
      match loadInclude w target documents with
      | (documents, .error abort) => (documents, .error abort)
      | (documents, .ok none) => loadIncludes w filename includeDirs rest documents includes
      | (documents, .ok (some document)) =>
        loadIncludes w filename includeDirs rest documents (includes.insert header.name document)

/-- Notes that a file holds no document. -/
def reject (s : Session σ) (path : Path) (position : Position) (message : String) :
    Session σ × List Diagnostic :=
  let diagnostic :=
    Diagnostic.placed path.toString position parseRule Diagnostic.errorSeverity message
  ({ s with diagnostics := s.diagnostics ++ [diagnostic] }, [diagnostic])

/-- Checks a document that was read from `path`. -/
def checkDocument (w : Workspace) (path : Path) (document : Document) (s : Session σ) :
    Session σ × Except Abort (List Diagnostic) :=
  let filename := path.toString
  let known := s.documents.insert (w.locate path) (some document)
  match loadIncludes w filename s.includeDirs document.includes known .empty with
  | (documents, .error abort) => ({ s with documents := documents }, .error abort)
  | (documents, .ok includes) =>
    let file : FileContext := ⟨filename, document, includes, s.includeDirs, w⟩
    let (checks, found) := Checks.walk file s.checks
    ({ s with
        checks := checks
        documents := documents
        faults := s.faults ++ found.faults
        diagnostics := s.diagnostics ++ found.diagnostics
        filesChecked := s.filesChecked + 1 },
      .ok found.diagnostics)

/-- Checks a file and gives what was found in it. -/
def checkFile (w : Workspace) (path : Path) (s : Session σ) :
    Session σ × Except Abort (List Diagnostic) :=
  if s.finished then (s, .error .finished)
  else
    match parseFile w path with
    | .ok document => s.checkDocument w path document
    | .error (.parse (.excessiveDigits count)) => (s, .error (.excessiveDigits count))
    | .error (.parse (.rejected e)) =>
      let (s, found) := s.reject path e.position e.problem.message
      (s, .ok found)
    | .error (.unreadable .nullCharacter) => (s, .error (.failure (.path path .nullCharacter)))
    | .error (.unreadable e) =>
      let (s, found) := s.reject path .nowhere ("cannot read file: " ++ e.message path)
      (s, .ok found)
    | .error (.undecodable e) =>
      let (s, found) := s.reject path .nowhere ("cannot read file: " ++ e.message)
      (s, .ok found)

/-- What the checks of the whole run answered. -/
structure Conclusion (σ : Type) where
  checks : List (Check σ)
  found : Findings
  /-- The failure that ended the run, if there was one. -/
  fatal : Option Failure

/-- Asks one check after another for its answer, until one of them fails fatally. -/
def conclude : List (Check σ) → Conclusion σ
  | [] => ⟨[], {}, none⟩
  | .node c :: rest =>
    let more := conclude rest
    { more with checks := .node c :: more.checks }
  | .run c :: rest =>
    match c.conclude with
    | (c', .ok diagnostics) =>
      let more := conclude rest
      ⟨.run c' :: more.checks, ⟨diagnostics, []⟩ ++ more.found, more.fatal⟩
    | (c', .error failure) =>
      if failure.isFatal then ⟨.run c' :: rest, {}, some failure⟩
      else
        let fault := Diagnostic.placed finalizeName .nowhere c.ruleId Diagnostic.errorSeverity
          (faultMessage failure)
        let more := conclude rest
        ⟨.run c' :: more.checks, ⟨[], [fault]⟩ ++ more.found, more.fatal⟩

/-- Ends the run. What was found in the files is put in order; the answers of the checks of the
whole run follow as they are. -/
def finish (s : Session σ) : Session σ × Except Abort Outcome :=
  if s.finished then (s, .error .finished)
  else
    let conclusion := conclude s.checks
    let s := { s with
      checks := conclusion.checks
      faults := s.faults ++ conclusion.found.faults
      diagnostics := Diagnostic.sort s.diagnostics ++ conclusion.found.diagnostics
      finished := true }
    match conclusion.fatal with
    | some failure => (s, .error (.failure failure))
    | none => (s, .ok ⟨s.diagnostics, s.faults, s.filesChecked⟩)

/-- Checks some files and ends the run. -/
def run (w : Workspace) : List Path → Session σ → Session σ × Except Abort Outcome
  | [], s => s.finish
  | path :: rest, s =>
    match s.checkFile w path with
    | (s, .error abort) => (s, .error abort)
    | (s, .ok _) => run w rest s

end Session

end IdlLint

import IdlLint.Lint.Collect
import IdlLint.Report.Basic
import IdlLint.Rules.Catalog

/-! A complete run: the enabled checks over the files that some paths stand for. -/
namespace IdlLint

open IdlLint.Config

/-- Runs the enabled checks. Directories for includes that are given replace those of the
settings. -/
def lint (w : Workspace) (settings : Settings) (includeDirs : Option (List Path))
    (paths : List Path) : Except Abort Report :=
  let checks := Rules.enabled settings
  let directories := includeDirs.getD (settings.includes.map Path.ofString)
  match collectFiles w paths with
  | .error failure => .error (.failure failure)
  | .ok files =>
    let session : Session ImportGraph := { checks := checks, includeDirs := directories }
    match (session.run w files).2 with
    | .error abort => .error abort
    | .ok outcome => .ok {
        diagnostics := outcome.diagnostics
        faults := outcome.faults
        checksRun := checks.length
        filesChecked := outcome.filesChecked }

end IdlLint

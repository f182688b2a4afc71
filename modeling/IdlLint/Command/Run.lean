import IdlLint.Command.Arguments
import IdlLint.Config.Load
import IdlLint.Lint.Run

/-! The commands of the program: `lint` checks files, `checks` lists the checks. -/
namespace IdlLint.Command

open IdlLint.Config

/-- What a command leaves behind. -/
structure Outcome where
  exitCode : Nat
  output : String := ""
  error : Option String := none
deriving DecidableEq, Repr, Inhabited

/-- Why a command ends without an outcome. -/
inductive Crash where
  /-- The system cannot be asked about a path on the command line. -/
  | path (path : Path) (error : PathError)
  | load (error : LoadError)
  | run (abort : Abort)
deriving DecidableEq, Repr, Inhabited

def Crash.message : Crash → String
  | .path p e => e.message p
  | .load e => e.message
  | .run a => a.message

/-- The outcome of a command that is refused. -/
def refused (text : String) : Outcome :=
  { exitCode := 2, error := some ("Error: " ++ text) }

def usage (e : UsageError) : Outcome :=
  refused e.message

def programName : String := "thriftlint"

def version : String := "0.4.0"

/-- How the program is called. -/
def helpText : String :=
  "Usage: " ++ programName ++ " [OPTIONS] COMMAND [ARGS]...\n\n" ++
  "Commands:\n" ++
  "  checks  List every check and whether the configuration enables it.\n" ++
  "  lint    Lint Thrift files and directories.\n"

/-- The entry that a path as it is written leads to. A slash at its end asks for a directory. -/
def entryAt (w : Workspace) (path : String) : Option DiskEntry :=
  let parts := (List.splitOn '/' path.toList).map String.ofList
  let step (here : Location) (name : String) : Except PathError Location :=
    if name = "" || name = "." then
      match w.disk.entry? here with
      | some .directory => .ok here
      | _ => .error .notDirectory
    else w.step here name
  let start := if path.toList.head? = some '/' then [] else w.cwd
  if path.isEmpty || Workspace.longestPath < path.utf8ByteSize then none
  else
    match parts.foldlM step start with
    | .error _ => none
    | .ok location => w.disk.entry? location

/-- What is wrong with a value on the command line. -/
inductive ValueFault where
  | unfit (reason : String)
  | unusable (path : String)
deriving DecidableEq, Repr, Inhabited

/-- What is wrong with a path, which must lead to an entry with which nothing is wrong. -/
def entryFault (w : Workspace) (noun : String) (wrong : DiskEntry → Option String)
    (path : String) : Option ValueFault :=
  let because (reason : String) : ValueFault :=
    .unfit (noun ++ " " ++ Text.quote path ++ " " ++ reason ++ ".")
  if !Workspace.isUsable path then some (.unusable path)
  else
    match entryAt w path with
    | none => some (because "does not exist")
    | some entry => (wrong entry).map because

/-- What is wrong with a path that must be a directory. -/
def directoryFault (w : Workspace) : String → Option ValueFault :=
  entryFault w "Directory" fun entry =>
    match entry with
    | .file _ => some "is a file"
    | .directory => none

/-- What is wrong with a path that must be a file. -/
def fileFault (w : Workspace) : String → Option ValueFault :=
  entryFault w "File" fun entry =>
    match entry with
    | .file _ => none
    | .directory => some "is a directory"

/-- What is wrong with a path that must be there. -/
def pathFault (w : Workspace) : String → Option ValueFault :=
  entryFault w "Path" fun _ => none

inductive Format where
  | rich | json | porcelain
deriving DecidableEq, Repr, Inhabited

def Format.name : Format → String
  | .rich => "rich"
  | .json => "json"
  | .porcelain => "porcelain"

def Format.all : List Format := [.rich, .json, .porcelain]

def Format.ofName? (name : String) : Option Format :=
  all.find? fun format => format.name == name

/-- What is wrong with the name of a format. -/
def formatFault (name : String) : Option ValueFault :=
  if (Format.ofName? name).isSome then none
  else some (.unfit (Text.quote name ++ " is not one of " ++
    ", ".intercalate (Format.all.map fun format => Text.quote format.name) ++ "."))

/-- What is wrong with the values of an option, the first fault of the first bad one. -/
def optionFault (w : Workspace) (a : Arguments) (option : OptionName) :
    Option ValueFault :=
  match option with
  | .config => (a.value? .config).bind (fileFault w)
  | .include => (a.values .include).findSome? (directoryFault w)
  | .format => (a.value? .format).bind formatFault
  | _ => none

/-- What comes of a value with a fault, given what a reason makes of the command line. -/
def ValueFault.outcome (error : String → UsageError) : ValueFault → Except Crash Outcome
  | .unfit reason => .ok (usage (error reason))
  | .unusable path => .error (.path (.ofString path) .nullCharacter)

/-- What comes of the first fault of the options given, in the order in which they were given. -/
def optionsFault (w : Workspace) (a : Arguments) : Option (Except Crash Outcome) :=
  a.order.findSome? fun option =>
    (optionFault w a option).map (ValueFault.outcome (.invalidOption option))

/-- What comes of the first fault of the paths to check. -/
def pathsFault (w : Workspace) (a : Arguments) : Option (Except Crash Outcome) :=
  if a.positional.isEmpty then some (.ok (usage .missingPaths))
  else (a.positional.findSome? (pathFault w)).map (ValueFault.outcome .invalidPath)

/-- The settings that a command uses. -/
def settings (library : Library) (w : Workspace) (a : Arguments) : Except LoadError Settings :=
  Config.load library w ((a.value? .config).map Path.ofString) ⟨.slash, w.cwd⟩

/-- The result without warnings, if they are not wanted. -/
def wanted (errorsOnly : Bool) (r : Report) : Report :=
  if errorsOnly then { r with diagnostics := r.errors } else r

def render (format : Format) (r : Report) : Except Failure String :=
  match format with
  | .rich => .ok r.rich
  | .json => r.encode.json
  | .porcelain => .ok r.porcelain

/-- Whether a result makes the command fail. -/
def fails (strict : Bool) (r : Report) : Bool :=
  !r.errors.isEmpty || !r.faults.isEmpty || (strict && !r.warnings.isEmpty)

/-- Shows a result. Without a format it is one line for each finding. -/
def present (a : Arguments) (r : Report) : Except Failure Outcome := do
  let r := wanted (a.has .errorsOnly) r
  let format := ((a.value? .format).bind Format.ofName?).getD .porcelain
  let text ← render format r
  .ok {
    exitCode := if fails (a.has .strict) r then 1 else 0
    output := if text.isEmpty then "" else text ++ "\n" }

/-- Checks the files of a command line that is in order. -/
def lintPaths (library : Library) (w : Workspace) (elapsed : Binary64) (a : Arguments) :
    Except Crash Outcome :=
  match settings library w a with
  | .error e =>
    if e.isExpected then .ok (refused ("Invalid configuration: " ++ e.message))
    else .error (.load e)
  | .ok settings =>
    let directories := (a.values .include).map Path.ofString
    let includeDirs := if directories.isEmpty then none else some directories
    match lint w settings includeDirs (a.positional.map Path.ofString) with
    | .error abort => .error (.run abort)
    | .ok report =>
      match present a { report with elapsed := elapsed } with
      | .error failure => .error (.run (.failure failure))
      | .ok outcome => .ok outcome

def lintCommand (library : Library) (w : Workspace) (elapsed : Binary64) (args : List String) :
    Except Crash Outcome :=
  match Arguments.parse [.config, .include, .format, .errorsOnly, .strict, .help] true args with
  | .error e => .ok (usage e)
  | .ok a =>
    if a.has .help then .ok { exitCode := 0, output := helpText }
    else
      match (optionsFault w a).or (pathsFault w a) with
      | some outcome => outcome
      | none => lintPaths library w elapsed a

/-- The line about a check. -/
def checkLine (settings : Settings) (ruleId : String) : String :=
  ruleId ++ String.ofList (List.replicate (28 - ruleId.length) ' ') ++ " " ++
    (if settings.isEnabled ruleId then "enabled" else "disabled") ++ "\n"

def listChecks (library : Library) (w : Workspace) (a : Arguments) : Except Crash Outcome :=
  match settings library w a with
  | .error e => if e.isExpected then .ok (refused e.message) else .error (.load e)
  | .ok settings =>
    let rules := (Rules.all settings).map Check.ruleId
    .ok { exitCode := 0, output := String.join (rules.map (checkLine settings)) }

def checksCommand (library : Library) (w : Workspace) (args : List String) :
    Except Crash Outcome :=
  match Arguments.parse [.config, .help] true args with
  | .error e => .ok (usage e)
  | .ok a =>
    if a.has .help then .ok { exitCode := 0, output := helpText }
    else
      match optionsFault w a with
      | some outcome => outcome
      | none =>
        if a.positional.isEmpty then listChecks library w a
        else .ok (usage (.extraArguments a.positional))

/-- The options that stand before the command. -/
def globalOptions : List OptionName := [.verbose, .quiet, .version, .help]

def commandNames : List String := ["checks", "lint"]

/-- Runs the program in a workspace. The time that is reported is `elapsed`. -/
def run (library : Library) (w : Workspace) (elapsed : Binary64) (args : List String) :
    Except Crash Outcome :=
  if args.isEmpty then .ok { exitCode := 2 }
  else
    match Arguments.parse globalOptions false args with
    | .error e => .ok (usage e)
    | .ok a =>
      match a.order.find? fun option => option = .version || option = .help with
      | some .version =>
        .ok { exitCode := 0, output := programName ++ ", version " ++ version ++ "\n" }
      | some _ => .ok { exitCode := 0, output := helpText }
      | none =>
        match a.positional with
        | [] => .ok (usage .missingCommand)
        | "lint" :: rest => lintCommand library w elapsed rest
        | "checks" :: rest => checksCommand library w rest
        | name :: rest =>
          match Arguments.parse globalOptions false (name :: rest) with
          | .error e => .ok (usage e)
          | .ok _ => .ok (usage (.noSuchCommand name (Text.closestWords name commandNames)))

end IdlLint.Command

import IdlLint.Config.Settings
import IdlLint.Disk.Basic
import IdlLint.Pattern.Read
import IdlLint.Yaml.Load

/-! Settings from files. -/
namespace IdlLint.Config

/-! ### The notations in use -/

/-- The number of bytes in which a settings file comes in at a time. -/
def blockSize : Nat := 8192

/-- The text of a settings file. All of it is decoded before anything is read. A reader that takes it
block by block may find something malformed before it comes to bytes that are no text. -/
def decode (bytes : List UInt8) : Except Mishap (List Char) :=
  match Text.decodeUtf8 bytes with
  | .ok text => .ok (Text.unifyLines text)
  | .error e => .error (.undecodable (e.withinBlock blockSize bytes))

/-- The notations as they are described here, for data and patterns that are nested to any depth. -/
def Library.standard : Library where
  read bytes :=
    match decode bytes with
    | .error cause => .error (.mishap cause)
    | .ok text =>
      match Yaml.load text with
      | .ok data => .ok data
      | .error .malformed => .error (.fault ())
      | .error fault => .error (.mishap (.data fault))
  text data := if data.isWritable then .ok data.text else .error .unwritable
  compile pattern :=
    match Pattern.Regex.ofPattern pattern with
    | .ok regex => .ok regex
    | .error (.invalid error) => .error (.fault error)
    | .error (.overrun excess) => .error (.mishap (.overrun excess))

/-! ### Files -/

/-- Why settings cannot be loaded. -/
inductive LoadError where
  | unreadable (path : Path) (error : PathError)
  | malformed (path : Path)
  | invalid (path : Path) (problem : Defect)
  /-- A path cannot be looked up. -/
  | search (path : Path) (error : PathError)
  | mishap (cause : Mishap)
deriving DecidableEq, Repr, Inhabited

def LoadError.message : LoadError → String
  | .unreadable path e => path.toString ++ ": cannot read configuration: " ++ e.message path
  | .malformed path => path.toString ++ ": invalid YAML: ..."
  | .invalid path problem => path.toString ++ ": " ++ problem.message
  | .search path e => e.message path
  | .mishap cause => cause.message

/-- Whether an error is about the settings, and not one that ends the program. -/
def LoadError.isExpected : LoadError → Bool
  | .unreadable _ _ | .malformed _ | .invalid _ _ => true
  | _ => false

/-- The names under which settings are looked for, the first one first. -/
def defaultNames : List String := ["thriftlint.yml", ".thriftlint.yml"]

/-- The first of `candidates` that is a file. -/
def firstFile (w : Workspace) : List Path → Except LoadError (Option Path)
  | [] => .ok none
  | path :: rest =>
    match w.isFile path with
    | .ok true => .ok (some path)
    | .ok false => firstFile w rest
    | .error e => .error (.search path e)

/-- The settings file of a directory, if it has one. -/
def find (w : Workspace) (directory : Path) : Except LoadError (Option Path) :=
  firstFile w (defaultNames.map fun name => directory.join (.ofString name))

/-- The settings in a file. -/
def loadFile (library : Library) (w : Workspace) (path : Path) : Except LoadError Settings :=
  match w.readBytes path with
  | .error .nullCharacter => .error (.search path .nullCharacter)
  | .error e => .error (.unreadable path e)
  | .ok bytes =>
    match library.read bytes with
    | .error (.fault ()) => .error (.malformed path)
    | .error (.mishap cause) => .error (.mishap cause)
    | .ok data =>
      match Settings.ofData library data (some path) with
      | .ok settings => .ok settings
      | .error (.fault problem) => .error (.invalid path problem)
      | .error (.mishap cause) => .error (.mishap cause)

/-- The settings in the file `path`, or else in the settings file of `directory`, or the defaults if
there is none. -/
def load (library : Library) (w : Workspace) (path : Option Path) (directory : Path) :
    Except LoadError Settings :=
  match path with
  | some path => loadFile library w path
  | none =>
    match find w directory with
    | .error e => .error e
    | .ok none => .ok {}
    | .ok (some path) => loadFile library w path

end IdlLint.Config

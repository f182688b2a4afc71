import IdlLint.Lint.Check

/-! The files that a run is about. A directory stands for the documents below it, as far down as
there are any: how deep directories may be nested before the stack of the interpreter is used up is
not described. -/
namespace IdlLint

namespace Collect

/-- The extension of documents. -/
def suffix : String := ".thrift"

/-- Whether a location has the name of a document. -/
def isNamed (location : Location) : Bool :=
  suffix.toList.isSuffixOf (location.getLastD "").toList

/-- Compares two paths component by component. -/
def precedes (a b : List String) : Bool :=
  !(b.lex a fun s t => decide (s < t))

/-- What is below a directory. -/
def inside (disk : Disk) (directory : Location) : List Location :=
  disk.entries.keys.filter fun location =>
    directory.isPrefixOf location && directory.length < location.length

/-- The paths from a directory to what is below it and has the name of a document, in order. -/
def below (disk : Disk) (directory : Location) : List (List String) :=
  (((inside disk directory).filter isNamed).map (·.drop directory.length)).mergeSort precedes

/-- The paths from a directory to the directories below it. -/
def folders (disk : Disk) (directory : Location) : List (List String) :=
  ((inside disk directory).filter fun location => disk.entry? location = some .directory).map
    (·.drop directory.length)

/-- The paths that an argument stands for. A directory below it can be looked into if its path is not
too long as it is written from the argument on. One that cannot is an error here; there are versions
of the library for directories that leave out what is in it instead. -/
def expand (w : Workspace) (path : Path) : Except Failure (List Path) :=
  match w.isDirectory path with
  | .error e => .error (.path path e)
  | .ok false =>
    if Workspace.isUsable path.toString then .ok [path] else .error (.path path .nullCharacter)
  | .ok true =>
    match w.follow path with
    | .error e => .error (.path path e)
    | .ok directory =>
      let onward (parts : List String) : Path := path.join ⟨.relative, parts⟩
      let isLong (folder : Path) : Bool :=
        Workspace.longestPath < folder.toString.utf8ByteSize
      match ((folders w.disk directory).map onward).find? isLong with
      | some folder => .error (.path folder .nameTooLong)
      | none => .ok ((below w.disk directory).map onward)

/-- Keeps the first path to each location. -/
def distinct (w : Workspace) : List Path → List Location → List Path
  | [], _ => []
  | path :: rest, seen =>
    let location := w.locate path
    if location ∈ seen then distinct w rest seen
    else path :: distinct w rest (location :: seen)

/-- The paths that some arguments stand for, one argument after the other. -/
def expandAll (w : Workspace) : List Path → Except Failure (List Path)
  | [] => .ok []
  | path :: rest => do
    let first ← expand w path
    let more ← expandAll w rest
    .ok (first ++ more)

end Collect

/-- The files that some arguments stand for, each once. -/
def collectFiles (w : Workspace) (paths : List Path) : Except Failure (List Path) := do
  let all ← Collect.expandAll w paths
  .ok (Collect.distinct w all [])

end IdlLint

import IdlLint.Data.OrderedMap
import IdlLint.Disk.Path
import IdlLint.Text.Utf8

/-! A disk without links: files and directories by their absolute locations, and what happens when a
path is followed from a working directory. Everything on the disk can be searched, listed and read:
permissions, links and failures of the device are not described. -/
namespace IdlLint

/-- The components of an absolute path, none of them `.` or `..`. -/
abbrev Location := List String

inductive DiskEntry where
  | file (content : List UInt8)
  | directory
deriving DecidableEq, Repr, Inhabited

/-- The entries of a disk. The root directory is always there. -/
structure Disk where
  entries : OrderedMap Location DiskEntry
deriving Inhabited

/-- Why a path cannot be followed or its end not be read. -/
inductive PathError where
  | missing | notDirectory | isDirectory | nameTooLong
  /-- No name can hold the null character, so the system is not even asked. -/
  | nullCharacter
deriving DecidableEq, Repr, Inhabited

/-- What the system says about a path that failed. -/
def PathError.message (e : PathError) (path : Path) : String :=
  let about (cause : String) : String := cause ++ ": " ++ Text.quote path.toString
  match e with
  | .missing => about "[Errno 2] No such file or directory"
  | .notDirectory => about "[Errno 20] Not a directory"
  | .isDirectory => about "[Errno 21] Is a directory"
  | .nameTooLong => about "[Errno 36] File name too long"
  | .nullCharacter => "embedded null byte"

namespace Disk

def empty : Disk := ⟨.empty⟩

def entry? (disk : Disk) (location : Location) : Option DiskEntry :=
  if location.isEmpty then some .directory else disk.entries.get? location

/-- Makes a directory and those above it. -/
def makeDirectory (disk : Disk) (location : Location) : Disk :=
  ⟨(List.range location.length).foldl
    (fun entries n => entries.insertNew (location.take (n + 1)) .directory) disk.entries⟩

/-- Writes a file, making the directories above it. -/
def write (disk : Disk) (location : Location) (content : List UInt8) : Disk :=
  ⟨(disk.makeDirectory location.dropLast).entries.insert location (.file content)⟩

def delete (disk : Disk) (location : Location) : Disk :=
  ⟨disk.entries.erase location⟩

end Disk

/-- A disk and the directory in which relative paths start. -/
structure Workspace where
  disk : Disk
  cwd : Location
deriving Inhabited

namespace Workspace

/-- The longest component of a path, in bytes. -/
def longestName : Nat := 255

/-- The longest path, in bytes. -/
def longestPath : Nat := 4095

/-- Whether the system can be asked about a name. -/
@[irreducible] def isUsable (name : String) : Bool :=
  !name.toList.contains '\x00'

/-- Where a path starts. -/
def origin (w : Workspace) (path : Path) : Location :=
  if path.isAbsolute then [] else w.cwd

/-- Looks up a name in the directory `here`. -/
def child (w : Workspace) (here : Location) (name : String) : Except PathError Location :=
  match w.disk.entry? here with
  | none => .error .missing
  | some (.file _) => .error (if isUsable name then .notDirectory else .nullCharacter)
  | some .directory =>
    if !isUsable name then .error .nullCharacter
    else if longestName < name.utf8ByteSize then .error .nameTooLong
    else if (w.disk.entry? (here ++ [name])).isSome then .ok (here ++ [name])
    else .error .missing

/-- One component of a path. Only a directory has a parent to go to. -/
def step (w : Workspace) (here : Location) (name : String) : Except PathError Location :=
  if name = ".." then
    match w.disk.entry? here with
    | some .directory => .ok here.dropLast
    | some (.file _) => .error .notDirectory
    | none => .error .missing
  else w.child here name

/-- The location that a path leads to. -/
def follow (w : Workspace) (path : Path) : Except PathError Location :=
  if !isUsable path.toString then .error .nullCharacter
  else if longestPath < path.toString.utf8ByteSize then .error .nameTooLong
  else path.parts.foldlM w.step (w.origin path)

/-- The entry that a path leads to. -/
def find (w : Workspace) (path : Path) : Except PathError DiskEntry :=
  match w.follow path with
  | .error e => .error e
  | .ok location =>
    match w.disk.entry? location with
    | some entry => .ok entry
    | none => .error .missing

/-- Tests the entry that a path leads to. There is none if a component is missing; a name that is
too long is an error. -/
def test (w : Workspace) (p : DiskEntry → Bool) (path : Path) : Except PathError Bool :=
  match w.find path with
  | .ok entry => .ok (p entry)
  | .error .nameTooLong => .error .nameTooLong
  | .error _ => .ok false

def isFile (w : Workspace) (path : Path) : Except PathError Bool :=
  w.test (fun entry => entry matches .file _) path

def isDirectory (w : Workspace) (path : Path) : Except PathError Bool :=
  w.test (fun entry => entry matches .directory) path

/-- The content of a file. -/
def readBytes (w : Workspace) (path : Path) : Except PathError (List UInt8) :=
  match w.find path with
  | .error e => .error e
  | .ok .directory => .error .isDirectory
  | .ok (.file content) => .ok content

/-- Removes a file. -/
def remove (w : Workspace) (path : Path) : Except PathError Workspace :=
  match w.follow path with
  | .error e => .error e
  | .ok location =>
    match w.disk.entry? location with
    | some (.file _) => .ok { w with disk := w.disk.delete location }
    | some .directory => .error .isDirectory
    | none => .error .missing

/-- Cancels `..` against the component before it. -/
def collapse (start : Location) (parts : List String) : Location :=
  parts.foldl (fun here name => if name = ".." then here.dropLast else here ++ [name]) start

/-- The location that a path names, whether or not anything is there. -/
def locate (w : Workspace) (path : Path) : Location :=
  collapse (w.origin path) path.parts

/-- Writes a file, making the directories above it. -/
def write (w : Workspace) (path : Path) (content : List UInt8) : Except PathError Workspace :=
  match w.disk.entry? (w.locate path) with
  | some .directory => .error .isDirectory
  | _ =>
    if !isUsable path.toString then .error .nullCharacter
    else .ok { w with disk := w.disk.write (w.locate path) content }

/-- One component of a path, after the path that is left of those before it and the location where
that leads. The system is asked about a name by the path that ends in it; `..` takes the component
before it back without a question. -/
def enter (w : Workspace) (front : Path × Location) (name : String) :
    Except PathError (Path × Location) :=
  let (written, here) := front
  let onward := written.extend name
  if name = ".." then .ok (onward, here.dropLast)
  else if !isUsable name then .error .nullCharacter
  else if longestPath < onward.toString.utf8ByteSize then .error .nameTooLong
  else (w.child here name).map fun next => (onward, next)

/-- The location that a path names, if the system finds every component named on the way. -/
def locateExisting (w : Workspace) (path : Path) : Except PathError Location :=
  (path.parts.foldlM w.enter (path.beginning, w.origin path)).map Prod.snd

end Workspace

/-- Why a file has no canonical name. -/
inductive NameError where
  | path (error : PathError)
  /-- The file lies outside the base directory. -/
  | outside
deriving DecidableEq, Repr, Inhabited

/-- The name of an existing file relative to the directory `base`. -/
def Workspace.relativeName (w : Workspace) (base : Location) (path : Path) :
    Except NameError String :=
  match w.locateExisting path with
  | .error e => .error (.path e)
  | .ok location =>
    if base.isPrefixOf location then
      .ok (Path.toString ⟨.relative, location.drop base.length⟩)
    else .error .outside

end IdlLint

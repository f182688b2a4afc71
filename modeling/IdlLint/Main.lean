import IdlLint.Command.Run

/-! The program: reads the files around the working directory and the arguments, runs the command,
and prints what it leaves behind. -/
namespace IdlLint.Main

/-- Adds a file, or a directory with everything below it. A file that cannot be read is left out, which
is said. -/
partial def addEntry (location : Location) (disk : Disk) (entry : IO.FS.DirEntry) : IO Disk := do
  let here := location ++ [entry.fileName]
  if ← entry.path.isDir then
    (← entry.path.readDir).foldlM (addEntry here) (disk.makeDirectory here)
  else
    try
      let content ← IO.FS.readBinFile entry.path
      return disk.write here content.toList
    catch e =>
      IO.eprintln ("Left out: " ++ toString e)
      return disk

/-- Adds the directory that an argument names, or the one that holds it. Other arguments than paths are
passed over. -/
def addArgument (cwd : Location) (disk : Disk) (argument : String) : IO Disk := do
  match ← (IO.FS.realPath argument).toBaseIO with
  | .error _ => return disk
  | .ok path =>
    if !(← path.pathExists) then return disk
    let directory := if ← path.isDir then path else path.parent.getD path
    let location : Location := directory.components.filter (· != "")
    if cwd.isPrefixOf location then return disk
    else (← directory.readDir).foldlM (addEntry location) (disk.makeDirectory location)

/-- The working directory and what the arguments name. -/
def readWorkspace (args : List String) : IO Workspace := do
  let directory ← IO.currentDir
  let cwd : Location := directory.components.filter (· != "")
  let disk ← (← directory.readDir).foldlM (addEntry cwd) (Disk.empty.makeDirectory cwd)
  return ⟨← args.foldlM (addArgument cwd) disk, cwd⟩

end IdlLint.Main

/-- The command is run once to see how long it takes, and once more to tell that time. -/
def main (args : List String) : IO UInt32 := do
  let start ← IO.monoMsNow
  let w ← IdlLint.Main.readWorkspace args
  let run (elapsed : IdlLint.Binary64) := IdlLint.Command.run .standard w elapsed args
  let _ ← IO.lazyPure fun _ => run (.zero false)
  let elapsed := IdlLint.Binary64.ofRatio false ((← IO.monoMsNow) - start) 1
  match run elapsed with
  | .error crash =>
    IO.eprintln crash.message
    return 1
  | .ok outcome =>
    IO.print outcome.output
    match outcome.error with
    | some text => IO.eprintln text
    | none => pure ()
    return UInt32.ofNat outcome.exitCode

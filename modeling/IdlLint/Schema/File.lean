import IdlLint.Disk.Basic
import IdlLint.Schema.Parse

/-! Documents from files. -/
namespace IdlLint.Schema

/-- Why a file does not hold a document. -/
inductive FileError where
  | unreadable (error : PathError)
  | undecodable (error : Text.DecodeError)
  | parse (failure : ParseFailure)
deriving DecidableEq, Repr, Inhabited

/-- The document in a file. -/
def parseFile (w : Workspace) (path : Path) : Except FileError Document :=
  match w.readBytes path with
  | .error e => .error (.unreadable e)
  | .ok bytes =>
    match Text.decodeUtf8 bytes with
    | .error e => .error (.undecodable e)
    | .ok text =>
      match parse (Text.unifyLines text) with
      | .error failure => .error (.parse failure)
      | .ok document => .ok document

end IdlLint.Schema

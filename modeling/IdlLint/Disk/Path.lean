/-! Paths as they are written. Empty and `.` components do not count; `..` stays, because what it
means depends on the disk. -/
namespace IdlLint

/-- How a path begins. Exactly two slashes are a beginning of their own. -/
inductive Anchor where
  | relative | slash | doubleSlash
deriving DecidableEq, Repr, Inhabited

structure Path where
  anchor : Anchor
  parts : List String
deriving DecidableEq, Repr, Inhabited

namespace Path

/-- The path to the working directory. -/
def here : Path := ⟨.relative, []⟩

def anchorOf (text : List Char) : Anchor :=
  match (text.takeWhile (· == '/')).length with
  | 0 => .relative
  | 2 => .doubleSlash
  | _ => .slash

def ofString (s : String) : Path :=
  ⟨anchorOf s.toList,
    ((List.splitOn '/' s.toList).map String.ofList).filter fun part => part != "" && part != "."⟩

def Anchor.text : Anchor → String
  | .relative => ""
  | .slash => "/"
  | .doubleSlash => "//"

def toString (p : Path) : String :=
  if p.anchor = .relative && p.parts.isEmpty then "."
  else Anchor.text p.anchor ++ "/".intercalate p.parts

def isAbsolute (p : Path) : Bool :=
  p.anchor != .relative

/-- The path `q` as seen from `p`. -/
def join (p q : Path) : Path :=
  if q.isAbsolute then q else ⟨p.anchor, p.parts ++ q.parts⟩

def parent (p : Path) : Path :=
  ⟨p.anchor, p.parts.dropLast⟩

/-- Where a path begins. Two slashes lead to the same place as one. -/
def beginning (p : Path) : Path :=
  ⟨if p.isAbsolute then .slash else .relative, []⟩

/-- One more component. `..` cancels the name before it; where there is none it stays, except in the
root directory, which has no parent. -/
def extend (p : Path) (name : String) : Path :=
  if name = ".." then
    match p.parts.getLast? with
    | none => if p.isAbsolute then p else ⟨p.anchor, [name]⟩
    | some last => if last = ".." then ⟨p.anchor, p.parts ++ [name]⟩ else p.parent
  else ⟨p.anchor, p.parts ++ [name]⟩

end Path

end IdlLint

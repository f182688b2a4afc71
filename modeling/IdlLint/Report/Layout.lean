import IdlLint.Text.Blank
import IdlLint.Text.Cell

/-! How text is laid out on a terminal. -/
namespace IdlLint.Layout

/-- Whether a terminal would move its cursor at a character, instead of showing it. -/
def isControl (c : Char) : Bool :=
  [7, 8, 11, 12, 13].contains c.toNat

/-- The text of a line whose parts stand between tabs. A tab goes to the next multiple of eight
cells. -/
def expandParts : Nat → List (List Char) → List Char
  | _, [] => []
  | _, [part] => part
  | column, part :: rest =>
    let spaced := part ++ [' ']
    let reached := column + Text.cells spaced
    let filled := (reached + 7) / 8 * 8
    spaced ++ List.replicate (filled - reached) ' ' ++ expandParts filled rest

/-- Replaces the tabs of every line by spaces. -/
def expandTabs (text : List Char) : List Char :=
  ['\n'].intercalate
    ((List.splitOn '\n' text).map fun line => expandParts 0 (List.splitOn '\t' line))

/-- A text as a terminal shows it. -/
def shown (text : List Char) : List Char :=
  expandTabs (text.filter fun c => !isControl c)

/-- The words of a text, each with the blanks after it. -/
def words : Nat → List Char → List (List Char)
  | 0, _ => []
  | fuel + 1, text =>
    let lead := text.takeWhile Text.isBlank
    let body := (text.drop lead.length).takeWhile fun c => !Text.isBlank c
    let trail := (text.drop (lead.length + body.length)).takeWhile Text.isBlank
    if body.isEmpty then []
    else
      let word := lead ++ body ++ trail
      word :: words fuel (text.drop word.length)

/-- The pieces of a text of `width` characters, the last of which may be shorter. -/
def pieces (width : Nat) : Nat → List Char → List (List Char)
  | 0, _ => []
  | fuel + 1, text =>
    if text.isEmpty then []
    else text.take width :: pieces width fuel (text.drop width)

/-- Finished lines, the last first, and the line that is being filled. -/
structure Filling where
  lines : List (List Char) := []
  line : List Char := []
deriving DecidableEq, Repr, Inhabited

/-- Begins a new line, unless nothing stands before it. -/
def Filling.breakLine (f : Filling) : Filling :=
  if f.line.isEmpty then f else ⟨f.line :: f.lines, []⟩

/-- Adds a word. One that does not fit begins a new line, and one that fits no line is cut up. -/
def Filling.add (width : Nat) (f : Filling) (word : List Char) : Filling :=
  let size := Text.cells (word.reverse.dropWhile Text.isBlank)
  if Text.cells f.line + size ≤ width then { f with line := f.line ++ word }
  else if width < size then
    (pieces width word.length word).foldl (fun f piece => { f.breakLine with line := piece }) f
  else { f.breakLine with line := word }

/-- Leaves out blanks at the end that stand beyond the width. -/
def cropBlanks (width : Nat) (line : List Char) : List Char :=
  let blanks := (line.reverse.takeWhile Text.isBlank).length
  line.take (line.length - min blanks (line.length - width))

/-- The lines of a text without line feeds, filled up to `width` cells. -/
def fill (width : Nat) (text : List Char) : List (List Char) :=
  let filling := (words text.length text).foldl (Filling.add width) {}
  (filling.line :: filling.lines).reverse.map (cropBlanks width)

end IdlLint.Layout

/-! File name patterns: `*` stands for any text, `?` for one character, `[...]` for one of a set and
`[!...]` for one outside it. Nothing escapes a special character. -/
namespace IdlLint.Pattern

/-- A part of a file name pattern. -/
inductive GlobItem where
  | text
  | one
  | char (c : Char)
  | set (negated : Bool) (ranges : List (Char × Char))
deriving DecidableEq, Repr, Inhabited

namespace Glob

/-- The inside of a set. A closing bracket that comes first, or after an exclamation mark that does,
belongs to the set. -/
def setBody? (text : List Char) : Option (List Char) :=
  let mark := if text.head? == some '!' then ['!'] else []
  let rest := text.drop mark.length
  let closing := if rest.head? == some ']' then [']'] else []
  let body := mark ++ closing ++ (rest.drop closing.length).takeWhile (· != ']')
  if body.length < text.length then some body else none

/-- The parts of a set around the hyphens that make ranges. The part read so far is reversed, and
the next `skip` characters belong to it whatever they are. -/
def splitRanges : Nat → List Char → List Char → List (List Char)
  | _, read, [] => [read.reverse]
  | 0, read, '-' :: rest => read.reverse :: splitRanges 2 [] rest
  | skip, read, c :: rest => splitRanges (skip - 1) (c :: read) rest

/-- A hyphen at the end stands for itself. -/
def keepLastHyphen : List (List Char) → List (List Char)
  | [part, []] => [part ++ ['-']]
  | part :: rest => part :: keepLastHyphen rest
  | [] => []

/-- Leaves out the ranges that are empty. The text before one is joined to the text after it. -/
def dropEmptyRanges : List (List Char) → List (List Char)
  | [] => []
  | part :: rest =>
    match dropEmptyRanges rest with
    | (first :: more) :: others =>
      if part.getLast?.any fun last => first < last then (part.dropLast ++ more) :: others
      else part :: (first :: more) :: others
    | others => part :: others

/-- The members of a set, as ranges. -/
def ranges : List (List Char) → List (Char × Char)
  | [] => []
  | part :: rest =>
    match rest with
    | (first :: more) :: others =>
      part.dropLast.map (fun c => (c, c)) ++ (part.getLast?.map fun last => (last, first)).toList ++
        ranges (more :: others)
    | _ => part.map fun c => (c, c)
termination_by parts => parts.flatten.length + parts.length

/-- The members after an exclamation mark that stood alone before a hyphen: the hyphen is a
member. -/
def rangesAfterMark : List (List Char) → List (Char × Char)
  | [] :: part :: rest => ('-', '-') :: ranges (part :: rest)
  | parts => ranges parts

/-- The set with a given inside. An exclamation mark that comes first once the empty ranges are left
out makes it the set of all other characters. -/
def ofBody (body : List Char) : GlobItem :=
  let skip := if body.head? == some '!' then 2 else 1
  match dropEmptyRanges (keepLastHyphen (splitRanges skip [] body)) with
  | ['!' :: []] => .one
  | ('!' :: part) :: rest => .set true (rangesAfterMark (part :: rest))
  | parts => .set false (ranges parts)

/-- The parts of a pattern, whose first `skip` characters belong to a set already read. -/
def itemsFrom : Nat → List Char → List GlobItem
  | _, [] => []
  | skip + 1, _ :: rest => itemsFrom skip rest
  | 0, '*' :: rest => .text :: itemsFrom 0 rest
  | 0, '?' :: rest => .one :: itemsFrom 0 rest
  | 0, '[' :: rest =>
    match setBody? rest with
    | some body => ofBody body :: itemsFrom (body.length + 1) rest
    | none => .char '[' :: itemsFrom 0 rest
  | 0, c :: rest => .char c :: itemsFrom 0 rest

/-- The ends of a text, the text itself first. -/
def suffixes : List Char → List (List Char)
  | [] => [[]]
  | c :: rest => (c :: rest) :: suffixes rest

/-- Whether a part that stands for one character stands for `c`. -/
def fits (c : Char) : GlobItem → Bool
  | .text => false
  | .one => true
  | .char d => c == d
  | .set negated ranges => ranges.any (fun range => range.1 ≤ c && c ≤ range.2) != negated

/-- What can be left of a text after one more part, given what was left before it, longest first. -/
def step (rests : List (List Char)) : GlobItem → List (List Char)
  | .text => (rests.head?.map suffixes).getD []
  | item => rests.filterMap fun rest =>
    match rest with
    | c :: more => if fits c item then some more else none
    | [] => none

end Glob

/-- Whether the whole of a name fits a file name pattern. -/
def globMatches (pattern name : String) : Bool :=
  ((Glob.itemsFrom 0 pattern.toList).foldl Glob.step [name.toList]).any List.isEmpty

end IdlLint.Pattern

/-! How alike two words are, by the blocks of characters that they have in common. -/
namespace IdlLint.Text

/-- The number of characters with which both texts begin. -/
def sharedStart : List Char → List Char → Nat
  | a :: as, b :: bs => if a = b then sharedStart as bs + 1 else 0
  | _, _ => 0

/-- A block of characters that stands in two texts. -/
structure Block where
  first : Nat
  second : Nat
  size : Nat
deriving DecidableEq, Repr, Inhabited

/-- The longest block of two texts. Of several, the one that comes first in the first text, and then
in the second. -/
def longestBlock (a b : List Char) : Block :=
  let blocks := (List.range a.length).flatMap fun i =>
    (List.range b.length).map fun j => Block.mk i j (sharedStart (a.drop i) (b.drop j))
  blocks.foldl (fun best block => if best.size < block.size then block else best) ⟨0, 0, 0⟩

/-- The number of characters in the longest block and, in the same way, in the texts before it and
after it. -/
def sharedSize : Nat → List Char → List Char → Nat
  | 0, _, _ => 0
  | fuel + 1, a, b =>
    let block := longestBlock a b
    if block.size = 0 then 0
    else
      sharedSize fuel (a.take block.first) (b.take block.second) + block.size +
        sharedSize fuel (a.drop (block.first + block.size)) (b.drop (block.second + block.size))

/-- A candidate for a word, with the number of characters that they share. -/
structure Likeness where
  candidate : String
  shared : Nat
  /-- The number of characters of both. -/
  total : Nat
deriving DecidableEq, Repr, Inhabited

namespace Likeness

def of (word candidate : String) : Likeness :=
  ⟨candidate, sharedSize (candidate.length + 1) candidate.toList word.toList,
    candidate.length + word.length⟩

/-- Whether three fifths of the characters are shared. -/
def isClose (l : Likeness) : Bool :=
  3 * l.total ≤ 10 * l.shared

/-- Whether one candidate is at least as good as another. Of equally good ones, the later in the
order of the alphabet is better. -/
def atLeast (a b : Likeness) : Bool :=
  let left := a.shared * b.total
  let right := b.shared * a.total
  right < left || (left = right && !(a.candidate < b.candidate))

end Likeness

/-- The candidates that are most like a word, at most three of them, in alphabetical order. -/
def closestWords (word : String) (candidates : List String) : List String :=
  let close := (candidates.map (Likeness.of word)).filter Likeness.isClose
  let best := ((close.mergeSort Likeness.atLeast).take 3).map Likeness.candidate
  best.mergeSort fun a b => !(b < a)

end IdlLint.Text

import IdlLint.Text.Mark
import IdlLint.Text.Word

/-! Identifiers in any script. -/
namespace IdlLint.Text

/-- Characters other than letters that can begin an identifier. -/
def startRanges : List (Nat × Nat) :=
  [(5870, 5872), (6277, 6278), (8472, 8472), (8494, 8494), (8544, 8578), (8581, 8584),
    (12295, 12295), (12321, 12329), (12344, 12346), (42726, 42735), (65856, 65908), (66369, 66369),
    (66378, 66378), (66513, 66517), (74752, 74862)]

/-- Letters that cannot begin an identifier. -/
def inertLetterRanges : List (Nat × Nat) :=
  [(890, 890), (3635, 3635), (3763, 3763), (11823, 11823), (64606, 64611), (65018, 65019),
    (65136, 65136), (65138, 65138), (65140, 65140), (65142, 65142), (65144, 65144), (65146, 65146),
    (65148, 65148), (65150, 65150), (65438, 65439)]

/-- Characters other than marks and digits that can only continue an identifier. -/
def continuationRanges : List (Nat × Nat) :=
  [(183, 183), (903, 903), (3635, 3635), (3763, 3763), (4969, 4977), (6618, 6618), (8255, 8256),
    (8276, 8276), (65075, 65076), (65101, 65103), (65343, 65343), (65438, 65439)]

def beginsIdentifier (c : Char) : Bool :=
  c == '_' || inRanges startRanges c.toNat || (isLetter c && !inRanges inertLetterRanges c.toNat)

def continuesIdentifier (c : Char) : Bool :=
  beginsIdentifier c || isDecimalDigit c || inRanges markRanges c.toNat ||
    inRanges continuationRanges c.toNat

def isIdentifier : List Char → Bool
  | [] => false
  | c :: rest => beginsIdentifier c && rest.all continuesIdentifier

end IdlLint.Text

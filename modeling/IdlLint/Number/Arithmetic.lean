import IdlLint.Number.Binary64

/-! Sums and products of double precision numbers, each rounded once. -/
namespace IdlLint.Binary64

/-- The number with the other sign. What is not a number stays as it is. -/
def negate (x : Binary64) : Binary64 :=
  if x.isNaN then x
  else ⟨UInt64.ofNat (x.unsigned + if x.isNegative then 0 else Nat.pow 2 63)⟩

/-- The double nearest to a natural number. -/
def ofNat (n : Nat) : Binary64 :=
  ofRatio false n 1

/-- The value of a finite number, as an integer over a natural number. -/
def signedRatio (x : Binary64) : Int × Nat :=
  let (num, den) := x.ratio
  (if x.isNegative then -num else num, den)

def add (x y : Binary64) : Binary64 :=
  if x.isNaN || y.isNaN then nan
  else if x.isInfinite then if y.isInfinite && x.isNegative != y.isNegative then nan else x
  else if y.isInfinite then y
  else
    let (a, b) := x.signedRatio
    let (c, d) := y.signedRatio
    let sum := a * d + c * b
    if sum = 0 then zero (x.isNegative && y.isNegative)
    else ofRatio (sum < 0) sum.natAbs (b * d)

/-- The product with a positive finite number. -/
def scale (x y : Binary64) : Binary64 :=
  if x.isNaN then nan
  else if x.isInfinite then x
  else
    let (a, b) := x.ratio
    let (c, d) := y.ratio
    ofRatio x.isNegative (a * c) (b * d)

end IdlLint.Binary64

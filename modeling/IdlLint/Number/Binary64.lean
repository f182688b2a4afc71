/-! Double precision numbers, kept as their bit patterns and rounded in exact integer arithmetic. -/
namespace IdlLint

/-- A double precision number, by its sign, exponent and fraction bits. -/
structure Binary64 where
  bits : UInt64
deriving DecidableEq, Repr, Inhabited

namespace Binary64

private def infinityBits : Nat := 2047 * Nat.pow 2 52

/-- `n / d` to the nearest integer, a half to the even one. -/
def roundQuotient (n d : Nat) : Nat :=
  let q := n / d
  let r := n % d
  if 2 * r < d then q
  else if d < 2 * r then q + 1
  else if q % 2 = 0 then q else q + 1

/-- `num / den * 2 ^ (-e)` to the nearest integer. -/
private def scaled (num den : Nat) (e : Int) : Nat :=
  if 0 ≤ e then roundQuotient num (den * Nat.pow 2 e.toNat)
  else roundQuotient (num * Nat.pow 2 (-e).toNat) den

/-- Whether `num / den` is at least `2 ^ e`. -/
private def atLeastPower (num den : Nat) (e : Int) : Bool :=
  if 0 ≤ e then den * Nat.pow 2 e.toNat ≤ num else den ≤ num * Nat.pow 2 (-e).toNat

/-- The pattern without sign of the double nearest to `num / den`, a half going to the even
fraction. Beyond the largest finite double it is infinity. -/
private def magnitude (num den : Nat) : Nat :=
  if num = 0 then 0
  else
    let guess : Int := (num.log2 : Int) - (den.log2 : Int)
    let top := if atLeastPower num den guess then guess else guess - 1
    let e := max (top - 52) (-1074)
    let q := scaled num den e
    min ((e + 1074).toNat * Nat.pow 2 52 + q) infinityBits

/-- The double nearest to `num / den`. -/
def ofRatio (negative : Bool) (num den : Nat) : Binary64 :=
  ⟨UInt64.ofNat (magnitude num den + if negative then Nat.pow 2 63 else 0)⟩

def infinity (negative : Bool) : Binary64 :=
  ⟨UInt64.ofNat (infinityBits + if negative then Nat.pow 2 63 else 0)⟩

def zero (negative : Bool) : Binary64 :=
  ⟨UInt64.ofNat (if negative then Nat.pow 2 63 else 0)⟩

/-- The number of decimal digits of `n`. -/
def digitCount (n : Nat) : Nat :=
  (Nat.toDigits 10 n).length

/-- The double nearest to `digits * 10 ^ power`. Magnitudes far out of range are settled without
computing the power. -/
def ofDecimal (negative : Bool) (digits : Nat) (power : Int) : Binary64 :=
  let size := (digitCount digits : Int) + power
  if digits = 0 then zero negative
  else if 310 < size then infinity negative
  else if size < -330 then zero negative
  else if 0 ≤ power then ofRatio negative (digits * Nat.pow 10 power.toNat) 1
  else ofRatio negative digits (Nat.pow 10 (-power).toNat)

def isNegative (x : Binary64) : Bool :=
  Nat.pow 2 63 ≤ x.bits.toNat

/-- The pattern without the sign. -/
def unsigned (x : Binary64) : Nat :=
  x.bits.toNat % Nat.pow 2 63

def isInfinite (x : Binary64) : Bool :=
  x.unsigned = infinityBits

def isNaN (x : Binary64) : Bool :=
  infinityBits < x.unsigned

def nan : Binary64 :=
  ⟨UInt64.ofNat (infinityBits + Nat.pow 2 51)⟩

/-- A finite number is `m * 2 ^ q` up to its sign. -/
def decompose (x : Binary64) : Nat × Int :=
  let e : Nat := x.unsigned / Nat.pow 2 52
  let fraction : Nat := x.unsigned % Nat.pow 2 52
  if e = 0 then (fraction, -1074) else (fraction + Nat.pow 2 52, (e : Int) - 1075)

/-- The absolute value of a finite number as a quotient. -/
def ratio (x : Binary64) : Nat × Nat :=
  let (m, q) := x.decompose
  if 0 ≤ q then (m * Nat.pow 2 q.toNat, 1) else (m, Nat.pow 2 (-q).toNat)

/-- The value of decimal digits, read from the left. -/
def naturalOf (digits : List Char) : Nat :=
  digits.foldl (fun n c => 10 * n + (c.toNat - 48)) 0

/-- Reads a number written with an optional sign, digits around an optional point and an optional
power of ten. Characters that have no place in such a number are not expected. -/
def ofChars (text : List Char) : Binary64 :=
  let negative := text.head? = some '-'
  let body := text.dropWhile fun c => c = '+' || c = '-'
  let whole := body.takeWhile Char.isDigit
  let rest := body.drop whole.length
  let fraction := match rest with
    | '.' :: more => more.takeWhile Char.isDigit
    | _ => []
  let tail := body.dropWhile fun c => c.isDigit || c = '.'
  let power : Int := match tail.drop 1 with
    | '-' :: digits => -(naturalOf digits : Int)
    | '+' :: digits => naturalOf digits
    | digits => naturalOf digits
  ofDecimal negative (naturalOf (whole ++ fraction)) (power - fraction.length)

end Binary64

end IdlLint

import IdlLint.Number.Binary64

/-! Decimal texts of double precision numbers: the fewest digits that read back, and a fixed number
of places. -/
namespace IdlLint.Binary64

/-- The power of ten of the leading digit of `num / den`, for a positive quotient. -/
def leadingPower (num den : Nat) : Int :=
  if den ≤ num then (digitCount (num / den) : Int) - 1
  else
    let count := digitCount (den / num)
    if den ≤ num * Nat.pow 10 (count - 1) then -((count : Int) - 1) else -(count : Int)

/-- `num / den` in units of `10 ^ power`, rounded down, and the remainder's quotient. -/
def grid (num den : Nat) (power : Int) : Nat × Nat × Nat :=
  let (n, d) :=
    if 0 ≤ power then (num, den * Nat.pow 10 power.toNat)
    else (num * Nat.pow 10 (-power).toNat, den)
  (n / d, n % d, d)

/-- The nearer of the neighbours of a magnitude on a decimal grid that reads back as `x`, the even
one if both are as near. -/
def onGrid? (x : Binary64) (num den : Nat) (power : Int) : Option Nat :=
  let (below, rest, whole) := grid num den power
  let reads (digits : Nat) : Bool := (ofDecimal false digits power).unsigned == x.unsigned
  let preferBelow := 2 * rest < whole || (2 * rest == whole && below % 2 == 0)
  let order := if preferBelow then [below, below + 1] else [below + 1, below]
  order.find? reads

/-- Tries grids of more and more digits, at most `fuel` of them. -/
def searchGrid (x : Binary64) (num den : Nat) : Nat → Int → Nat × Int
  | 0, power => ((grid num den power).1, power)
  | fuel + 1, power =>
    match onGrid? x num den power with
    | some digits => (digits, power)
    | none => searchGrid x num den fuel (power - 1)

/-- The fewest digits that read back as a finite positive magnitude, with the power of ten of the
last of them. -/
def shortest (x : Binary64) : Nat × Int :=
  let (num, den) := x.ratio
  searchGrid x num den 17 (leadingPower num den)

/-- Drops trailing zeros, each for a power of ten. -/
def dropZeros : Nat → Nat × Int → Nat × Int
  | 0, result => result
  | fuel + 1, (digits, power) =>
    if digits % 10 = 0 then dropZeros fuel (digits / 10, power + 1) else (digits, power)

/-- How the numbers are written that no digits can express. -/
structure DecimalStyle where
  infinity : String
  nan : String
deriving DecidableEq, Repr, Inhabited

/-- Digits around a point that stands `point` digits after their start. -/
def positional (digits : List Char) (point : Int) : List Char :=
  let size : Int := digits.length
  if point ≤ 0 then '0' :: '.' :: List.replicate (-point).toNat '0' ++ digits
  else if size ≤ point then digits ++ List.replicate (point - size).toNat '0' ++ ['.', '0']
  else digits.take point.toNat ++ '.' :: digits.drop point.toNat

/-- Digits with a power of ten of at least two digits. -/
def scientific (digits : List Char) (point : Int) : List Char :=
  let exponent := point - 1
  let power := Nat.toDigits 10 exponent.natAbs
  let mantissa := match digits with
    | [d] => [d]
    | d :: rest => d :: '.' :: rest
    | [] => []
  mantissa ++ 'e' :: (if exponent < 0 then '-' else '+') ::
    (if power.length < 2 then '0' :: power else power)

/-- The text of a magnitude: positional from `0.0001` up to below `10 ^ 16`, and with a power of ten
otherwise. -/
def magnitudeText (x : Binary64) : List Char :=
  if x.unsigned = 0 then ['0', '.', '0']
  else
    let (number, power) := dropZeros 20 x.shortest
    let digits := Nat.toDigits 10 number
    let point := power + digits.length
    if -4 < point && point ≤ 16 then positional digits point else scientific digits point

/-- The fewest digits that read back as `x`. -/
def render (style : DecimalStyle) (x : Binary64) : String :=
  let sign := if x.isNegative then "-" else ""
  if x.isNaN then style.nan
  else if x.isInfinite then sign ++ style.infinity
  else sign ++ String.ofList x.magnitudeText

/-- The double nearest to `x / n`. -/
def divide (x : Binary64) (n : Nat) : Binary64 :=
  if x.isNaN || x.isInfinite then x
  else
    let (num, den) := x.ratio
    ofRatio x.isNegative num (den * n)

/-- The text with one place after the point, a half going to the even digit. -/
def renderOnePlace (style : DecimalStyle) (x : Binary64) : String :=
  let sign := if x.isNegative then "-" else ""
  if x.isNaN then style.nan
  else if x.isInfinite then sign ++ style.infinity
  else
    let (num, den) := x.ratio
    let tenths := roundQuotient (10 * num) den
    sign ++ toString (tenths / 10) ++ "." ++ toString (tenths % 10)

end IdlLint.Binary64

import IdlLint.Number.Decimal
import IdlLint.Proofs.LexemeSpelling
import Mathlib.Algebra.Group.Nat.Defs

/-! Numbers in nested data. Integers and finite double precision numbers are written as numerals that
every reader of the notation accepts: without zeros in front, and with digits on both sides of a point. -/
namespace IdlLint

/-! ### Numerals -/

/-- The digits before the point: a single zero, or digits that do not begin with one. -/
inductive IsWhole : List Char → Prop where
  | zero : IsWhole ['0']
  | digits {first : Char} {rest : List Char} (digit : first.isDigit = true) (nonzero : first ≠ '0')
      (more : ∀ c ∈ rest, c.isDigit = true) : IsWhole (first :: rest)

/-- A point with digits after it. -/
def IsFraction (text : List Char) : Prop :=
  ∃ digits, text = '.' :: digits ∧ IsRun Char.isDigit digits

/-- A number without a sign. -/
def IsMagnitude (text : List Char) : Prop :=
  ∃ whole part power, text = whole ++ (part ++ power) ∧ IsWhole whole ∧
    (part = [] ∨ IsFraction part) ∧ (power = [] ∨ IsExponent power)

/-- A number as the notation asks for it. -/
def IsNumber (text : List Char) : Prop :=
  IsMagnitude text ∨ ∃ body, text = '-' :: body ∧ IsMagnitude body

private theorem isDigit_toDigits {n : Nat} {c : Char} (member : c ∈ Nat.toDigits 10 n) :
    c.isDigit = true :=
  Nat.isDigit_of_mem_toDigits (by decide) (by decide) member

private theorem isRun_toDigits (n : Nat) : IsRun Char.isDigit (Nat.toDigits 10 n) :=
  ⟨Nat.toDigits_ne_nil, fun _ member => isDigit_toDigits member⟩

/-- The digits of a positive number do not begin with a zero. -/
theorem toDigits_head {n : Nat} (positive : n ≠ 0) :
    ∃ first rest, Nat.toDigits 10 n = first :: rest ∧ first ≠ '0' := by
  induction n using Nat.strongRecOn with
  | ind n ih =>
    by_cases small : n < 10
    · exact ⟨n.digitChar, [], Nat.toDigits_of_lt_base small, by simp [positive]⟩
    · have large : 10 ≤ n := Nat.le_of_not_lt small
      obtain ⟨first, rest, shape, nonzero⟩ := ih (n / 10) (by omega) (by omega)
      refine ⟨first, rest ++ [(n % 10).digitChar], ?_, nonzero⟩
      rw [Nat.toDigits_of_base_le (by decide) large, shape, List.cons_append]

/-- Digits that begin with the digits of a positive number. -/
theorem isWhole_of_toDigits {n : Nat} (positive : n ≠ 0) {front behind : List Char}
    (front_ne : front ≠ []) (start : front <+: Nat.toDigits 10 n)
    (more : ∀ c ∈ behind, c.isDigit = true) : IsWhole (front ++ behind) := by
  obtain ⟨first, rest, shape, nonzero⟩ := toDigits_head positive
  cases front with
  | nil => exact absurd rfl front_ne
  | cons c front =>
    have digits : ∀ d ∈ c :: front, d.isDigit = true :=
      fun d member => isDigit_toDigits (start.subset member)
    obtain ⟨digit, others⟩ := List.forall_mem_cons.mp digits
    rw [shape] at start
    have same : c = first := (List.cons_prefix_cons.mp start).1
    exact .digits digit (same ▸ nonzero) (List.forall_mem_append.mpr ⟨others, more⟩)

private theorem isWhole_toDigits (n : Nat) : IsWhole (Nat.toDigits 10 n) := by
  by_cases zero : n = 0
  · rw [zero, Nat.toDigits_zero]
    exact .zero
  · have whole := isWhole_of_toDigits zero Nat.toDigits_ne_nil List.prefix_rfl (List.forall_mem_nil _)
    rwa [List.append_nil] at whole

private theorem isMagnitude_toDigits (n : Nat) : IsMagnitude (Nat.toDigits 10 n) :=
  ⟨_, [], [], by simp, isWhole_toDigits n, .inl rfl, .inl rfl⟩

theorem isNumber_toString (n : Int) : IsNumber (toString n).toList := by
  rw [Int.toString_eq_repr, Int.repr_eq_if]
  split
  · rw [Nat.toList_repr]
    exact .inl (isMagnitude_toDigits _)
  · rw [String.toList_append, Nat.toList_repr]
    exact .inr ⟨_, rfl, isMagnitude_toDigits _⟩

/-- The value of some digits, if there are digits and nothing else. -/
def naturalOf (text : List Char) : Option Nat :=
  if text ≠ [] ∧ text.all Char.isDigit = true then some (Nat.ofDigitChars 10 text 0) else none

/-- The integer that a numeral without point and power stands for. -/
def integerOf : List Char → Option Int
  | '-' :: digits => (naturalOf digits).map fun n : Nat => -(n : Int)
  | digits => (naturalOf digits).map Int.ofNat

private theorem naturalOf_toDigits (n : Nat) : naturalOf (Nat.toDigits 10 n) = some n := by
  obtain ⟨nonempty, digits⟩ := isRun_toDigits n
  rw [naturalOf, if_pos ⟨nonempty, List.all_eq_true.mpr digits⟩, Nat.ofDigitChars_ten_toDigits]

theorem integerOf_repr (n : Int) : integerOf n.repr.toList = some n := by
  rw [Int.repr_eq_if]
  split
  · rw [Nat.toList_repr, integerOf, naturalOf_toDigits]
    · simp only [Option.map_some, Int.ofNat_eq_natCast, Option.some.injEq]
      omega
    · intro digits signed
      have minus : '-'.isDigit = true := isDigit_toDigits (signed ▸ List.mem_cons_self ..)
      exact absurd minus (by decide)
  · have shape : ("-" ++ (-n).toNat.repr).toList = '-' :: Nat.toDigits 10 (-n).toNat := by
      rw [String.toList_append, Nat.toList_repr]
      rfl
    rw [shape, integerOf, naturalOf_toDigits]
    simp only [Option.map_some, Option.some.injEq]
    omega

namespace Binary64

/-! ### Digits around a point -/

private theorem isDigit_zeros (n : Nat) : ∀ c ∈ List.replicate n '0', c.isDigit = true := by
  intro c member
  rw [(List.mem_replicate.mp member).2]
  decide

private theorem isMagnitude_positional {number : Nat} (positive : number ≠ 0) (point : Int) :
    IsMagnitude (positional (Nat.toDigits 10 number) point) := by
  obtain ⟨nonempty, digits⟩ := isRun_toDigits number
  unfold positional
  by_cases small : point ≤ 0
  · -- Nothing but zeros stands before the first digit.
    have part : IsRun Char.isDigit (List.replicate (-point).toNat '0' ++ Nat.toDigits 10 number) :=
      ⟨by simp [nonempty], List.forall_mem_append.mpr ⟨isDigit_zeros _, digits⟩⟩
    refine ⟨['0'], _, [], ?_, .zero, .inr ⟨_, rfl, part⟩, .inl rfl⟩
    simp [small]
  · by_cases large : ((Nat.toDigits 10 number).length : Int) ≤ point
    · have whole := isWhole_of_toDigits positive nonempty List.prefix_rfl
        (isDigit_zeros (point - (Nat.toDigits 10 number).length).toNat)
      have part : IsRun Char.isDigit ['0'] := ⟨by simp, by simp⟩
      refine ⟨_, ['.', '0'], [], ?_, whole, .inr ⟨_, rfl, part⟩, .inl rfl⟩
      simp [small, large]
    · have front : (Nat.toDigits 10 number).take point.toNat ≠ [] := by
        simp only [ne_eq, List.take_eq_nil_iff, not_or]
        exact ⟨by omega, nonempty⟩
      have whole := isWhole_of_toDigits positive front (List.take_prefix _ _) (List.forall_mem_nil _)
      have part : IsRun Char.isDigit ((Nat.toDigits 10 number).drop point.toNat) := by
        refine ⟨?_, fun c member => digits c (List.mem_of_mem_drop member)⟩
        simp only [ne_eq, List.drop_eq_nil_iff]
        omega
      refine ⟨_, _, [], ?_, whole, .inr ⟨_, rfl, part⟩, .inl rfl⟩
      simp [small, large]

private theorem isExponent_scaled (exponent : Int) :
    IsExponent ('e' :: (if exponent < 0 then '-' else '+') ::
      (if (Nat.toDigits 10 exponent.natAbs).length < 2 then '0' :: Nat.toDigits 10 exponent.natAbs
        else Nat.toDigits 10 exponent.natAbs)) := by
  obtain ⟨nonempty, digits⟩ := isRun_toDigits exponent.natAbs
  have padded : IsRun Char.isDigit (if (Nat.toDigits 10 exponent.natAbs).length < 2 then
      '0' :: Nat.toDigits 10 exponent.natAbs else Nat.toDigits 10 exponent.natAbs) := by
    split
    · exact ⟨List.cons_ne_nil _ _, List.forall_mem_cons.mpr ⟨by decide, digits⟩⟩
    · exact ⟨nonempty, digits⟩
  refine ⟨'e', [if exponent < 0 then '-' else '+'], _, rfl, .inl rfl, ?_, padded⟩
  split
  · exact .inr (.inr rfl)
  · exact .inr (.inl rfl)

private theorem isMagnitude_scientific {number : Nat} (positive : number ≠ 0) (point : Int) :
    IsMagnitude (scientific (Nat.toDigits 10 number) point) := by
  obtain ⟨-, digits⟩ := isRun_toDigits number
  obtain ⟨first, rest, shape, nonzero⟩ := toDigits_head positive
  rw [shape] at digits ⊢
  obtain ⟨digit, others⟩ := List.forall_mem_cons.mp digits
  have whole : IsWhole [first] := .digits digit nonzero (List.forall_mem_nil _)
  have power := isExponent_scaled (point - 1)
  cases rest with
  | nil => exact ⟨[first], [], _, rfl, whole, .inl rfl, .inr power⟩
  | cons d more =>
    have part : IsRun Char.isDigit (d :: more) := ⟨List.cons_ne_nil _ _, others⟩
    exact ⟨[first], '.' :: d :: more, _, rfl, whole, .inr ⟨_, rfl, part⟩, .inr power⟩

/-! ### The digits of a double precision number -/

/-- Whether `num / den` is at least `10 ^ power`. -/
def Reaches (num den : Nat) (power : Int) : Prop :=
  den * 10 ^ power.toNat ≤ num * 10 ^ (-power).toNat

private theorem Reaches.pred {num den : Nat} {power : Int} (reaches : Reaches num den power) :
    Reaches num den (power - 1) := by
  unfold Reaches at *
  by_cases positive : 0 < power
  · have up : power.toNat = (power - 1).toNat + 1 := by omega
    have none : (-power).toNat = 0 := by omega
    have none' : (-(power - 1)).toNat = 0 := by omega
    rw [up, none, Nat.pow_succ, ← Nat.mul_assoc] at reaches
    rw [none']
    omega
  · have down : (-(power - 1)).toNat = (-power).toNat + 1 := by omega
    have none : power.toNat = 0 := by omega
    have none' : (power - 1).toNat = 0 := by omega
    rw [none] at reaches
    rw [none', down, Nat.pow_succ, ← Nat.mul_assoc]
    omega

private theorem pow_digitCount_le {n : Nat} (positive : n ≠ 0) : 10 ^ (digitCount n - 1) ≤ n := by
  by_cases one : digitCount n = 1
  · rw [one]
    exact Nat.pos_of_ne_zero positive
  · have count : 0 < digitCount n := Nat.length_toDigits_pos
    apply Nat.le_of_not_lt
    intro less
    have short := (Nat.length_toDigits_le_iff (by decide) (by omega)).mpr less
    unfold digitCount at short count
    omega

private theorem lt_pow_digitCount (n : Nat) : n < 10 ^ digitCount n :=
  (Nat.length_toDigits_le_iff (by decide) Nat.length_toDigits_pos).mp (Nat.le_refl _)

private theorem reaches_leadingPower {num den : Nat} (positive : num ≠ 0) (divides : den ≠ 0) :
    Reaches num den (leadingPower num den) := by
  unfold leadingPower Reaches
  by_cases large : den ≤ num
  · have quotient : num / den ≠ 0 := by
      have := Nat.div_pos large (Nat.pos_of_ne_zero divides)
      omega
    have count : 0 < digitCount (num / den) := Nat.length_toDigits_pos
    have up : ((digitCount (num / den) : Int) - 1).toNat = digitCount (num / den) - 1 := by omega
    have none : (-((digitCount (num / den) : Int) - 1)).toNat = 0 := by omega
    rw [if_pos large, up, none, Nat.pow_zero, Nat.mul_one]
    calc den * 10 ^ (digitCount (num / den) - 1)
        ≤ den * (num / den) := Nat.mul_le_mul_left den (pow_digitCount_le quotient)
      _ ≤ num := Nat.mul_div_le num den
  · rw [if_neg large]
    have count : 0 < digitCount (den / num) := Nat.length_toDigits_pos
    by_cases fits : den ≤ num * Nat.pow 10 (digitCount (den / num) - 1)
    · have none : (-((digitCount (den / num) : Int) - 1)).toNat = 0 := by omega
      have down : (- -((digitCount (den / num) : Int) - 1)).toNat = digitCount (den / num) - 1 := by
        omega
      simp only [fits, if_true, none, down, Nat.pow_zero, Nat.mul_one]
      exact fits
    · have none : (-(digitCount (den / num) : Int)).toNat = 0 := by omega
      have down : (- -(digitCount (den / num) : Int)).toNat = digitCount (den / num) := by omega
      simp only [fits, if_false, none, down, Nat.pow_zero, Nat.mul_one]
      have less := (Nat.div_lt_iff_lt_mul (Nat.pos_of_ne_zero positive)).mp
        (lt_pow_digitCount (den / num))
      rw [Nat.mul_comm]
      exact Nat.le_of_lt less

/-- On a grid that is fine enough a number is not rounded down to nothing. -/
theorem Reaches.grid_ne_zero {num den : Nat} (divides : den ≠ 0) {power : Int}
    (reaches : Reaches num den power) : (grid num den power).1 ≠ 0 := by
  unfold Reaches at reaches
  unfold grid
  by_cases positive : 0 ≤ power
  · have none : (-power).toNat = 0 := by omega
    rw [none, Nat.pow_zero, Nat.mul_one] at reaches
    simp only [positive, if_true]
    exact (Nat.div_pos reaches (Nat.mul_pos (Nat.pos_of_ne_zero divides) (Nat.pow_pos (by decide)))).ne'
  · have none : power.toNat = 0 := by omega
    rw [none, Nat.pow_zero, Nat.mul_one] at reaches
    simp only [positive, if_false]
    exact (Nat.div_pos reaches (Nat.pos_of_ne_zero divides)).ne'

private theorem unsigned_zero : (zero false).unsigned = 0 := by decide

/-- Digits that read back as a number other than zero are not zero. -/
theorem onGrid?_ne_zero {x : Binary64} (nonzero : x.unsigned ≠ 0) {num den digits : Nat} {power : Int}
    (found : onGrid? x num den power = some digits) : digits ≠ 0 := by
  rintro rfl
  have reads := List.find?_some (by simpa only [onGrid?] using found)
  have nothing : ofDecimal false 0 power = zero false := by simp [ofDecimal]
  simp only [nothing, unsigned_zero, beq_iff_eq] at reads
  exact nonzero reads.symm

private theorem searchGrid_ne_zero {x : Binary64} (nonzero : x.unsigned ≠ 0) {num den : Nat}
    (divides : den ≠ 0) (fuel : Nat) {power : Int} (reaches : Reaches num den power) :
    (searchGrid x num den fuel power).1 ≠ 0 := by
  induction fuel generalizing power with
  | zero => exact reaches.grid_ne_zero divides
  | succ fuel ih =>
    rw [searchGrid]
    cases found : onGrid? x num den power with
    | some digits => exact onGrid?_ne_zero nonzero found
    | none => exact ih reaches.pred

private theorem dropZeros_ne_zero (fuel : Nat) {result : Nat × Int} (nonzero : result.1 ≠ 0) :
    (dropZeros fuel result).1 ≠ 0 := by
  induction fuel generalizing result with
  | zero => exact nonzero
  | succ fuel ih =>
    obtain ⟨digits, power⟩ := result
    rw [dropZeros]
    split
    · apply ih
      dsimp only at nonzero ⊢
      omega
    · exact nonzero

private theorem decompose_ne_zero {x : Binary64} (nonzero : x.unsigned ≠ 0) : x.decompose.1 ≠ 0 := by
  have split := Nat.div_add_mod x.unsigned (Nat.pow 2 52)
  unfold decompose
  by_cases subnormal : x.unsigned / Nat.pow 2 52 = 0
  · rw [subnormal, Nat.mul_zero, Nat.zero_add] at split
    simpa [subnormal, split] using nonzero
  · have positive : 0 < Nat.pow 2 52 := Nat.pow_pos (by decide)
    simp only [subnormal, if_false]
    omega

private theorem ratio_ne_zero {x : Binary64} (nonzero : x.unsigned ≠ 0) :
    x.ratio.1 ≠ 0 ∧ x.ratio.2 ≠ 0 := by
  have mantissa := decompose_ne_zero nonzero
  have power : ∀ n, Nat.pow 2 n ≠ 0 := fun n => (Nat.pow_pos (by decide)).ne'
  unfold ratio
  rcases shape : x.decompose with ⟨m, q⟩
  rw [shape] at mantissa
  by_cases whole : 0 ≤ q
  · simp only [whole, if_true]
    exact ⟨Nat.mul_ne_zero mantissa (power _), Nat.one_ne_zero⟩
  · simp only [whole, if_false]
    exact ⟨mantissa, power _⟩

/-- The text of a magnitude is a number. -/
theorem isMagnitude_magnitudeText (x : Binary64) : IsMagnitude x.magnitudeText := by
  unfold magnitudeText
  by_cases zero : x.unsigned = 0
  · rw [if_pos zero]
    exact ⟨['0'], ['.', '0'], [], rfl, .zero, .inr ⟨['0'], rfl, by simp, by simp⟩, .inl rfl⟩
  · rw [if_neg zero]
    obtain ⟨positive, divides⟩ := ratio_ne_zero zero
    have digits : (dropZeros 20 x.shortest).1 ≠ 0 :=
      dropZeros_ne_zero 20 (searchGrid_ne_zero zero divides 17 (reaches_leadingPower positive divides))
    dsimp only
    split
    · exact isMagnitude_positional digits _
    · exact isMagnitude_scientific digits _

/-- Neither infinite nor undefined. -/
def isFinite (x : Binary64) : Bool :=
  !x.isNaN && !x.isInfinite

theorem isNumber_render (style : DecimalStyle) {x : Binary64} (finite : x.isFinite = true) :
    IsNumber (x.render style).toList := by
  have body := isMagnitude_magnitudeText x
  simp only [isFinite, Bool.and_eq_true, Bool.not_eq_true'] at finite
  unfold render
  simp only [finite.1, finite.2, Bool.false_eq_true, if_false, String.toList_append,
    String.toList_ofList]
  by_cases negative : x.isNegative = true
  · exact .inr ⟨x.magnitudeText, by simp [negative], body⟩
  · exact .inl (by simpa [negative] using body)

end Binary64

end IdlLint

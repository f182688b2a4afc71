import IdlLint.Number.Limit
import IdlLint.Text.Blank
import IdlLint.Text.Word

/-! Integers as people write them: blanks around them, a sign, a mark for the base, single
underscores between the digits, and decimal digits of any script. -/
namespace IdlLint

/-- Why a text is no integer. -/
inductive NumeralFault where
  | malformed
  /-- A decimal integer has too many digits. -/
  | excessiveDigits (count : Nat)
deriving DecidableEq, Repr, Inhabited

namespace Numeral

/-- The ASCII form of a blank or a digit of any script. -/
def asciiForm (c : Char) : Char :=
  if c.toNat < 127 then c
  else if Text.isBlank c then ' '
  else
    match Text.digitValue? c with
    | some value => Char.ofNat (48 + value)
    | none => c

def isAsciiBlank (c : Char) : Bool :=
  c = ' ' || (9 ≤ c.toNat && c.toNat ≤ 13)

/-- The value of a digit, which may be a letter. -/
def digitValue (c : Char) : Nat :=
  if c.isDigit then c.toNat - 48
  else if 'a' ≤ c && c ≤ 'z' then c.toNat - 87
  else if 'A' ≤ c && c ≤ 'Z' then c.toNat - 55
  else 99

/-- The value of digits. -/
def value (base : Nat) (digits : List Char) : Nat :=
  digits.foldl (fun n c => base * n + digitValue c) 0

/-- The letter that marks a base after a zero. -/
def baseMark : Nat → Option Char
  | 2 => some 'b'
  | 8 => some 'o'
  | 16 => some 'x'
  | _ => none

/-- The text after the mark of its base, which an underscore may follow. -/
def dropMark (base : Nat) : List Char → List Char
  | '0' :: c :: rest =>
    if baseMark base == some c.toLower then
      match rest with
      | '_' :: more => more
      | _ => rest
    else '0' :: c :: rest
  | text => text

/-- A natural number that stands at the start of a text, with blanks after it. -/
def natural (base : Nat) (text : List Char) : Except NumeralFault Nat :=
  let isDigit (c : Char) : Bool := digitValue c < base
  let run := text.takeWhile fun c => isDigit c || c = '_'
  let digits := run.filter (· != '_')
  if (List.splitOn '_' run).any List.isEmpty then .error .malformed
  else if (baseMark base).isNone && mostDigits < digits.length then
    .error (.excessiveDigits digits.length)
  else if (text.drop run.length).all isAsciiBlank then .ok (value base digits)
  else .error .malformed

/-- The integer that a text stands for. -/
def integer (base : Nat) (text : List Char) : Except NumeralFault Int :=
  match (text.map asciiForm).dropWhile isAsciiBlank with
  | '-' :: rest => (natural base (dropMark base rest)).map fun n => -(n : Int)
  | '+' :: rest => (natural base (dropMark base rest)).map Int.ofNat
  | rest => (natural base (dropMark base rest)).map Int.ofNat

end Numeral

end IdlLint

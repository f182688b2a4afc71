import IdlLint.Config.Moment
import IdlLint.Number.Numeral

/-! Days and moments as they are written: `2001-12-14`, `2001-12-14 21:59:43.10 -05:00`. -/
namespace IdlLint.Yaml

open IdlLint.Config

/-- The digits of the time of a day and of its zone. The zone is empty for universal time. -/
structure WrittenTime where
  hour : List Char
  minute : List Char
  second : List Char
  fraction : List Char
  /-- The sign, the hours and the minutes. -/
  zone : Option (Option (Char × List Char × List Char))
deriving DecidableEq, Repr, Inhabited

/-- The digits of a day, and of the time on it. -/
structure Written where
  year : List Char
  month : List Char
  day : List Char
  time : Option WrittenTime
deriving DecidableEq, Repr, Inhabited

namespace Written

/-- Takes `least` up to `most` digits. -/
def digits? (least most : Nat) (text : List Char) : Option (List Char × List Char) :=
  let digits := (text.takeWhile Char.isDigit).take most
  if least ≤ digits.length then some (digits, text.drop digits.length) else none

/-- Takes the character `c`. -/
def char? (c : Char) : List Char → Option (List Char)
  | d :: rest => if c = d then some rest else none
  | [] => none

/-- Skips what stands between a day and the time on it. -/
def timeMark? : List Char → Option (List Char)
  | 'T' :: rest => some rest
  | 't' :: rest => some rest
  | c :: rest =>
    if c = ' ' || c = '\t' then some (rest.dropWhile fun d => d = ' ' || d = '\t') else none
  | [] => none

/-- The zone that ends a text. -/
def zone? (text : List Char) : Option (Option (Option (Char × List Char × List Char))) := do
  match text.dropWhile fun c => c = ' ' || c = '\t' with
  | [] => if text.isEmpty then some none else none
  | ['Z'] => some (some none)
  | sign :: rest =>
    if sign = '+' || sign = '-' then
      let (hours, rest) ← digits? 1 2 rest
      match rest with
      | [] => some (some (some (sign, hours, [])))
      | ':' :: rest =>
        let (minutes, rest) ← digits? 2 2 rest
        if rest.isEmpty then some (some (some (sign, hours, minutes))) else none
      | _ => none
    else none

def time? (text : List Char) : Option WrittenTime := do
  let (hour, rest) ← digits? 1 2 text
  let (minute, rest) ← digits? 2 2 (← char? ':' rest)
  let (second, rest) ← digits? 2 2 (← char? ':' rest)
  let fraction := match rest with
    | '.' :: more => more.takeWhile Char.isDigit
    | _ => []
  let rest := if rest.head? = some '.' then rest.drop (fraction.length + 1) else rest
  let zone ← zone? rest
  return ⟨hour, minute, second, fraction, zone⟩

/-- The digits of a whole text. -/
def ofText? (text : List Char) : Option Written := do
  let (year, rest) ← digits? 4 4 text
  let (month, rest) ← digits? 1 2 (← char? '-' rest)
  let (day, rest) ← digits? 1 2 (← char? '-' rest)
  match rest with
  | [] => return ⟨year, month, day, none⟩
  | rest => return ⟨year, month, day, some (← time? (← timeMark? rest))⟩

/-- Whether a plain scalar with these digits is a timestamp. A day on its own needs all its
digits. -/
def isEvident (w : Written) : Bool :=
  w.time.isSome || (w.month.length = 2 && w.day.length = 2)

def date (w : Written) : Date :=
  ⟨Numeral.value 10 w.year, Numeral.value 10 w.month, Numeral.value 10 w.day⟩

/-- The microseconds of a fraction, of which six digits count. -/
def microseconds (fraction : List Char) : Nat :=
  Numeral.value 10 ((fraction ++ List.replicate 6 '0').take 6)

/-- The distance of a zone from universal time, in minutes. -/
def offset : Option (Char × List Char × List Char) → Int
  | none => 0
  | some (sign, hours, minutes) =>
    let size : Int := Numeral.value 10 hours * 60 + Numeral.value 10 minutes
    if sign = '-' then -size else size

/-- The moment on a day. -/
def moment (date : Date) (t : WrittenTime) : Moment :=
  ⟨date, Numeral.value 10 t.hour, Numeral.value 10 t.minute, Numeral.value 10 t.second,
    microseconds t.fraction, t.zone.map offset⟩

end Written

end IdlLint.Yaml

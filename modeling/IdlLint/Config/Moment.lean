/-! Days of the calendar and moments on them. -/
namespace IdlLint.Config

structure Date where
  year : Nat
  month : Nat
  day : Nat
deriving DecidableEq, Repr, Inhabited

/-- A moment on a day. The zone is given by its distance from universal time, in minutes. -/
structure Moment where
  date : Date
  hour : Nat
  minute : Nat
  second : Nat
  microsecond : Nat
  offset : Option Int
deriving DecidableEq, Repr, Inhabited

/-- Why there is no such day or moment. -/
inductive CalendarFault where
  | year (number : Nat)
  | month
  | day
  | hour
  | minute
  | second
  | offset (minutes : Int)
deriving DecidableEq, Repr, Inhabited

/-- A number with at least `width` digits. -/
def padded (width n : Nat) : String :=
  let digits := Nat.toDigits 10 n
  String.ofList (List.replicate (width - digits.length) '0' ++ digits)

/-- A duration in minutes, by its whole days and the seconds beyond them. -/
def durationText (minutes : Int) : String :=
  let days := minutes.fdiv 1440
  let seconds := minutes.fmod 1440 * 60
  let parts := (if days = 0 then [] else ["days=" ++ toString days]) ++
    (if seconds = 0 then [] else ["seconds=" ++ toString seconds])
  "datetime.timedelta(" ++ (if parts.isEmpty then "0" else ", ".intercalate parts) ++ ")"

def CalendarFault.message : CalendarFault → String
  | .year number => "year " ++ toString number ++ " is out of range"
  | .month => "month must be in 1..12"
  | .day => "day is out of range for month"
  | .hour => "hour must be in 0..23"
  | .minute => "minute must be in 0..59"
  | .second => "second must be in 0..59"
  | .offset minutes =>
    "offset must be a timedelta strictly between -timedelta(hours=24) and timedelta(hours=24), " ++
      "not " ++ durationText minutes ++ "."

namespace Date

def isLeap (year : Nat) : Bool :=
  year % 4 = 0 && (year % 100 != 0 || year % 400 = 0)

def daysInMonth (year month : Nat) : Nat :=
  if month = 2 then if isLeap year then 29 else 28
  else if [4, 6, 9, 11].contains month then 30
  else 31

/-- The first thing that is wrong with a date. -/
def fault? (d : Date) : Option CalendarFault :=
  if d.year = 0 || 9999 < d.year then some (.year d.year)
  else if d.month = 0 || 12 < d.month then some .month
  else if d.day = 0 || daysInMonth d.year d.month < d.day then some .day
  else none

/-- The number of days from the first day of the calendar. -/
def dayNumber (d : Date) : Nat :=
  let years := d.year - 1
  let months := (List.range (d.month - 1)).foldl (fun days i => days + daysInMonth d.year (i + 1)) 0
  365 * years + years / 4 - years / 100 + years / 400 + months + d.day - 1

def text (d : Date) : String :=
  padded 4 d.year ++ "-" ++ padded 2 d.month ++ "-" ++ padded 2 d.day

/-- The numbers of a date, between commas. -/
def fields (d : Date) : List Nat :=
  [d.year, d.month, d.day]

/-- The text of a date inside a list or a mapping. -/
def inner (d : Date) : String :=
  "datetime.date(" ++ ", ".intercalate (d.fields.map toString) ++ ")"

end Date

namespace Moment

/-- The first thing that is wrong with a moment. -/
def fault? (m : Moment) : Option CalendarFault :=
  match m.offset.filter fun minutes => 1440 ≤ minutes.natAbs with
  | some minutes => some (.offset minutes)
  | none =>
    m.date.fault?.or <|
      if 23 < m.hour then some .hour
      else if 59 < m.minute then some .minute
      else if 59 < m.second then some .second
      else none

/-- The microseconds from the first day of the calendar, in universal time if the zone is known. -/
def instant (m : Moment) : Int :=
  let minutes : Int := (m.date.dayNumber * 24 + m.hour) * 60 + m.minute - m.offset.getD 0
  (minutes * 60 + m.second) * 1000000 + m.microsecond

/-- Whether two moments are the same. A moment with a zone differs from every one without. -/
def same (a b : Moment) : Bool :=
  a.offset.isSome == b.offset.isSome && a.instant == b.instant

def offsetText (minutes : Int) : String :=
  let size := minutes.natAbs
  (if minutes < 0 then "-" else "+") ++ padded 2 (size / 60) ++ ":" ++ padded 2 (size % 60)

def text (m : Moment) : String :=
  m.date.text ++ " " ++ padded 2 m.hour ++ ":" ++ padded 2 m.minute ++ ":" ++ padded 2 m.second ++
    (if m.microsecond = 0 then "" else "." ++ padded 6 m.microsecond) ++
    (m.offset.map offsetText).getD ""

/-- The name of a zone inside a list or a mapping. -/
def zoneText (minutes : Int) : String :=
  if minutes = 0 then "datetime.timezone.utc"
  else "datetime.timezone(" ++ durationText minutes ++ ")"

/-- The text of a moment inside a list or a mapping. Seconds and microseconds are left out if they
are zero. -/
def inner (m : Moment) : String :=
  let fraction := if m.microsecond = 0 then [] else [m.microsecond]
  let seconds := if m.second = 0 && fraction.isEmpty then [] else m.second :: fraction
  let zone := (m.offset.map fun minutes => ["tzinfo=" ++ zoneText minutes]).getD []
  "datetime.datetime(" ++
    ", ".intercalate ((m.date.fields ++ m.hour :: m.minute :: seconds).map toString ++ zone) ++ ")"

end Moment

end IdlLint.Config

import ClusterPlan.Duration

/-!
# Dates and times

Calendar dates, times of day and both together, with an optional offset from universal time, as
configuration files hold them. The constructors `Date.make`, `Time.make` and `Offset.make` refuse what
no calendar or clock shows; two moments with offsets are the same when they name the same instant.
-/

namespace ClusterPlan

/-- A day of the calendar. -/
structure Date where
  year : Nat
  month : Nat
  day : Nat
deriving DecidableEq, Repr

/-- A time of day. -/
structure Time where
  hour : Nat
  minute : Nat
  second : Nat
  micros : Nat
deriving DecidableEq, Repr

/-- A distance from universal time in minutes. -/
structure Offset where
  minutes : Int
deriving DecidableEq, Repr

/-- A date, a time of day, or both. -/
inductive Moment where
  | date (d : Date)
  | time (t : Time)
  | dateTime (d : Date) (t : Time) (offset : Option Offset)
deriving DecidableEq, Repr

namespace Date

def isLeap (year : Nat) : Bool :=
  year % 4 = 0 && (year % 100 != 0 || year % 400 = 0)

/-- The days in each month of a year. -/
def monthLengths (year : Nat) : List Nat :=
  [31, if isLeap year then 29 else 28, 31, 30, 31, 30, 31, 31, 30, 31, 30, 31]

/-- A date of the years 1 to 9999. -/
def make (year month day : Nat) : Except Failure Date :=
  if year < 1 || 9999 < year then .error (.badDate s!"year {year} is out of range")
  else if month < 1 || 12 < month then .error (.badDate "month must be in 1..12")
  else if day < 1 || ((monthLengths year)[month - 1]?).getD 0 < day then
    .error (.badDate "day is out of range for month")
  else .ok ⟨year, month, day⟩

/-- The number of a day, counted from the first day of the year 1. -/
def dayNumber (d : Date) : Nat :=
  let before := d.year - 1
  before * 365 + before / 4 - before / 100 + before / 400
    + ((monthLengths d.year).take (d.month - 1)).foldr (· + ·) 0 + (d.day - 1)

def text (d : Date) : String :=
  Text.padded 4 d.year ++ "-" ++ Text.padded 2 d.month ++ "-" ++ Text.padded 2 d.day

end Date

namespace Time

def make (hour minute second micros : Nat) : Except Failure Time :=
  if 23 < hour then .error (.badDate "hour must be in 0..23")
  else if 59 < minute then .error (.badDate "minute must be in 0..59")
  else if 59 < second then .error (.badDate "second must be in 0..59")
  else .ok ⟨hour, minute, second, micros⟩

/-- The microseconds since midnight. -/
def sinceMidnight (t : Time) : Nat :=
  ((t.hour * 60 + t.minute) * 60 + t.second) * 1000000 + t.micros

def text (t : Time) : String :=
  Text.padded 2 t.hour ++ ":" ++ Text.padded 2 t.minute ++ ":" ++ Text.padded 2 t.second
    ++ (if t.micros = 0 then "" else "." ++ Text.padded 6 t.micros)

/-- The parts of a time as numbers; seconds and microseconds that are zero are left out at the end. -/
def parts (t : Time) : List Nat :=
  [t.hour, t.minute]
    ++ (if t.second = 0 && t.micros = 0 then [] else [t.second])
    ++ (if t.micros = 0 then [] else [t.micros])

end Time

namespace Offset

/-- An offset of less than a day. -/
def make (minutes : Int) : Except Failure Offset :=
  if minutes.natAbs < 1440 then
    .ok ⟨minutes⟩
  else
    .error (.badDate ("offset must be a timedelta strictly between -timedelta(hours=24) and "
      ++ "timedelta(hours=24), not " ++ (⟨minutes * 60000000⟩ : Duration).quotedText ++ "."))

def text (o : Offset) : String :=
  (if o.minutes < 0 then "-" else "+") ++ Text.padded 2 (o.minutes.natAbs / 60) ++ ":"
    ++ Text.padded 2 (o.minutes.natAbs % 60)

def quotedText (o : Offset) : String :=
  if o.minutes = 0 then "datetime.timezone.utc"
  else "datetime.timezone(" ++ (⟨o.minutes * 60000000⟩ : Duration).quotedText ++ ")"

end Offset

namespace Moment

/-- The text of a moment: the parts of the date from the year on, then those of the time. -/
def text : Moment → String
  | date d => d.text
  | time t => t.text
  | dateTime d t offset => d.text ++ " " ++ t.text ++ (offset.map Offset.text).getD ""

/-- The text of a moment inside a list or a mapping. -/
def quotedText : Moment → String
  | date d => "datetime.date(" ++ numbers [d.year, d.month, d.day] ++ ")"
  | time t => "datetime.time(" ++ numbers t.parts ++ ")"
  | dateTime d t offset =>
    "datetime.datetime(" ++ numbers ([d.year, d.month, d.day] ++ t.parts)
      ++ ((offset.map fun o => ", tzinfo=" ++ o.quotedText).getD "") ++ ")"
where
  numbers (ns : List Nat) : String := ", ".intercalate (ns.map toString)

/-- The microseconds from the start of the calendar to a moment with an offset, in universal time. -/
def instant (d : Date) (t : Time) (o : Offset) : Int :=
  (d.dayNumber : Int) * 86400000000 + t.sinceMidnight - o.minutes * 60000000

/-- Whether two moments are the same. -/
def same : Moment → Moment → Bool
  | dateTime d t (some o), dateTime d' t' (some o') => instant d t o == instant d' t' o'
  | m, m' => m == m'

end Moment

end ClusterPlan

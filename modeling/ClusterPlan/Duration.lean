import ClusterPlan.Failure
import ClusterPlan.Text.Numeral

/-!
# Durations

A duration is a whole number of microseconds of at most `maxDays` whole days. It is read from a
quantity whose unit defaults to milliseconds, and formatted in the largest unit of which it is a
whole multiple.
-/

namespace ClusterPlan

/-- The units of durations. -/
inductive TimeUnit where
  | day
  | hour
  | minute
  | second
  | millisecond
  | microsecond
deriving DecidableEq, Repr

namespace TimeUnit

/-- The microseconds in a unit. -/
def micros : TimeUnit → Nat
  | day => 86400000000
  | hour => 3600000000
  | minute => 60000000
  | second => 1000000
  | millisecond => 1000
  | microsecond => 1

/-- The name a unit is formatted with. -/
def symbol : TimeUnit → String
  | day => "d"
  | hour => "h"
  | minute => "min"
  | second => "s"
  | millisecond => "ms"
  | microsecond => "us"

/-- The unit with a given name in lower case; no name means milliseconds. -/
def ofName? (name : String) : Option TimeUnit :=
  if name ∈ ["d", "day", "days"] then some day
  else if name ∈ ["h", "hour", "hours"] then some hour
  else if name ∈ ["min", "m", "minute", "minutes"] then some minute
  else if name ∈ ["s", "sec", "secs", "second", "seconds"] then some second
  else if name ∈ ["", "ms", "milli", "millis", "millisecond", "milliseconds"] then some millisecond
  else if name ∈ ["us", "micro", "micros", "microsecond", "microseconds"] then some microsecond
  else none

/-- The units above the microsecond, from the largest to the smallest. -/
def descending : List TimeUnit := [day, hour, minute, second, millisecond]

end TimeUnit

/-- A span of time in microseconds. -/
structure Duration where
  micros : Int
deriving DecidableEq, Repr, Inhabited

namespace Duration

/-- The most whole days of a duration. -/
def maxDays : Int := 999999999

/-- The whole days of a duration, rounded down. -/
def days (d : Duration) : Int := d.micros.fdiv TimeUnit.day.micros

/-- A duration of the given number of microseconds, if it is not too long. -/
def ofMicros (micros : Int) : Except Failure Duration :=
  let days := (⟨micros⟩ : Duration).days
  if -maxDays ≤ days && days ≤ maxDays then .ok ⟨micros⟩
  else if -0x80000000 ≤ days && days < 0x80000000 then .error (.durationDays days)
  else .error .durationRange

/-- Reads a duration. -/
def parse (s : String) : Except Failure Duration :=
  match Text.Quantity.read? s.toList with
  | none => .error (.durationText s)
  | some q =>
    match TimeUnit.ofName? q.unitName with
    | none => .error (.durationUnit q.unitText s)
    | some unit => do
      let n ← readDigits q.digits
      ofMicros (n * unit.micros)

/-- The unit a number of microseconds is formatted in: the largest of which it is a whole multiple,
and the microsecond for zero. -/
def unitFor (micros : Int) : TimeUnit :=
  if micros = 0 then .microsecond
  else (TimeUnit.descending.find? fun u => micros % u.micros = 0).getD .microsecond

/-- The text of a duration: a whole number, a space and a unit. -/
def format (d : Duration) : String :=
  let unit := unitFor d.micros
  toString (d.micros / unit.micros) ++ " " ++ unit.symbol

/-- The clock text of a duration: days if there are any, hours, minutes and seconds, and microseconds
if there are any. -/
def clockText (d : Duration) : String :=
  let days := d.days
  let rest := (d.micros - days * TimeUnit.day.micros).toNat
  let seconds := rest / 1000000
  let micros := rest % 1000000
  let dayPart :=
    if days = 0 then ""
    else toString days ++ (if days.natAbs = 1 then " day, " else " days, ")
  dayPart ++ toString (seconds / 3600) ++ ":" ++ Text.padded 2 (seconds / 60 % 60) ++ ":"
    ++ Text.padded 2 (seconds % 60) ++ (if micros = 0 then "" else "." ++ Text.padded 6 micros)

/-- The text of a duration inside a list or a mapping: its days, seconds and microseconds by name. -/
def quotedText (d : Duration) : String :=
  let days := d.days
  let rest := (d.micros - days * TimeUnit.day.micros).toNat
  let parts :=
    (if days = 0 then [] else ["days=" ++ toString days])
      ++ (if rest / 1000000 = 0 then [] else ["seconds=" ++ toString (rest / 1000000)])
      ++ (if rest % 1000000 = 0 then [] else ["microseconds=" ++ toString (rest % 1000000)])
  "datetime.timedelta(" ++ (if parts.isEmpty then "0" else ", ".intercalate parts) ++ ")"

end Duration

end ClusterPlan

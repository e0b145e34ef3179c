/-! # Dates and times

A moment is a day, or a day with a time, and the time may say how far its zone is from the prime meridian. Moments are
compared by what they say; only two times with zones are compared by the instant that they mean.
-/
namespace SchemaChange

structure Clock where
  hour : Nat
  minute : Nat
  second : Nat
  microsecond : Nat
  /-- Minutes east of the prime meridian. -/
  zone : Option Int
  deriving DecidableEq, Repr

structure Moment where
  year : Nat
  month : Nat
  day : Nat
  clock : Option Clock
  deriving DecidableEq, Repr

namespace Calendar

def isLeap (year : Nat) : Bool := year % 4 = 0 && (year % 100 ≠ 0 || year % 400 = 0)

def daysIn (year month : Nat) : Nat :=
  if month = 2 then if isLeap year then 29 else 28
  else if month = 4 ∨ month = 6 ∨ month = 9 ∨ month = 11 then 30
  else 31

def daysBefore (year month day : Nat) : Nat :=
  let years := year - 1
  365 * years + years / 4 - years / 100 + years / 400
    + ((List.range (month - 1)).map fun m => daysIn year (m + 1)).foldl (· + ·) 0 + (day - 1)

/-- A span of minutes in whole days and the seconds after them; a part of zero is left out. -/
def spanText (minutes : Int) : String :=
  let seconds := 60 * minutes
  let parts := [("days", Int.fdiv seconds 86400), ("seconds", Int.fmod seconds 86400)].filter (·.2 ≠ 0)
  "datetime.timedelta(" ++ ", ".intercalate (parts.map fun part => part.1 ++ "=" ++ toString part.2) ++ ")"

def zoneText (minutes : Int) : String :=
  if minutes = 0 then "datetime.timezone.utc" else "datetime.timezone(" ++ spanText minutes ++ ")"

end Calendar

inductive MomentError where
  | offset (minutes : Int)
  | year | month | day | hour | minute | second
  deriving DecidableEq, Repr

def MomentError.message : MomentError → String
  | offset minutes =>
    "offset must be a timedelta strictly between -timedelta(hours=24) and timedelta(hours=24), not "
      ++ Calendar.spanText minutes ++ "."
  | year => "year 0 is out of range"
  | month => "month must be in 1..12"
  | day => "day is out of range for month"
  | hour => "hour must be in 0..23"
  | minute => "minute must be in 0..59"
  | second => "second must be in 0..59"

namespace Moment

def checkZone : Option Clock → Except MomentError Unit
  | some ⟨_, _, _, _, some minutes⟩ => if 24 * 60 ≤ minutes.natAbs then .error (.offset minutes) else .ok ()
  | _ => .ok ()

def checkClock : Option Clock → Except MomentError Unit
  | none => .ok ()
  | some t =>
    if 23 < t.hour then .error .hour
    else if 59 < t.minute then .error .minute
    else if 59 < t.second then .error .second
    else .ok ()

/-- A moment whose parts are within their ranges, the zone's offset first. -/
def checked (m : Moment) : Except MomentError Moment := do
  checkZone m.clock
  if m.year = 0 then .error .year
  else if m.month = 0 ∨ 12 < m.month then .error .month
  else if m.day = 0 ∨ Calendar.daysIn m.year m.month < m.day then .error .day
  else do
    checkClock m.clock
    .ok m

/-- The microseconds from the first day to a time with a zone. -/
def instant? (m : Moment) : Option Int :=
  match m.clock with
  | some ⟨hour, minute, second, microsecond, some zone⟩ =>
    let minutes : Int := 60 * (24 * Calendar.daysBefore m.year m.month m.day + hour) + minute
    some (1000000 * (60 * (minutes - zone) + second) + microsecond)
  | _ => none

def same (a b : Moment) : Bool :=
  match a.instant?, b.instant? with
  | some s, some t => s = t
  | none, none => a = b
  | _, _ => false

/-- The text of a moment: seconds and their fractions are left out when they and all after them are zero. -/
def text (m : Moment) : String :=
  let numbers (ns : List Nat) : String := ", ".intercalate (ns.map toString)
  match m.clock with
  | none => "datetime.date(" ++ numbers [m.year, m.month, m.day] ++ ")"
  | some t =>
    let fine := if t.microsecond ≠ 0 then [t.second, t.microsecond] else if t.second ≠ 0 then [t.second] else []
    "datetime.datetime(" ++ numbers ([m.year, m.month, m.day, t.hour, t.minute] ++ fine)
      ++ (match t.zone with
        | some zone => ", tzinfo=" ++ Calendar.zoneText zone
        | none => "") ++ ")"

end Moment

end SchemaChange

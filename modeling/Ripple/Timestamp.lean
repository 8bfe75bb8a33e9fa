-- SUMMARY: Dates and times of settings, how they are shown and compared.
import Ripple.Calendar

/-! # Dates and times -/

namespace Ripple

/-- A time of day. -/
structure DayTime where
  hour : Nat
  minute : Nat
  second : Nat
  millionth : Nat
  /-- The minutes by which clocks are ahead where the time is told, if that is known. -/
  zone : Option Int
deriving DecidableEq, Repr

/-- A day, or a time on a day. -/
structure Timestamp where
  year : Nat
  month : Nat
  day : Nat
  time : Option DayTime := none
deriving DecidableEq, Repr

namespace DayTime

/-- Whether there is such a time. Clocks are less than a day ahead or behind. -/
def isValid (t : DayTime) : Bool :=
  t.hour ≤ 23 && t.minute ≤ 59 && t.second ≤ 59 && t.millionth ≤ 999999 &&
    t.zone.all fun ahead => ahead.natAbs < 1440

def zoneText (ahead : Int) : String :=
  (if ahead < 0 then "-" else "+") ++ Calendar.padded 2 (ahead.natAbs / 60) ++ ":" ++
    Calendar.padded 2 (ahead.natAbs % 60)

/-- A time as it is shown: the fraction and the zone only where there are any. -/
def shown (t : DayTime) : String :=
  Calendar.padded 2 t.hour ++ ":" ++ Calendar.padded 2 t.minute ++ ":" ++
    Calendar.padded 2 t.second ++
    (if t.millionth == 0 then "" else "." ++ Calendar.padded 6 t.millionth) ++
    (match t.zone with
      | some ahead => zoneText ahead
      | none => "")

/-- The parts of a time that a constructor names: seconds and millionths only if they are needed. -/
def numbers (t : DayTime) : List Nat :=
  if t.millionth != 0 then [t.hour, t.minute, t.second, t.millionth]
  else if t.second != 0 then [t.hour, t.minute, t.second]
  else [t.hour, t.minute]

/-- The constructor of a zone. -/
def zoneConstructor (ahead : Int) : String :=
  if ahead == 0 then "datetime.timezone.utc"
  else
    let seconds := ahead * 60
    let parts := if seconds < 0 then "days=-1, seconds=" ++ toString (seconds + 86400)
      else "seconds=" ++ toString seconds
    "datetime.timezone(datetime.timedelta(" ++ parts ++ "))"

/-- The millionths of a second since the beginning of the day, by the clock of the zone. -/
def millionths (t : DayTime) : Nat :=
  ((t.hour * 60 + t.minute) * 60 + t.second) * 1000000 + t.millionth

end DayTime

namespace Timestamp

/-- Whether there is such a day and time. -/
def isValid (t : Timestamp) : Bool :=
  Calendar.isDay t.year t.month t.day && t.time.all DayTime.isValid

/-- A timestamp as it is shown alone. -/
def shown (t : Timestamp) : String :=
  Calendar.padded 4 t.year ++ "-" ++ Calendar.padded 2 t.month ++ "-" ++ Calendar.padded 2 t.day ++
    (match t.time with
      | some time => " " ++ time.shown
      | none => "")

/-- A timestamp as it is shown inside other values: by its constructor. -/
def constructor (t : Timestamp) : String :=
  let numbers (parts : List Nat) : String := ", ".intercalate (parts.map toString)
  match t.time with
  | none => "datetime.date(" ++ numbers [t.year, t.month, t.day] ++ ")"
  | some time =>
    "datetime.datetime(" ++ numbers ([t.year, t.month, t.day] ++ time.numbers) ++
      (match time.zone with
        | some ahead => ", tzinfo=" ++ DayTime.zoneConstructor ahead
        | none => "") ++ ")"

/-- The millionths of a second from the first of all days to a time. -/
def instant (t : Timestamp) (time : DayTime) (ahead : Int) : Int :=
  (Calendar.dayNumber t.year t.month t.day * 86400000000 + time.millionths : Nat) -
    ahead * 60000000

/-- Equality: two times in known zones are the same if they are at the same instant. -/
def same (a b : Timestamp) : Bool :=
  match a.time, b.time with
  | some s, some t =>
    match s.zone, t.zone with
    | some p, some q => a.instant s p == b.instant t q
    | _, _ => a == b
  | _, _ => a == b

end Timestamp

end Ripple

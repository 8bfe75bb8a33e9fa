-- SUMMARY: Moments, and the names of report files that are made from them.
import Ripple.Calendar
import Ripple.Fault

/-! # Time stamps -/

namespace Ripple

/-- A moment of the calendar, to the second. -/
structure Moment where
  year : Nat
  month : Nat
  day : Nat
  hour : Nat
  minute : Nat
  second : Nat
deriving DecidableEq, Repr

namespace Moment

/-- A number inside bounds. -/
def bounded (low high : Nat) (n : Int) : Except Fault Nat :=
  if low ≤ n && n ≤ high then .ok n.toNat else .error .invalidValue

/-- The moment of year, month, day, hour, minute, second and microsecond, of which the last four can
be left out. -/
def ofNumbers : List Int → Except Fault Moment
  | year :: month :: day :: time => do
    if 4 < time.length then .error .wrongType
    else
      let year ← bounded 1 9999 year
      let month ← bounded 1 12 month
      let day ← bounded 1 (Calendar.daysInMonth year month) day
      let hour ← bounded 0 23 (time.getD 0 0)
      let minute ← bounded 0 59 (time.getD 1 0)
      let second ← bounded 0 59 (time.getD 2 0)
      let _ ← bounded 0 999999 (time.getD 3 0)
      return { year, month, day, hour, minute, second }
  | _ => .error .wrongType

def twoDigits (n : Nat) : String :=
  if n < 10 then "0" ++ toString n else toString n

/-- The time stamp of a moment. -/
def stamp (m : Moment) : String :=
  toString m.year ++ twoDigits m.month ++ twoDigits m.day ++ "_" ++ twoDigits m.hour ++
    twoDigits m.minute ++ twoDigits m.second

end Moment

/-- The name of the report file of a table. -/
def reportFileName (table extension stamp : String) : String :=
  "impact_analysis_" ++ table ++ "_" ++ stamp ++ "." ++ extension

end Ripple

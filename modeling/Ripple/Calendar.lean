-- SUMMARY: Days, months and leap years of the calendar, and numbers with leading zeros.
/-! # The calendar -/

namespace Ripple.Calendar

def isLeapYear (year : Nat) : Bool :=
  year % 4 == 0 && (year % 100 != 0 || year % 400 == 0)

def daysInMonth (year month : Nat) : Nat :=
  if month == 2 then if isLeapYear year then 29 else 28
  else if [4, 6, 9, 11].contains month then 30
  else 31

/-- Whether there is such a day. -/
def isDay (year month day : Nat) : Bool :=
  1 ≤ year && year ≤ 9999 && 1 ≤ month && month ≤ 12 && 1 ≤ day && day ≤ daysInMonth year month

/-- The number of a day, counted from the first of all days. -/
def dayNumber (year month day : Nat) : Nat :=
  let years := year - 1
  let months := ((List.range (month - 1)).map fun m => daysInMonth year (m + 1)).foldl (· + ·) 0
  years * 365 + years / 4 - years / 100 + years / 400 + months + day

/-- A number with zeros in front, up to a width. -/
def padded (width n : Nat) : String :=
  let digits := Nat.toDigits 10 n
  String.ofList (List.replicate (width - digits.length) '0' ++ digits)

end Ripple.Calendar

/-! Dates of the proleptic Gregorian calendar and their day numbers, day one
being the first of January of year one, a Monday. -/
namespace ClientAuth

/-- A calendar date. -/
structure Date where
  year : Nat
  month : Nat
  day : Nat
deriving DecidableEq, Repr

namespace Date

/-- Every fourth year is a leap year, of the centuries every fourth. -/
def isLeap (year : Nat) : Bool :=
  year % 4 = 0 && (year % 100 ≠ 0 || year % 400 = 0)

/-- The lengths of the months, January first. -/
def monthLengths (leap : Bool) : List Nat :=
  [31, if leap then 29 else 28, 31, 30, 31, 30, 31, 31, 30, 31, 30, 31]

/-- Whether a date is on the calendar, which runs from year 1 to 9999. -/
def isValid (date : Date) : Bool :=
  1 ≤ date.year && date.year ≤ 9999 && 1 ≤ date.month && date.month ≤ 12 && 1 ≤ date.day &&
    date.day ≤ (monthLengths (isLeap date.year)).getD (date.month - 1) 0

/-- The days of all years before one. -/
def daysBeforeYear (year : Nat) : Nat :=
  let past := year - 1
  365 * past + past / 4 - past / 100 + past / 400

/-- The day number of a date. -/
def ordinal (date : Date) : Nat :=
  daysBeforeYear date.year +
    ((monthLengths (isLeap date.year)).take (date.month - 1)).foldl (· + ·) 0 + date.day

/-- The month and the day in it of a day counted from zero within a year. The
months not yet passed are listed, the first of them having number `month`. -/
def locate (month day : Nat) : List Nat → Nat × Nat
  | [] => (month, day + 1)
  | length :: rest => if day < length then (month, day + 1) else locate (month + 1) (day - length) rest

/-- The year of a day counted from zero, and the day in that year. Whole
periods of 400, 100, 4 and 1 years are taken off; the last day of a period that
ends in a leap year would count as one period too many. -/
def splitYear (day : Nat) : Nat × Nat :=
  let cycles := day / 146097
  let day := day % 146097
  let centuries := min (day / 36524) 3
  let day := day - centuries * 36524
  let quads := day / 1461
  let day := day % 1461
  let years := min (day / 365) 3
  (400 * cycles + 100 * centuries + 4 * quads + years + 1, day - years * 365)

/-- The date of a day number. -/
def ofOrdinal (ordinal : Nat) : Date :=
  let (year, day) := splitYear (ordinal - 1)
  let (month, day) := locate 1 day (monthLengths (isLeap year))
  ⟨year, month, day⟩

/-- The day of the week, Monday being zero. -/
def weekday (date : Date) : Nat := (date.ordinal + 6) % 7

end Date
end ClientAuth

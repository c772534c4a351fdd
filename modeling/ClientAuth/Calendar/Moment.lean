import ClientAuth.Calendar.Date
import ClientAuth.Number.Binary64

/-! Moments: a local date and time with its offset from UTC, and the second of
UTC that it falls in. -/
namespace ClientAuth

/-- A whole second, counted from the start of 1970 in UTC. -/
abbrev Instant := Int

/-- A date and a time of day in UTC. -/
structure CivilTime where
  date : Date
  hour : Nat
  minute : Nat
  second : Nat
deriving DecidableEq, Repr

/-- A local date and time. The offset is in microseconds east of UTC. -/
structure Moment where
  wall : CivilTime
  microsecond : Nat
  offset : Int
deriving DecidableEq, Repr

namespace CivilTime

/-- The day number of the first of January 1970. -/
def epochDay : Int := 719163

/-- The second that a civil time of UTC denotes. -/
def instant (time : CivilTime) : Instant :=
  ((time.date.ordinal : Int) - epochDay) * 86400 + time.hour * 3600 + time.minute * 60 +
    time.second

/-- The civil time of a second, for the years 1 to 9999. -/
def ofInstant? (instant : Instant) : Option CivilTime :=
  let day := instant / 86400 + epochDay
  let rest := (instant % 86400).toNat
  if 1 ≤ day ∧ day ≤ 3652059 then
    some ⟨Date.ofOrdinal day.toNat, rest / 3600, rest / 60 % 60, rest % 60⟩
  else none

/-- The microseconds in a second. -/
def microseconds : Nat := 1000000

/-- A number of seconds in whole microseconds, a half going to the even one. The
part below a second is rounded as a product of doubles first. -/
def wholeMicroseconds (seconds : Binary64) : Int :=
  let part := Binary64.ofRatio false (seconds.quanta % Binary64.unit) Binary64.unit
  let below := divEven (part.mul (Binary64.ofRatio false microseconds 1)).quanta Binary64.unit
  let total : Int := (seconds.quanta / Binary64.unit * microseconds + below : Nat)
  if seconds.isNegative then -total else total

/-- The civil time of a number of seconds since the start of 1970. -/
def ofSeconds? (seconds : Binary64) : Option CivilTime :=
  if seconds.isFinite then ofInstant? (wholeMicroseconds seconds / microseconds) else none

end CivilTime

/-- Why parts make no moment: one of them is not on the calendar or the clock, or
too large a number to be looked at. -/
inductive MomentFault
  | notOnClock
  | tooLarge
deriving DecidableEq, Repr

namespace Moment

/-- Whether a moment is on the calendar and the clock. An offset is less than a
day. -/
def isValid (moment : Moment) : Bool :=
  moment.wall.date.isValid && moment.wall.hour < 24 && moment.wall.minute < 60 &&
    moment.wall.second < 60 && moment.microsecond < CivilTime.microseconds &&
    moment.offset.natAbs < 86400 * CivilTime.microseconds

/-- The most days of a duration. -/
def dayLimit : Nat := 999999999

/-- Whether a part of a moment is a signed number of 32 bits. -/
def isPart (part : Int) : Bool := -0x80000000 ≤ part && part < 0x80000000

/-- The moment of its parts, the offset in seconds. The offset is looked at first. -/
def create (year month day hour minute second microsecond offset : Int) :
    Except MomentFault Moment :=
  let moment : Moment :=
    ⟨⟨⟨year.toNat, month.toNat, day.toNat⟩, hour.toNat, minute.toNat, second.toNat⟩,
      microsecond.toNat, offset * CivilTime.microseconds⟩
  if dayLimit < (offset / 86400).natAbs then .error .tooLarge
  else if 86400 ≤ offset.natAbs then .error .notOnClock
  else if [year, month, day, hour, minute, second, microsecond].any (!isPart ·) then .error .tooLarge
  else if 0 ≤ hour && 0 ≤ minute && 0 ≤ second && 0 ≤ microsecond && moment.isValid then .ok moment
  else .error .notOnClock

/-- The microseconds since the start of 1970 in UTC. -/
def elapsed (moment : Moment) : Int :=
  moment.wall.instant * CivilTime.microseconds + moment.microsecond - moment.offset

/-- The second of UTC that a moment falls in. -/
def instant (moment : Moment) : Instant := moment.elapsed / CivilTime.microseconds

/-- Moments that are made of parts are on the calendar. -/
theorem isValid_of_create {year month day hour minute second microsecond offset : Int}
    {moment : Moment}
    (h : create year month day hour minute second microsecond offset = .ok moment) :
    moment.isValid = true := by
  unfold create at h
  dsimp only at h
  repeat' split at h
  all_goals first | contradiction | skip
  next hValid =>
    injection h with hEq
    simp only [Bool.and_eq_true] at hValid
    exact hEq ▸ hValid.2

end Moment
end ClientAuth

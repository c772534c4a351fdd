import Mathlib.Algebra.GroupWithZero.Nat
import Mathlib.Algebra.Order.BigOperators.Group.List
import Mathlib.Algebra.Order.Group.Nat
import ClientAuth.Calendar.Moment

/-! Days of the calendar and their numbers. The number of a date counts the days from the first of
January of year one on, each date of the calendar has its own number, and all numbers up to the
last one are numbers of dates. Main statements: `Date.ordinal_next`, the day after a date has the
next number, and `CivilTime.ofInstant?_eq_some_iff`, a second of UTC has one civil time, and that is
on the calendar and denotes the second. -/
namespace ClientAuth

namespace Date

/-- The last of four years is a leap year, unless it ends a century that is not the last of four. -/
theorem isLeap_of_periods (cycles : Nat) {centuries quads years : Nat} (hCenturies : centuries ≤ 3)
    (hQuads : quads ≤ 24) (hYears : years ≤ 3) :
    isLeap (400 * cycles + 100 * centuries + 4 * quads + years + 1) = true ↔
      years = 3 ∧ (quads = 24 → centuries = 3) := by
  simp only [isLeap, Bool.and_eq_true, Bool.or_eq_true, decide_eq_true_eq]
  omega

theorem isLeap_iff {year : Nat} :
    isLeap year = true ↔ year % 4 = 0 ∧ (year % 100 ≠ 0 ∨ year % 400 = 0) := by
  simp only [isLeap, Bool.and_eq_true, Bool.or_eq_true, decide_eq_true_eq]

theorem daysBeforeYear_of_periods (cycles : Nat) {centuries quads years : Nat}
    (hCenturies : centuries ≤ 3) (hQuads : quads ≤ 24) (hYears : years ≤ 3) :
    daysBeforeYear (400 * cycles + 100 * centuries + 4 * quads + years + 1) =
      146097 * cycles + 36524 * centuries + 1461 * quads + 365 * years := by
  rw [daysBeforeYear, Nat.add_sub_cancel]
  generalize hPast : 400 * cycles + 100 * centuries + 4 * quads + years = past
  have hQuarter : past / 4 = 100 * cycles + 25 * centuries + quads := by omega
  have hHundredth : past / 100 = 4 * cycles + centuries := by omega
  have hLast : past / 400 = cycles := by omega
  rw [hQuarter, hHundredth, hLast]
  omega

/-- The days of a year. -/
def yearLength (year : Nat) : Nat := if isLeap year then 366 else 365

/-- The days of the calendar lie in its years. -/
theorem splitYear_spec (day : Nat) :
    (1 ≤ (splitYear day).1 ∧ (day < 3652059 → (splitYear day).1 ≤ 9999)) ∧
      (splitYear day).2 < yearLength (splitYear day).1 ∧
      daysBeforeYear (splitYear day).1 + (splitYear day).2 = day := by
  rw [splitYear]
  dsimp only
  generalize hCycles : day / 146097 = cycles
  generalize hInCycle : day % 146097 = inCycle
  generalize hCenturies : min (inCycle / 36524) 3 = centuries
  generalize hInCentury : inCycle - centuries * 36524 = inCentury
  generalize hQuads : inCentury / 1461 = quads
  generalize hInQuad : inCentury % 1461 = inQuad
  generalize hYears : min (inQuad / 365) 3 = years
  have hMostCenturies : centuries ≤ 3 := by omega
  have hMostQuads : quads ≤ 24 := by omega
  have hMostYears : years ≤ 3 := by omega
  have hLeap := isLeap_of_periods cycles hMostCenturies hMostQuads hMostYears
  refine ⟨⟨by omega, by omega⟩, ?_, ?_⟩
  · rw [yearLength]
    split
    next => omega
    next hCommon =>
      rw [hLeap] at hCommon
      omega
  · rw [daysBeforeYear_of_periods cycles hMostCenturies hMostQuads hMostYears]
    omega

/-- The month and the day in it of a day within a list of months. -/
theorem locate_spec (month day : Nat) (lengths : List Nat) (h : day < lengths.sum) :
    ∃ passed, (locate month day lengths).1 = month + passed ∧ passed < lengths.length ∧
      1 ≤ (locate month day lengths).2 ∧ (locate month day lengths).2 ≤ lengths.getD passed 0 ∧
      (lengths.take passed).sum + (locate month day lengths).2 = day + 1 := by
  induction lengths generalizing month day with
  | nil => simp at h
  | cons length lengths ih =>
      rw [List.sum_cons] at h
      rw [locate]
      split
      next hHere => exact ⟨0, rfl, Nat.zero_lt_succ _, Nat.le_add_left _ _, hHere, by simp⟩
      next hLater =>
        obtain ⟨passed, hMonth, hPassed, hFirst, hLast, hSum⟩ :=
          ih (month + 1) (day - length) (by omega)
        refine ⟨passed + 1, by omega, Nat.succ_lt_succ hPassed, hFirst, hLast, ?_⟩
        rw [List.take_succ_cons, List.sum_cons]
        omega

theorem isValid_iff {date : Date} :
    date.isValid = true ↔ (1 ≤ date.year ∧ date.year ≤ 9999) ∧ (1 ≤ date.month ∧ date.month ≤ 12) ∧
      1 ≤ date.day ∧ date.day ≤ (monthLengths (isLeap date.year)).getD (date.month - 1) 0 := by
  simp only [isValid, Bool.and_eq_true, decide_eq_true_eq, and_assoc]

theorem day_le_of_isValid {date : Date} (h : date.isValid = true) : date.day ≤ 31 := by
  obtain ⟨-, hMonth, -, hLength⟩ := isValid_iff.mp h
  have hAll : ∀ leap, ∀ month : Fin 13, (monthLengths leap).getD (month.val - 1) 0 ≤ 31 := by
    decide
  exact Nat.le_trans hLength (hAll _ ⟨date.month, Nat.lt_succ_of_le hMonth.2⟩)

/-- The days of a year before one of its months. -/
def daysBeforeMonth (leap : Bool) (month : Nat) : Nat := ((monthLengths leap).take (month - 1)).sum

theorem ordinal_eq (date : Date) :
    date.ordinal =
      daysBeforeYear date.year + daysBeforeMonth (isLeap date.year) date.month + date.day := by
  rw [ordinal, daysBeforeMonth, List.sum_eq_foldl]

theorem sum_monthLengths (year : Nat) : (monthLengths (isLeap year)).sum = yearLength year := by
  rw [yearLength]
  cases isLeap year <;> rfl

theorem length_monthLengths (leap : Bool) : (monthLengths leap).length = 12 := rfl

theorem div_pred (period : Nat) {year : Nat} (h : 1 ≤ year) :
    year / period = (year - 1) / period + if year % period = 0 then 1 else 0 := by
  obtain ⟨past, rfl⟩ := Nat.exists_eq_add_of_le' h
  rw [Nat.succ_div, Nat.add_sub_cancel]
  simp only [Nat.dvd_iff_mod_eq_zero]

/-- A year is over after its days, and so is a month. -/
theorem daysBeforeYear_succ {year : Nat} (h : 1 ≤ year) :
    daysBeforeYear (year + 1) = daysBeforeYear year + yearLength year := by
  have hCentury : year % 100 = 0 → year % 4 = 0 := by omega
  have hCycle : year % 400 = 0 → year % 100 = 0 := by omega
  have hPast : (year - 1) / 100 ≤ (year - 1) / 4 := Nat.div_le_div_left (by omega) (by omega)
  have hLeap := @isLeap_iff year
  rw [daysBeforeYear, daysBeforeYear, yearLength, Nat.add_sub_cancel, div_pred 4 h, div_pred 100 h,
    div_pred 400 h]
  generalize (year - 1) / 4 = quarter at hPast ⊢
  generalize (year - 1) / 100 = hundredth at hPast ⊢
  generalize (year - 1) / 400 = last
  cases hSort : isLeap year
  case true =>
    rw [hSort] at hLeap
    obtain ⟨hFour, hRest⟩ := hLeap.mp rfl
    rw [if_pos hFour, if_pos rfl]
    split <;> split <;> omega
  case false =>
    have hCommon : ¬(year % 4 = 0 ∧ (year % 100 ≠ 0 ∨ year % 400 = 0)) := by
      rw [← hLeap, hSort]
      exact Bool.false_ne_true
    rw [if_neg Bool.false_ne_true]
    split <;> split <;> split <;> omega

theorem daysBeforeMonth_succ (leap : Bool) {month : Nat} (h : 1 ≤ month ∧ month ≤ 12) :
    daysBeforeMonth leap (month + 1) =
      daysBeforeMonth leap month + (monthLengths leap).getD (month - 1) 0 := by
  have hAll : ∀ leap, ∀ index : Fin 12, daysBeforeMonth leap (index.val + 1 + 1) =
      daysBeforeMonth leap (index.val + 1) + (monthLengths leap).getD index.val 0 := by
    decide
  have hMonth := hAll leap ⟨month - 1, by omega⟩
  rwa [Nat.sub_add_cancel h.1] at hMonth

theorem daysBeforeYear_mono {year other : Nat} (hFirst : 1 ≤ year) (h : year ≤ other) :
    daysBeforeYear year ≤ daysBeforeYear other := by
  induction other, h using Nat.le_induction with
  | base => exact Nat.le_refl _
  | succ later hLater ih =>
      rw [daysBeforeYear_succ (Nat.le_trans hFirst hLater)]
      exact Nat.le_add_right_of_le ih

theorem daysBeforeMonth_mono (leap : Bool) {month other : Nat} (h : month ≤ other) :
    daysBeforeMonth leap month ≤ daysBeforeMonth leap other :=
  ((List.take_sublist_take_left (Nat.sub_le_sub_right h 1)).sum_le_sum fun _ _ => Nat.zero_le _)

/-- The days of the months end with those of the year. -/
theorem daysBeforeMonth_le (year month : Nat) :
    daysBeforeMonth (isLeap year) month ≤ yearLength year := by
  rw [← sum_monthLengths]
  exact (List.take_sublist _ _).sum_le_sum fun _ _ => Nat.zero_le _

section Order

variable {date other : Date}

/-- A date lies in its month. -/
theorem mem_month (h : date.isValid = true) :
    daysBeforeYear date.year + daysBeforeMonth (isLeap date.year) date.month < date.ordinal ∧
      date.ordinal ≤
        daysBeforeYear date.year + daysBeforeMonth (isLeap date.year) (date.month + 1) := by
  obtain ⟨-, hMonth, hFirst, hLast⟩ := isValid_iff.mp h
  rw [ordinal_eq, daysBeforeMonth_succ _ hMonth]
  omega

/-- A date lies in its year. -/
theorem mem_year (h : date.isValid = true) :
    daysBeforeYear date.year < date.ordinal ∧ date.ordinal ≤ daysBeforeYear (date.year + 1) := by
  obtain ⟨⟨hYear, -⟩, -⟩ := isValid_iff.mp h
  obtain ⟨hFirst, hLast⟩ := mem_month h
  have hMonths := daysBeforeMonth_le date.year (date.month + 1)
  rw [daysBeforeYear_succ hYear]
  omega

theorem year_le_of_ordinal_le (hDate : date.isValid = true) (hOther : other.isValid = true)
    (h : date.ordinal ≤ other.ordinal) : date.year ≤ other.year := by
  by_contra hLater
  obtain ⟨⟨hYear, -⟩, -⟩ := isValid_iff.mp hOther
  have hYears : daysBeforeYear (other.year + 1) ≤ daysBeforeYear date.year :=
    daysBeforeYear_mono (Nat.le_add_left 1 other.year) (Nat.lt_of_not_le hLater)
  have hFirst := (mem_year hDate).1
  have hLast := (mem_year hOther).2
  omega

theorem month_le_of_ordinal_le (hDate : date.isValid = true) (hOther : other.isValid = true)
    (hYear : date.year = other.year) (h : date.ordinal ≤ other.ordinal) :
    date.month ≤ other.month := by
  by_contra hLater
  have hMonths : daysBeforeMonth (isLeap other.year) (other.month + 1) ≤
      daysBeforeMonth (isLeap other.year) date.month :=
    daysBeforeMonth_mono _ (Nat.lt_of_not_le hLater)
  have hFirst := (mem_month hDate).1
  have hLast := (mem_month hOther).2
  rw [hYear] at hFirst
  omega

/-- Each date of the calendar has its own number. -/
theorem ordinal_inj (hDate : date.isValid = true) (hOther : other.isValid = true)
    (h : date.ordinal = other.ordinal) : date = other := by
  have hYear : date.year = other.year :=
    Nat.le_antisymm (year_le_of_ordinal_le hDate hOther h.le)
      (year_le_of_ordinal_le hOther hDate h.ge)
  have hMonth : date.month = other.month :=
    Nat.le_antisymm (month_le_of_ordinal_le hDate hOther hYear h.le)
      (month_le_of_ordinal_le hOther hDate hYear.symm h.ge)
  have hDay : date.day = other.day := by
    rw [ordinal_eq, ordinal_eq, hYear, hMonth] at h
    exact Nat.add_left_cancel h
  obtain ⟨year, month, day⟩ := date
  obtain ⟨otherYear, otherMonth, otherDay⟩ := other
  dsimp only at hYear hMonth hDay
  rw [hYear, hMonth, hDay]

end Order

/-- The date of a number is on the calendar, and it has that number. -/
theorem ofOrdinal_spec {day : Nat} (hFirst : 1 ≤ day) (hLast : day ≤ 3652059) :
    (ofOrdinal day).isValid = true ∧ (ofOrdinal day).ordinal = day := by
  obtain ⟨⟨hOne, hYear⟩, hDay, hYears⟩ := splitYear_spec (day - 1)
  rw [← sum_monthLengths] at hDay
  obtain ⟨passed, hMonth, hPassed, hStart, hEnd, hSum⟩ := locate_spec 1 _ _ hDay
  have hMonth : (ofOrdinal day).month = 1 + passed := hMonth
  rw [isValid_iff, ordinal_eq, hMonth, daysBeforeMonth, Nat.add_sub_cancel_left]
  have hDays : (ofOrdinal day).day =
      (locate 1 (splitYear (day - 1)).2 (monthLengths (isLeap (splitYear (day - 1)).1))).2 := rfl
  have hYearOf : (ofOrdinal day).year = (splitYear (day - 1)).1 := rfl
  rw [length_monthLengths] at hPassed
  rw [hDays, hYearOf]
  exact ⟨⟨⟨hOne, hYear (by omega)⟩, ⟨by omega, by omega⟩, hStart, hEnd⟩, by omega⟩

theorem ordinal_bounds {date : Date} (h : date.isValid = true) :
    1 ≤ date.ordinal ∧ date.ordinal ≤ 3652059 := by
  obtain ⟨⟨-, hYear⟩, -⟩ := isValid_iff.mp h
  obtain ⟨hFirst, hLast⟩ := mem_year h
  have hYears : daysBeforeYear (date.year + 1) ≤ daysBeforeYear 10000 :=
    daysBeforeYear_mono (Nat.le_add_left 1 _) (Nat.succ_le_succ hYear)
  exact ⟨Nat.one_le_of_lt hFirst, hLast.trans hYears⟩

theorem ofOrdinal_ordinal {date : Date} (h : date.isValid = true) :
    ofOrdinal date.ordinal = date := by
  obtain ⟨hFirst, hLast⟩ := ordinal_bounds h
  obtain ⟨hValid, hOrdinal⟩ := ofOrdinal_spec hFirst hLast
  exact ordinal_inj hValid h hOrdinal

/-- The day after. -/
def next (date : Date) : Date :=
  if date.day < (monthLengths (isLeap date.year)).getD (date.month - 1) 0 then
    ⟨date.year, date.month, date.day + 1⟩
  else if date.month < 12 then ⟨date.year, date.month + 1, 1⟩
  else ⟨date.year + 1, 1, 1⟩

/-- Numbers count days: the day after a date has the next number. -/
theorem ordinal_next {date : Date} (h : date.isValid = true) :
    date.next.ordinal = date.ordinal + 1 := by
  obtain ⟨⟨hYear, -⟩, hMonth, hFirst, hLast⟩ := isValid_iff.mp h
  rw [next]
  split
  next =>
    rw [ordinal_eq, ordinal_eq]
    exact (Nat.add_assoc _ _ _).symm
  next hEnd =>
    have hDay : date.day = (monthLengths (isLeap date.year)).getD (date.month - 1) 0 := by omega
    have hMonths := daysBeforeMonth_succ (isLeap date.year) hMonth
    split
    next =>
      rw [ordinal_eq, ordinal_eq, hMonths]
      dsimp only
      omega
    next hDecember =>
      obtain hMonth : date.month = 12 := by omega
      have hYears : daysBeforeMonth (isLeap date.year) (12 + 1) = yearLength date.year :=
        sum_monthLengths date.year
      rw [hMonth, hYears, ← hMonth] at hMonths
      rw [ordinal_eq, ordinal_eq, daysBeforeYear_succ hYear, hMonths]
      change _ + _ + 0 + 1 = _
      omega

end Date

namespace CivilTime

/-- A civil time is on the calendar and on the clock. -/
structure OnCalendar (time : CivilTime) : Prop where
  date : time.date.isValid = true
  hour : time.hour < 24
  minute : time.minute < 60
  second : time.second < 60

/-- The second of a civil time, by its day and the second of that day. -/
theorem instant_eq (time : CivilTime) :
    @Eq Int time.instant (((time.date.ordinal : Int) - epochDay) * 86400 +
      (time.hour * 3600 + time.minute * 60 + time.second : Nat)) := by
  rw [instant]
  omega

theorem ofInstant?_eq (instant : Int) :
    ofInstant? instant =
      if (1 : Int) ≤ instant / 86400 + epochDay ∧ instant / 86400 + epochDay ≤ 3652059 then
        some ⟨Date.ofOrdinal (instant / 86400 + epochDay).toNat,
          (instant % 86400).toNat / 3600, (instant % 86400).toNat / 60 % 60,
          (instant % 86400).toNat % 60⟩
      else none := rfl

/-- A civil time that is found for a second denotes it. -/
theorem of_ofInstant? {instant : Int} {time : CivilTime} (h : ofInstant? instant = some time) :
    time.OnCalendar ∧ time.instant = instant := by
  rw [ofInstant?_eq] at h
  split at h
  next hDay =>
    obtain ⟨day, hNumber⟩ := Int.eq_ofNat_of_zero_le (by omega : 0 ≤ instant / 86400 + epochDay)
    obtain ⟨rest, hRest⟩ := Int.eq_ofNat_of_zero_le (by omega : 0 ≤ instant % 86400)
    rw [hNumber, hRest, Int.toNat_natCast, Int.toNat_natCast] at h
    obtain ⟨hValid, hOrdinal⟩ := Date.ofOrdinal_spec (by omega : 1 ≤ day) (by omega)
    have hBelow : rest < 86400 := by omega
    obtain rfl := Option.some.inj h
    refine ⟨⟨hValid, ?_, ?_, ?_⟩, ?_⟩
    · exact (Nat.div_lt_iff_lt_mul (by omega)).mpr hBelow
    · exact Nat.mod_lt _ (by omega)
    · exact Nat.mod_lt _ (by omega)
    · have hClock : rest / 3600 * 3600 + rest / 60 % 60 * 60 + rest % 60 = rest := by omega
      refine (instant_eq _).trans ?_
      dsimp only
      rw [hOrdinal, hClock, ← hNumber, ← hRest]
      omega
  next => nomatch h

/-- On the calendar, a civil time is found for the second that it denotes. -/
theorem ofInstant?_instant {time : CivilTime} (h : time.OnCalendar) :
    ofInstant? time.instant = some time := by
  obtain ⟨hFirst, hLast⟩ := Date.ordinal_bounds h.date
  have hHour := h.hour
  have hMinute := h.minute
  have hSecond := h.second
  obtain ⟨rest, hRest⟩ : ∃ rest, time.hour * 3600 + time.minute * 60 + time.second = rest :=
    ⟨_, rfl⟩
  have hInstant := instant_eq time
  rw [hRest] at hInstant
  have hDay : @Eq Int (time.instant / 86400 + epochDay) time.date.ordinal := by omega
  have hSecondOfDay : (time.instant % 86400).toNat = rest := by omega
  have hClock : rest / 3600 = time.hour ∧ rest / 60 % 60 = time.minute ∧
      rest % 60 = time.second := by
    omega
  rw [ofInstant?_eq, hDay, hSecondOfDay, if_pos (by omega), Int.toNat_natCast,
    Date.ofOrdinal_ordinal h.date, hClock.1, hClock.2.1, hClock.2.2]

/-- The first day of 1970 was a Thursday. -/
theorem weekday_eq {time : CivilTime} (h : time.OnCalendar) :
    (time.date.weekday : Int) = (time.instant / 86400 + 3) % 7 := by
  have hHour := h.hour
  have hMinute := h.minute
  have hSecond := h.second
  have hInstant := instant_eq time
  rw [epochDay] at hInstant
  rw [Date.weekday]
  omega

/-- A second of UTC has one civil time, in the years 1 to 9999. -/
theorem ofInstant?_eq_some_iff {instant : Instant} {time : CivilTime} :
    ofInstant? instant = some time ↔ time.OnCalendar ∧ time.instant = instant := by
  constructor
  · exact of_ofInstant?
  · rintro ⟨hTime, rfl⟩
    exact ofInstant?_instant hTime

end CivilTime
end ClientAuth

import ClientAuth.Proofs.CalendarDays
import ClientAuth.Proofs.DateHeader
import ClientAuth.Proofs.TextPieces
import ClientAuth.Srp.Session

/-! The challenge timestamp read back. Main statements: a moment has a timestamp exactly if its
second of UTC lies in the years 1 to 9999; the timestamp has the fixed form with the parts of that
second, and tells it from all other seconds (`Moment.timestamp_identifies`). -/
namespace ClientAuth

namespace Stamp

/-- A text is a numeral: it holds decimal digits alone, and they have the value. -/
structure IsNumeral (value : Nat) (text : String) : Prop where
  digits : ∀ c ∈ text.toList, c.isDigit = true
  value : Nat.ofDigitChars 10 text.toList 0 = value

/-- A numeral has no zero in front of another digit. -/
def IsUnpadded (text : String) : Prop :=
  text.toList ≠ [] ∧ ∀ rest, text.toList = '0' :: rest → rest = []

theorem isNumeral_toString (value : Nat) : IsNumeral value (toString value) := by
  rw [Nat.toString_eq_ofList_toDigits]
  constructor
  · rw [String.toList_ofList]
    exact fun c hMem => Nat.isDigit_of_mem_toDigits (by omega) (by omega) hMem
  · rw [String.toList_ofList, Nat.ofDigitChars_ten_toDigits]

theorem isNumeral_padded (width value : Nat) : IsNumeral value (padded width value) := by
  rw [padded]
  constructor
  · rw [String.toList_ofList]
    intro c hMem
    rcases List.mem_append.mp hMem with hZero | hDigit
    · rw [List.eq_of_mem_replicate hZero]
      rfl
    · exact Nat.isDigit_of_mem_toDigits (by omega) (by omega) hDigit
  · rw [String.toList_ofList, Nat.ofDigitChars_append, Nat.ofDigitChars_replicate_zero,
      Nat.mul_zero, Nat.ofDigitChars_ten_toDigits]

/-- The digits of a number other than zero do not start with zero. -/
theorem toDigits_ne_cons_zero {value : Nat} (h : value ≠ 0) (rest : List Char) :
    Nat.toDigits 10 value ≠ '0' :: rest := by
  induction value using Nat.strongRecOn generalizing rest with
  | ind value ih =>
      by_cases hSmall : value < 10
      · have hDigit : ∀ digit : Fin 10, digit.val ≠ 0 → Nat.digitChar digit.val ≠ '0' := by decide
        rw [Nat.toDigits_of_lt_base hSmall]
        exact fun hSame => hDigit ⟨value, hSmall⟩ h (List.cons.inj hSame).1
      · rw [Nat.toDigits_of_base_le (by omega) (by omega)]
        intro hSame
        cases hFront : Nat.toDigits 10 (value / 10) with
        | nil => exact Nat.toDigits_ne_nil hFront
        | cons first more =>
            rw [hFront, List.cons_append] at hSame
            rw [(List.cons.inj hSame).1] at hFront
            exact ih (value / 10) (by omega) (by omega) more hFront

theorem isUnpadded_toString (value : Nat) : IsUnpadded (toString value) := by
  rw [IsUnpadded, Nat.toString_eq_ofList_toDigits, String.toList_ofList]
  refine ⟨Nat.toDigits_ne_nil, fun rest h => ?_⟩
  by_cases hZero : value = 0
  · rw [hZero, Nat.toDigits_zero] at h
    exact (List.cons.inj h).2.symm
  · exact absurd h (toDigits_ne_cons_zero hZero rest)

/-- A numeral holds no separator of a timestamp. -/
theorem IsNumeral.plain {value : Nat} {text : String} (h : IsNumeral value text) :
    ' ' ∉ text.toList ∧ ':' ∉ text.toList :=
  ⟨fun hMem => absurd (h.digits _ hMem) (by decide),
    fun hMem => absurd (h.digits _ hMem) (by decide)⟩

theorem IsNumeral.inj {value other : Nat} {text : String} (h : IsNumeral value text)
    (hOther : IsNumeral other text) : value = other := h.value.symm.trans hOther.value

/-- The parts of a timestamp. -/
structure Parts where
  weekday : String
  month : String
  day : String
  hour : String
  minute : String
  second : String
  year : String

namespace Parts

/-- The time of day. -/
def clock (parts : Parts) : String := ":".intercalate [parts.hour, parts.minute, parts.second]

/-- The form of a timestamp. -/
def text (parts : Parts) : String :=
  " ".intercalate [parts.weekday, parts.month, parts.day, parts.clock, "UTC", parts.year]

/-- The parts are those of a civil time: English names, and numerals. The time of day has two
digits each, and the day is not padded. -/
structure Tell (parts : Parts) (time : CivilTime) : Prop where
  weekday : dayNames[time.date.weekday]? = some parts.weekday
  month : monthNames[time.date.month - 1]? = some parts.month
  day : IsNumeral time.date.day parts.day ∧ IsUnpadded parts.day
  hour : IsNumeral time.hour parts.hour ∧ parts.hour.toList.length = 2
  minute : IsNumeral time.minute parts.minute ∧ parts.minute.toList.length = 2
  second : IsNumeral time.second parts.second ∧ parts.second.toList.length = 2
  year : IsNumeral time.date.year parts.year

variable {parts others : Parts} {time other : CivilTime}

/-- No part of a timestamp holds a separator. -/
theorem Tell.plain (h : parts.Tell time) :
    (∀ piece ∈ [parts.weekday, parts.month, parts.day, parts.clock, "UTC", parts.year],
      ' ' ∉ piece.toList) ∧
      ∀ piece ∈ [parts.hour, parts.minute, parts.second], ':' ∉ piece.toList := by
  have hDays : ∀ name ∈ dayNames, ' ' ∉ name.toList := by decide
  have hMonths : ∀ name ∈ monthNames, ' ' ∉ name.toList := by decide
  have hClock : ' ' ∉ parts.clock.toList := by
    intro hMem
    rw [clock, show ":" = String.singleton ':' from rfl, Text.toList_intercalate_single] at hMem
    rcases Text.mem_joinWith hMem with hColon | ⟨piece, hPiece, hBlank⟩
    · cases hColon
    · simp only [List.map_cons, List.map_nil, List.mem_cons, List.not_mem_nil, or_false] at hPiece
      rcases hPiece with rfl | rfl | rfl
      · exact h.hour.1.plain.1 hBlank
      · exact h.minute.1.plain.1 hBlank
      · exact h.second.1.plain.1 hBlank
  constructor
  · simp only [List.forall_mem_cons, List.not_mem_nil, false_implies, implies_true, and_true]
    exact ⟨hDays _ (List.mem_of_getElem? h.weekday), hMonths _ (List.mem_of_getElem? h.month),
      h.day.1.plain.1, hClock, by decide, h.year.plain.1⟩
  · simp only [List.forall_mem_cons, List.not_mem_nil, false_implies, implies_true, and_true]
    exact ⟨h.hour.1.plain.2, h.minute.1.plain.2, h.second.1.plain.2⟩

/-- A timestamp has its parts from one civil time only. -/
theorem text_inj (hParts : parts.Tell time) (hOthers : others.Tell other)
    (h : parts.text = others.text) : parts = others := by
  have hPieces := Text.intercalate_inj ' ' (List.cons_ne_nil _ _) (List.cons_ne_nil _ _)
    hParts.plain.1 hOthers.plain.1 h
  obtain ⟨weekday, month, day, hour, minute, second, year⟩ := parts
  obtain ⟨weekday', month', day', hour', minute', second', year'⟩ := others
  simp only [List.cons.injEq, and_true, true_and] at hPieces
  obtain ⟨rfl, rfl, rfl, hClock, rfl⟩ := hPieces
  have hTimes := Text.intercalate_inj ':' (List.cons_ne_nil _ _) (List.cons_ne_nil _ _)
    hParts.plain.2 hOthers.plain.2 hClock
  simp only [List.cons.injEq, and_true] at hTimes
  obtain ⟨rfl, rfl, rfl⟩ := hTimes
  rfl

theorem month_eq_of_name {month other : Nat} {name : String} (hMonth : 1 ≤ month)
    (hOther : 1 ≤ other) (h : monthNames[month - 1]? = some name)
    (hSame : monthNames[other - 1]? = some name) : month = other := by
  have hNames : monthNames.Nodup := by decide
  have hIndex := (List.getElem?_inj (List.getElem?_eq_some_iff.mp h).1 hNames).mp
    (h.trans hSame.symm)
  omega

/-- The same parts tell the same time. -/
theorem Tell.time_eq (hParts : parts.Tell time) (hOther : parts.Tell other)
    (hMonth : 1 ≤ time.date.month) (hOtherMonth : 1 ≤ other.date.month) : time = other := by
  have hSame := month_eq_of_name hMonth hOtherMonth hParts.month hOther.month
  obtain ⟨⟨year, month, day⟩, hour, minute, second⟩ := time
  obtain ⟨⟨year', month', day'⟩, hour', minute', second'⟩ := other
  obtain rfl : month = month' := hSame
  obtain rfl : year = year' := hParts.year.inj hOther.year
  obtain rfl : day = day' := hParts.day.1.inj hOther.day.1
  obtain rfl : hour = hour' := hParts.hour.1.inj hOther.hour.1
  obtain rfl : minute = minute' := hParts.minute.1.inj hOther.minute.1
  obtain rfl : second = second' := hParts.second.1.inj hOther.second.1
  rfl

/-- The parts of the timestamp of a civil time. -/
def ofTime (time : CivilTime) : Parts :=
  ⟨dayName time.date, monthName time.date, toString time.date.day, padded 2 time.hour,
    padded 2 time.minute, padded 2 time.second, toString time.date.year⟩

theorem text_ofTime (time : CivilTime) : (ofTime time).text = challenge time := by
  rw [← String.toList_inj]
  simp [text, ofTime, Parts.clock, challenge, Stamp.clock, String.intercalate_cons_cons]

theorem tell_ofTime (h : time.OnCalendar) : (ofTime time).Tell time := by
  obtain ⟨-, hMonth, -⟩ := Date.isValid_iff.mp h.date
  have hName {names : List String} {index : Nat} (h : index < names.length) :
      names[index]? = some (names.getD index "") := by
    rw [List.getD_eq_getElem?_getD, List.getElem?_eq_getElem h, Option.getD_some]
  have hClock {value : Nat} (h : value < 60) :
      IsNumeral value (padded 2 value) ∧ (padded 2 value).toList.length = 2 :=
    ⟨isNumeral_padded 2 value, length_padded_two (by omega)⟩
  exact {
    weekday := hName (Nat.mod_lt _ (by decide))
    month := hName (show time.date.month - 1 < 12 by omega)
    day := ⟨isNumeral_toString _, isUnpadded_toString _⟩
    hour := hClock (Nat.lt_trans h.hour (by decide))
    minute := hClock h.minute
    second := hClock h.second
    year := isNumeral_toString _ }

end Parts
end Stamp

namespace Moment

/-- A moment falls in a second of UTC, by the civil time of that second. -/
structure FallsIn (moment : Moment) (time : CivilTime) : Prop where
  onCalendar : time.OnCalendar
  start : time.instant * CivilTime.microseconds ≤ moment.elapsed
  finish : moment.elapsed < (time.instant + 1) * CivilTime.microseconds

theorem fallsIn_iff {moment : Moment} {time : CivilTime} :
    moment.FallsIn time ↔ time.OnCalendar ∧ time.instant = moment.instant := by
  have hFloor (elapsed second : Int) : second * CivilTime.microseconds ≤ elapsed ∧
      elapsed < (second + 1) * CivilTime.microseconds ↔
        second = elapsed / CivilTime.microseconds := by
    rw [CivilTime.microseconds]
    omega
  rw [Moment.instant]
  constructor
  · rintro ⟨hTime, hStart, hFinish⟩
    exact ⟨hTime, (hFloor _ _).mp ⟨hStart, hFinish⟩⟩
  · rintro ⟨hTime, hInstant⟩
    obtain ⟨hStart, hFinish⟩ := (hFloor _ _).mpr hInstant
    exact ⟨hTime, hStart, hFinish⟩

theorem ofInstant?_eq_some_iff {moment : Moment} {time : CivilTime} :
    CivilTime.ofInstant? moment.instant = some time ↔ moment.FallsIn time :=
  CivilTime.ofInstant?_eq_some_iff.trans fallsIn_iff.symm

/-- The moments that fall in a second of the calendar are those from the first second of the year 1
to the last one of the year 9999. -/
theorem exists_fallsIn_iff {moment : Moment} :
    (∃ time, moment.FallsIn time) ↔
      (⟨⟨1, 1, 1⟩, 0, 0, 0⟩ : CivilTime).instant ≤ moment.instant ∧
        moment.instant ≤ (⟨⟨9999, 12, 31⟩, 23, 59, 59⟩ : CivilTime).instant := by
  have hDays (second : Int) : -62135596800 ≤ second ∧ second ≤ 253402300799 ↔
      1 ≤ second / 86400 + CivilTime.epochDay ∧
        second / 86400 + CivilTime.epochDay ≤ 3652059 := by
    rw [CivilTime.epochDay]
    omega
  have hFirst : (⟨⟨1, 1, 1⟩, 0, 0, 0⟩ : CivilTime).instant = -62135596800 := by decide
  have hLast : (⟨⟨9999, 12, 31⟩, 23, 59, 59⟩ : CivilTime).instant = 253402300799 := by decide
  rw [hFirst, hLast]
  refine Iff.trans ?_ (hDays moment.instant).symm
  simp only [← ofInstant?_eq_some_iff, CivilTime.ofInstant?_eq]
  split
  next hDay => exact iff_of_true ⟨_, rfl⟩ hDay
  next hDay =>
    refine iff_of_false ?_ hDay
    rintro ⟨time, hTime⟩
    cases hTime

/-- A moment in a second of UTC has the timestamp of that second. -/
theorem timestamp_of_fallsIn {moment : Moment} {time : CivilTime} (h : moment.FallsIn time) :
    Srp.timestamp moment = .ok (Stamp.Parts.ofTime time).text := by
  rw [Srp.timestamp, ofInstant?_eq_some_iff.mpr h, Stamp.Parts.text_ofTime]
  rfl

/-- A moment that falls in no second of the calendar has no timestamp. -/
theorem timestamp_of_not_fallsIn {moment : Moment} (h : ∀ time, ¬moment.FallsIn time) :
    Srp.timestamp moment = .halt .outsideCalendar := by
  cases hTime : CivilTime.ofInstant? moment.instant with
  | none =>
      rw [Srp.timestamp, hTime]
      rfl
  | some time => exact absurd (ofInstant?_eq_some_iff.mp hTime) (h time)

/-- A year has four digits from the year 1000 on. -/
theorem length_year {year : Nat} (hLast : year ≤ 9999) :
    (toString year).toList.length = 4 ↔ 1000 ≤ year := by
  rw [Nat.toString_eq_ofList_toDigits, String.toList_ofList]
  constructor
  · intro hFour
    by_contra hEarly
    have hThree : (Nat.toDigits 10 year).length ≤ 3 :=
      (Nat.length_toDigits_le_iff (by omega) (by omega)).mpr (by omega)
    omega
  · exact fun hFirst => Stamp.length_toDigits_year hFirst hLast

/-- The weekday is that of the day count since 1970. -/
theorem weekday_of_fallsIn {moment : Moment} {time : CivilTime} {parts : Stamp.Parts}
    (h : moment.FallsIn time) (hParts : parts.Tell time) :
    Stamp.dayNames[((moment.instant / 86400 + 3) % 7).toNat]? = some parts.weekday := by
  obtain ⟨hTime, hInstant⟩ := fallsIn_iff.mp h
  have hWeekday := CivilTime.weekday_eq hTime
  rw [← hInstant, ← hWeekday, Int.toNat_natCast]
  exact hParts.weekday

/-- Two moments in the years 1 to 9999 of UTC have the same timestamp exactly if they fall in the
same second. The timestamp has the fixed form with the parts of that second, a year being written
without padding, and so with four digits from the year 1000 on. -/
theorem timestamp_identifies {first second : Moment} {time other : CivilTime}
    (hFirst : first.FallsIn time) (hSecond : second.FallsIn other) :
    (Srp.timestamp first = Srp.timestamp second ↔ first.instant = second.instant) ∧
      ∃ parts : Stamp.Parts, Srp.timestamp first = .ok parts.text ∧ parts.Tell time ∧
        Stamp.dayNames[((first.instant / 86400 + 3) % 7).toNat]? = some parts.weekday ∧
        Stamp.IsUnpadded parts.year ∧
        (parts.year.toList.length = 4 ↔ 1000 ≤ time.date.year) := by
  have hTell := Stamp.Parts.tell_ofTime hFirst.onCalendar
  refine ⟨⟨fun hSame => ?_, fun hSame => ?_⟩, Stamp.Parts.ofTime time,
    timestamp_of_fallsIn hFirst, hTell, weekday_of_fallsIn hFirst hTell,
    Stamp.isUnpadded_toString _, ?_⟩
  · rw [timestamp_of_fallsIn hFirst, timestamp_of_fallsIn hSecond] at hSame
    have hOther := Stamp.Parts.tell_ofTime hSecond.onCalendar
    have hParts := Stamp.Parts.text_inj hTell hOther (Except.ok.inj hSame)
    have hMonth := (Date.isValid_iff.mp hFirst.onCalendar.date).2.1.1
    have hOtherMonth := (Date.isValid_iff.mp hSecond.onCalendar.date).2.1.1
    have hTime : time = other := hTell.time_eq (hParts ▸ hOther) hMonth hOtherMonth
    calc first.instant = time.instant := (fallsIn_iff.mp hFirst).2.symm
      _ = other.instant := by rw [hTime]
      _ = second.instant := (fallsIn_iff.mp hSecond).2
  · rw [Srp.timestamp, Srp.timestamp, hSame]
  · obtain ⟨⟨-, hLast⟩, -⟩ := Date.isValid_iff.mp hFirst.onCalendar.date
    exact length_year hLast

/-- Two moments on both sides of the first of two midnights around a leap day, and one in the last
microsecond of the second before. -/
theorem timestamp_identifies_leap_day :
    let west : Moment := ⟨⟨⟨2024, 2, 28⟩, 23, 59, 59⟩, 500000, -500000⟩
    let east : Moment := ⟨⟨⟨2024, 2, 29⟩, 12, 0, 0⟩, 999999, 43200000000⟩
    let before : Moment := ⟨⟨⟨2024, 2, 29⟩, 0, 0, 0⟩, 0, 1⟩
    let time : CivilTime := ⟨⟨2024, 2, 29⟩, 0, 0, 0⟩
    let last : CivilTime := ⟨⟨2024, 2, 28⟩, 23, 59, 59⟩
    (west.isValid = true ∧ west.FallsIn time) ∧ (east.isValid = true ∧ east.FallsIn time) ∧
      (before.isValid = true ∧ before.FallsIn last) ∧
      Srp.timestamp west = Srp.timestamp east ∧ Srp.timestamp west ≠ Srp.timestamp before ∧
      ∃ parts : Stamp.Parts, Srp.timestamp west = .ok parts.text ∧ parts.Tell time ∧
        parts.weekday = "Thu" ∧ parts.year.toList.length = 4 := by
  intro west east before time last
  have hTime : time.OnCalendar := ⟨by decide, by decide, by decide, by decide⟩
  have hLast : last.OnCalendar := ⟨by decide, by decide, by decide, by decide⟩
  have hWest : west.FallsIn time := ⟨hTime, by decide, by decide⟩
  have hEast : east.FallsIn time := ⟨hTime, by decide, by decide⟩
  have hBefore : before.FallsIn last := ⟨hLast, by decide, by decide⟩
  have hThursday : Stamp.dayNames[((west.instant / 86400 + 3) % 7).toNat]? = some "Thu" := by decide
  obtain ⟨hSame, parts, hText, hTell, hWeekday, -, hYear⟩ := timestamp_identifies hWest hEast
  obtain ⟨hOther, -⟩ := timestamp_identifies hWest hBefore
  exact ⟨⟨by decide, hWest⟩, ⟨by decide, hEast⟩, ⟨by decide, hBefore⟩, hSame.mpr (by decide),
    fun hText => absurd (hOther.mp hText) (by decide),
    parts, hText, hTell, Option.some.inj (hWeekday.symm.trans hThursday), hYear.mpr (by decide)⟩

/-- A year before 1000 is written with fewer than four digits. -/
theorem timestamp_early_year :
    let moment : Moment := ⟨⟨⟨999, 6, 15⟩, 0, 0, 0⟩, 0, 0⟩
    let time : CivilTime := ⟨⟨999, 6, 15⟩, 0, 0, 0⟩
    (moment.isValid = true ∧ moment.FallsIn time) ∧
      Srp.timestamp moment = .ok "Sat Jun 15 00:00:00 UTC 999" ∧
      ¬∃ parts : Stamp.Parts, Srp.timestamp moment = .ok parts.text ∧ parts.Tell time ∧
        parts.year.toList.length = 4 := by
  intro moment time
  have hTime : time.OnCalendar := ⟨by decide, by decide, by decide, by decide⟩
  have hMoment : moment.FallsIn time := ⟨hTime, by decide, by decide⟩
  have hStamp := timestamp_of_fallsIn hMoment
  refine ⟨⟨by decide, hMoment⟩, hStamp.trans (congrArg _ (by decide)), ?_⟩
  rintro ⟨parts, hText, hTell, hYear⟩
  have hSame := Stamp.Parts.text_inj hTell (Stamp.Parts.tell_ofTime hTime)
    (Except.ok.inj (hText.symm.trans hStamp))
  rw [hSame] at hYear
  exact absurd hYear (by decide)

end Moment
end ClientAuth

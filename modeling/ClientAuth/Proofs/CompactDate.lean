import ClientAuth.Calendar.Stamp
import ClientAuth.Proofs.CalendarDays

/-! Compact dates read back. The time of a signature is on the calendar, and what is written of a
date from the year 1000 on is read as that date. -/
namespace ClientAuth

theorem CivilTime.isNaN_of_ofSeconds? {now : Binary64} {time : CivilTime}
    (h : ofSeconds? now = some time) : now.isNaN = false := by
  rw [ofSeconds?] at h
  split at h
  next hFinite =>
    rw [Binary64.isFinite, decide_eq_true_eq] at hFinite
    exact decide_eq_false (Nat.lt_asymm hFinite)
  next => nomatch h

theorem CivilTime.onCalendar_of_ofSeconds? {now : Binary64} {time : CivilTime}
    (h : ofSeconds? now = some time) : time.OnCalendar := by
  rw [ofSeconds?] at h
  split at h
  · exact (of_ofInstant? h).1
  · nomatch h

theorem CivilTime.isValid_of_ofSeconds? {now : Binary64} {time : CivilTime}
    (h : ofSeconds? now = some time) : time.date.isValid = true :=
  (onCalendar_of_ofSeconds? h).date

theorem CivilTime.clock_of_ofSeconds? {now : Binary64} {time : CivilTime}
    (h : ofSeconds? now = some time) : time.hour < 24 ∧ time.minute < 60 ∧ time.second < 60 :=
  ⟨(onCalendar_of_ofSeconds? h).hour, (onCalendar_of_ofSeconds? h).minute,
    (onCalendar_of_ofSeconds? h).second⟩

namespace Stamp

theorem readMonthDay?_padded {month day : Nat} (hMonth : 1 ≤ month ∧ month ≤ 12)
    (hDay : 1 ≤ day ∧ day ≤ 31) :
    readMonthDay? ((padded 2 month).toList ++ (padded 2 day).toList) = some (month, day) := by
  have hAll : ∀ month : Fin 13, ∀ day : Fin 32, 1 ≤ month.val → 1 ≤ day.val →
      readMonthDay? ((padded 2 month).toList ++ (padded 2 day).toList) =
        some (month.val, day.val) := by
    decide +kernel
  exact hAll ⟨month, by omega⟩ ⟨day, by omega⟩ hMonth.1 hDay.1

theorem length_toDigits_year {year : Nat} (hFirst : 1000 ≤ year) (hLast : year ≤ 9999) :
    (Nat.toDigits 10 year).length = 4 := by
  have hThree : ¬(Nat.toDigits 10 year).length ≤ 3 := by
    rw [Nat.length_toDigits_le_iff (by omega) (by omega)]
    omega
  have hFour : (Nat.toDigits 10 year).length ≤ 4 := by
    rw [Nat.length_toDigits_le_iff (by omega) (by omega)]
    omega
  omega

/-- From the year 1000 on a compact date is read as the date that it was written for. -/
theorem readDate?_compactDate {date : Date} (hValid : date.isValid = true)
    (hYear : 1000 ≤ date.year) : readDate? (compactDate date).toList = some date := by
  obtain ⟨year, month, day⟩ := date
  obtain ⟨⟨-, hLast⟩, hMonth, hDay, hLength⟩ := Date.isValid_iff.mp hValid
  dsimp only at hYear hLast hMonth hDay hLength
  have hMost : day ≤ 31 := Date.day_le_of_isValid hValid
  have hText : (compactDate ⟨year, month, day⟩).toList =
      Nat.toDigits 10 year ++ ((padded 2 month).toList ++ (padded 2 day).toList) := by
    rw [compactDate, String.toList_append, String.toList_append, Nat.toString_eq_ofList_toDigits,
      String.toList_ofList, List.append_assoc]
  have hFour := length_toDigits_year hYear hLast
  have hValue :
      (Nat.toDigits 10 year).foldl (fun value c => 10 * value + (c.toNat - 48)) 0 = year :=
    Nat.ofDigitChars_ten_toDigits
  rw [readDate?, hText, List.take_left' hFour, List.drop_left' hFour,
    readMonthDay?_padded hMonth ⟨hDay, hMost⟩, hValue]
  exact if_pos hLength

end Stamp
end ClientAuth

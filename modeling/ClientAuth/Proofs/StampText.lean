import ClientAuth.Calendar.Stamp
import ClientAuth.Proofs.PlainText

/-! Timestamps are in ASCII, for every civil time: dates off the calendar are not
excluded. -/
namespace ClientAuth.Stamp

open Text (IsAscii)

theorem digits_toNat_lt (value : Nat) : ∀ c ∈ Nat.toDigits 10 value, c.toNat < 128 := by
  intro c hMem
  have hDigit : c.isDigit = true := Nat.isDigit_of_mem_toDigits (by omega) (by omega) hMem
  simp only [Char.isDigit, Bool.and_eq_true, decide_eq_true_eq, UInt32.le_iff_toNat_le] at hDigit
  exact Nat.lt_of_le_of_lt hDigit.2 (by decide)

theorem isAscii_toString (value : Nat) : IsAscii (toString value) := by
  rw [Nat.toString_eq_ofList_toDigits]
  exact Text.isAscii_ofList (digits_toNat_lt value)

theorem isAscii_padded (width value : Nat) : IsAscii (padded width value) := by
  apply Text.isAscii_ofList
  intro c hMem
  rcases List.mem_append.mp hMem with hZero | hDigit
  · rw [List.eq_of_mem_replicate hZero]
    decide
  · exact digits_toNat_lt value c hDigit

theorem isAscii_getD {names : List String} (h : ∀ name ∈ names, IsAscii name) (index : Nat) :
    IsAscii (names.getD index "") := by
  rw [List.getD_eq_getElem?_getD]
  cases hName : names[index]? with
  | none => decide
  | some name => exact h name (List.mem_of_getElem? hName)

theorem isAscii_dayName (date : Date) : IsAscii (dayName date) :=
  isAscii_getD (by decide) _

theorem isAscii_monthName (date : Date) : IsAscii (monthName date) :=
  isAscii_getD (by decide) _

theorem isAscii_clock (time : CivilTime) : IsAscii (clock time) := by
  have hColon : IsAscii ":" := by decide
  have hHour := isAscii_padded 2 time.hour
  have hMinute := isAscii_padded 2 time.minute
  have hSecond := isAscii_padded 2 time.second
  exact (((hHour.append hColon).append hMinute).append hColon).append hSecond

theorem isAscii_challenge (time : CivilTime) : IsAscii (challenge time) := by
  have hGap : IsAscii " " := by decide
  have hZone : IsAscii " UTC " := by decide
  have hDate : IsAscii (dayName time.date ++ " " ++ monthName time.date ++ " " ++
      toString time.date.day) :=
    ((((isAscii_dayName _).append hGap).append (isAscii_monthName _)).append hGap).append
      (isAscii_toString _)
  exact ((((hDate.append hGap).append (isAscii_clock time)).append hZone).append
    (isAscii_toString _))

theorem isAscii_compactDate (date : Date) : IsAscii (compactDate date) :=
  ((isAscii_toString _).append (isAscii_padded _ _)).append (isAscii_padded _ _)

theorem isAscii_compact (time : CivilTime) : IsAscii (compact time) := by
  have hMark : IsAscii "T" := by decide
  have hZone : IsAscii "Z" := by decide
  have hHour := isAscii_padded 2 time.hour
  have hMinute := isAscii_padded 2 time.minute
  have hSecond := isAscii_padded 2 time.second
  exact (((((isAscii_compactDate time.date).append hMark).append hHour).append hMinute).append
    hSecond).append hZone

theorem isAscii_header (time : CivilTime) : IsAscii (header time) := by
  have hComma : IsAscii ", " := by decide
  have hGap : IsAscii " " := by decide
  have hZone : IsAscii " -0000" := by decide
  have hDay := isAscii_padded 2 time.date.day
  have hYear := isAscii_padded 4 time.date.year
  exact ((((((((isAscii_dayName time.date).append hComma).append hDay).append hGap).append
    (isAscii_monthName time.date)).append hGap).append hYear).append hGap).append
    (isAscii_clock time) |>.append hZone

end ClientAuth.Stamp

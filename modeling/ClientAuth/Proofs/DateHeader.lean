import Mathlib.Data.List.Basic
import ClientAuth.Proofs.CompactDate

/-! Date headers read by the one who checks a signature. Main statement: `ofHeader?_header`, by
which a date header names the time of the signature that it was written for. -/
namespace ClientAuth.Stamp

/-- The characters of a text from a place on. -/
def partAt (start length : Nat) (text : List Char) : String :=
  String.ofList ((text.drop start).take length)

/-- The time of a signature that a date header names: `Sun, 04 Oct 2026 07:05:09 GMT` names
`20261004T070509Z`. All parts have their fixed places. -/
def ofHeader? (text : List Char) : Option String :=
  (monthNames.idxOf? (partAt 8 3 text)).map fun month =>
    partAt 12 4 text ++ padded 2 (month + 1) ++ partAt 5 2 text ++ "T" ++ partAt 17 2 text ++
      partAt 20 2 text ++ partAt 23 2 text ++ "Z"

theorem length_padded {width value : Nat} (h : (Nat.toDigits 10 value).length ≤ width) :
    (padded width value).toList.length = width := by
  rw [padded, String.toList_ofList, List.length_append, List.length_replicate]
  omega

theorem length_padded_two {value : Nat} (h : value < 100) :
    (padded 2 value).toList.length = 2 :=
  length_padded ((Nat.length_toDigits_le_iff (by omega) (by omega)).mpr h)

theorem padded_four {year : Nat} (hFirst : 1000 ≤ year) (hLast : year ≤ 9999) :
    padded 4 year = toString year := by
  rw [padded, length_toDigits_year hFirst hLast, Nat.toString_eq_ofList_toDigits]
  rfl

theorem length_dayName (date : Date) : (dayName date).toList.length = 3 := by
  have hAll : ∀ index : Fin 7, (dayNames.getD index.val "").toList.length = 3 := by decide
  exact hAll ⟨date.weekday, Nat.mod_lt _ (by omega)⟩

theorem idxOf?_monthName {date : Date} (hMonth : 1 ≤ date.month ∧ date.month ≤ 12) :
    (monthName date).toList.length = 3 ∧
      monthNames.idxOf? (monthName date) = some (date.month - 1) := by
  have hAll : ∀ index : Fin 12, (monthNames.getD index.val "").toList.length = 3 ∧
      monthNames.idxOf? (monthNames.getD index.val "") = some index.val := by
    decide
  exact hAll ⟨date.month - 1, by omega⟩

/-- From the year 1000 on a date header names the time of the signature it was written for. -/
theorem ofHeader?_header {time : CivilTime} (hValid : time.date.isValid = true)
    (hYear : 1000 ≤ time.date.year)
    (hClock : time.hour < 24 ∧ time.minute < 60 ∧ time.second < 60) :
    ofHeader? (header time).toList = some (compact time) := by
  obtain ⟨⟨-, hLast⟩, hMonth, -⟩ := Date.isValid_iff.mp hValid
  have hDay := Date.day_le_of_isValid hValid
  obtain ⟨hMonthLength, hIndex⟩ := idxOf?_monthName hMonth
  obtain ⟨w₁, w₂, w₃, hWeekday⟩ := List.length_eq_three.mp (length_dayName time.date)
  obtain ⟨n₁, n₂, n₃, hName⟩ := List.length_eq_three.mp hMonthLength
  obtain ⟨d₁, d₂, hDayText⟩ := List.length_eq_two.mp
    (length_padded_two (by omega : time.date.day < 100))
  obtain ⟨h₁, h₂, hHour⟩ := List.length_eq_two.mp (length_padded_two (by omega : time.hour < 100))
  obtain ⟨m₁, m₂, hMinute⟩ :=
    List.length_eq_two.mp (length_padded_two (by omega : time.minute < 100))
  obtain ⟨s₁, s₂, hSecond⟩ :=
    List.length_eq_two.mp (length_padded_two (by omega : time.second < 100))
  obtain ⟨y₁, y₂, y₃, y₄, hDigits⟩ := List.length_eq_four.mp (length_toDigits_year hYear hLast)
  have hText : (header time).toList =
      [w₁, w₂, w₃, ',', ' ', d₁, d₂, ' ', n₁, n₂, n₃, ' ', y₁, y₂, y₃, y₄, ' ', h₁, h₂, ':',
        m₁, m₂, ':', s₁, s₂, ' ', '-', '0', '0', '0', '0'] := by
    simp [header, clock, hWeekday, hDayText, hName, padded_four hYear hLast, hDigits, hHour,
      hMinute, hSecond]
  have hMonthText : String.ofList [n₁, n₂, n₃] = monthName time.date := by
    rw [← hName, String.ofList_toList]
  rw [ofHeader?, hText]
  change (monthNames.idxOf? (String.ofList [n₁, n₂, n₃])).map (fun month =>
    String.ofList [y₁, y₂, y₃, y₄] ++ padded 2 (month + 1) ++ String.ofList [d₁, d₂] ++ "T" ++
      String.ofList [h₁, h₂] ++ String.ofList [m₁, m₂] ++ String.ofList [s₁, s₂] ++ "Z") = _
  rw [hMonthText, hIndex, Option.map_some, Nat.sub_add_cancel hMonth.1, ← hDigits, ← hDayText,
    ← hHour, ← hMinute, ← hSecond, compact, compactDate, Nat.toString_eq_ofList_toDigits]
  simp only [String.ofList_toList]

end ClientAuth.Stamp

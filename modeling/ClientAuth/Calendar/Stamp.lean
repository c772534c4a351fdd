import ClientAuth.Calendar.Moment

/-! The written forms of a second of UTC. Names are English whatever the
locale. -/
namespace ClientAuth.Stamp

def dayNames : List String := ["Mon", "Tue", "Wed", "Thu", "Fri", "Sat", "Sun"]

def monthNames : List String :=
  ["Jan", "Feb", "Mar", "Apr", "May", "Jun", "Jul", "Aug", "Sep", "Oct", "Nov", "Dec"]

/-- A number filled up with zeros to a width. -/
def padded (width value : Nat) : String :=
  let digits := Nat.toDigits 10 value
  String.ofList (List.replicate (width - digits.length) '0' ++ digits)

/-- Hours, minutes and seconds with colons. -/
def clock (time : CivilTime) : String :=
  padded 2 time.hour ++ ":" ++ padded 2 time.minute ++ ":" ++ padded 2 time.second

def dayName (date : Date) : String := dayNames.getD date.weekday ""

def monthName (date : Date) : String := monthNames.getD (date.month - 1) ""

/-- The challenge timestamp: `Sun Oct 4 07:05:09 UTC 2026`. Day and year are
not padded. -/
def challenge (time : CivilTime) : String :=
  dayName time.date ++ " " ++ monthName time.date ++ " " ++ toString time.date.day ++ " " ++
    clock time ++ " UTC " ++ toString time.date.year

/-- The date of a signature: `20261004`. -/
def compactDate (date : Date) : String :=
  toString date.year ++ padded 2 date.month ++ padded 2 date.day

/-- The time of a signature: `20261004T070509Z`. -/
def compact (time : CivilTime) : String :=
  compactDate time.date ++ "T" ++ padded 2 time.hour ++ padded 2 time.minute ++
    padded 2 time.second ++ "Z"

/-- The day that a text of one or two digits names. -/
def readDay? : List Char → Option Nat
  | ['3', c] => if c = '0' ∨ c = '1' then some (30 + (c.toNat - 48)) else none
  | [a, c] =>
      if (a = '0' ∧ '1' ≤ c ∨ a = '1' ∨ a = '2') ∧ c.isDigit then
        some (10 * (a.toNat - 48) + (c.toNat - 48))
      else none
  | [c] => if '1' ≤ c ∧ c ≤ '9' then some (c.toNat - 48) else none
  | _ => none

/-- The month and the day that a text of digits names. A month of two digits is
preferred to one of a single digit. -/
def readMonthDay? (text : List Char) : Option (Nat × Nat) :=
  let long :=
    match text with
    | '1' :: c :: rest =>
        if '0' ≤ c ∧ c ≤ '2' then (readDay? rest).map (10 + (c.toNat - 48), ·) else none
    | '0' :: c :: rest =>
        if '1' ≤ c ∧ c ≤ '9' then (readDay? rest).map (c.toNat - 48, ·) else none
    | _ => none
  let short :=
    match text with
    | c :: rest => if '1' ≤ c ∧ c ≤ '9' then (readDay? rest).map (c.toNat - 48, ·) else none
    | [] => none
  long.or short

/-- The date that a compact date is read as. Four digits make the year, so that
the date of an earlier year than 1000 may be read as another one or not at
all. -/
def readDate? (text : List Char) : Option Date := do
  let year := (text.take 4).foldl (fun value c => 10 * value + (c.toNat - 48)) 0
  let (month, day) ← readMonthDay? (text.drop 4)
  if day ≤ (Date.monthLengths (Date.isLeap year)).getD (month - 1) 0 then some ⟨year, month, day⟩
  else none

/-- The date header: `Sun, 04 Oct 2026 07:05:09 -0000`. -/
def header (time : CivilTime) : String :=
  dayName time.date ++ ", " ++ padded 2 time.date.day ++ " " ++ monthName time.date ++ " " ++
    padded 4 time.date.year ++ " " ++ clock time ++ " -0000"

end ClientAuth.Stamp

import ClientAuth.Sorting
import ClientAuth.Text.Pieces

/-! Labels beyond ASCII as ASCII text. The ASCII characters of a label come
first; the others follow as a sequence of gaps between insertions, each gap a
number of variable length in base 36. -/
namespace ClientAuth.Punycode

/-- The digit of a value below 36: the letters, then the decimal digits. -/
def digit (value : Nat) : Char := Char.ofNat (if value < 26 then 97 + value else 22 + value)

/-- The least digit that is not the last one, at a place of a number. -/
def threshold (place bias : Nat) : Nat :=
  if place ≤ bias then 1 else if bias + 26 ≤ place then 26 else place - bias

theorem threshold_pos (place bias : Nat) : 0 < threshold place bias := by
  unfold threshold
  split
  · omega
  · split <;> omega

/-- A number from a place on. -/
def number (bias place value : Nat) : List Char :=
  let least := threshold place bias
  if value < least then [digit value]
  else
    digit (least + (value - least) % (36 - least)) ::
      number bias (place + 36) ((value - least) / (36 - least))
termination_by value
decreasing_by
  have hPos := threshold_pos place bias
  exact Nat.lt_of_le_of_lt (Nat.div_le_self _ _) (by omega)

/-- Scales a gap down to where the bias is read off. -/
def scale (place gap : Nat) : Nat :=
  if 455 < gap then scale (place + 36) (gap / 35) else place + 36 * gap / (gap + 38)
termination_by gap
decreasing_by omega

/-- The bias after a gap, with the number of characters placed so far. -/
def adapt (gap count : Nat) (first : Bool) : Nat :=
  let gap := if first then gap / 700 else gap / 2
  scale 0 (gap + gap / count)

/-- The insertions so far: the gap since the last one, the bias, the number of
characters placed, and the text. -/
structure Progress where
  gap : Nat
  bias : Nat
  count : Nat
  text : List Char

/-- Passes one code point of the label while characters of code `code` are being
inserted. -/
def pass (plain code : Nat) (progress : Progress) (other : Nat) : Progress :=
  if other < code then { progress with gap := progress.gap + 1 }
  else if other = code then
    ⟨0, adapt progress.gap (progress.count + 1) (progress.count = plain), progress.count + 1,
      progress.text ++ number progress.bias 36 progress.gap⟩
  else progress

/-- Inserts the characters of increasing codes, the first of them not below
`least`. -/
def insertAll (label : List Nat) (plain : Nat) : List Nat → Nat → Progress → Progress
  | [], _, progress => progress
  | code :: rest, least, progress =>
      let before := { progress with gap := progress.gap + (code - least) * (progress.count + 1) }
      let after := label.foldl (pass plain code) before
      insertAll label plain rest (code + 1) { after with gap := after.gap + 1 }

/-- The ASCII form of a label, without a mark in front. -/
def encode (label : List Nat) : List Char :=
  let plain := (label.filter (· < 128)).map Char.ofNat
  let codes := sortBy (· < ·) (label.filter (128 ≤ ·)).eraseDups
  let start : Progress :=
    ⟨0, 72, plain.length, if plain.isEmpty then [] else plain ++ ['-']⟩
  (insertAll label plain.length codes 128 start).text

/-- The value of a digit in lower case. -/
def digitValue? (c : Char) : Option Nat :=
  if 'a' ≤ c ∧ c ≤ 'z' then some (c.toNat - 97)
  else if '0' ≤ c ∧ c ≤ '9' then some (c.toNat - 22)
  else none

/-- Reads a number from a place on, its digits so far making up `value`, and the
rest. -/
def readNumber? (bias place weight value : Nat) : List Char → Option (Nat × List Char)
  | [] => none
  | c :: rest =>
      match digitValue? c with
      | none => none
      | some d =>
          let least := threshold place bias
          let value := value + d * weight
          if d < least then some (value, rest)
          else readNumber? bias (place + 36) (weight * (36 - least)) value rest

/-- What has been read of a label: the code that is being inserted, the place
after the last insertion, the bias, and the code points. -/
structure Reading where
  code : Nat
  next : Nat
  bias : Nat
  codes : List Nat

/-- Inserts the code point that lies a gap further on. -/
def Reading.insert? (reading : Reading) (gap : Nat) (first : Bool) : Option Reading :=
  let count := reading.codes.length + 1
  let place := reading.next + gap
  let code := reading.code + place / count
  if 0x10FFFF < code then none
  else
    some ⟨code, place % count + 1, adapt gap count first,
      reading.codes.take (place % count) ++ code :: reading.codes.drop (place % count)⟩

/-- Reads gaps and inserts code points to the end of the text. The fuel is at
least the length of the text. -/
def readAll? : Nat → Bool → Reading → List Char → Option (List Nat)
  | _, _, reading, [] => some reading.codes
  | 0, _, _, _ => none
  | fuel + 1, first, reading, text =>
      match readNumber? reading.bias 36 1 0 text with
      | none => none
      | some (gap, rest) =>
          match reading.insert? gap first with
          | none => none
          | some reading => readAll? fuel false reading rest

/-- The code points of a label from its ASCII form in lower case. -/
def decode? (text : List Char) : Option (List Nat) :=
  let (plain, gaps) := Text.splitLast '-' text
  readAll? gaps.length true ⟨128, 0, 72, plain.map Char.toNat⟩ gaps

end ClientAuth.Punycode

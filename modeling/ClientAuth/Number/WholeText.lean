import ClientAuth.Number.Numeral

/-! Integers written as texts. The exact form is a minus sign, if any, and
digits without a zero in front; a text of another form is tidied first. -/
namespace ClientAuth.WholeText

/-- Why a text is no integer. -/
inductive Fault
  | malformed
  | tooLong
deriving DecidableEq, Repr

/-- Reads the exact form. Digits that are too many are a fault of their own,
whatever follows them. -/
def exact (text : List Char) : Except Fault Int :=
  let negative := text.head? = some '-'
  let digits := if negative then text.drop 1 else text
  match digits with
  | '0' :: rest => if rest.isEmpty then .ok 0 else .error .malformed
  | _ =>
      let (value, count, rest) := Numeral.run 0 0 digits
      if Numeral.digitLimit < count then .error .tooLong
      else if count = 0 || !rest.isEmpty then .error .malformed
      else .ok (if negative then -(value : Int) else value)

/-- Drops zeros in front, and underscores among them, up to another digit or a
minus sign. The last one stays where a point or nothing follows it. -/
def dropZeros (last : Char) : List Char → Option (List Char)
  | [] => some [last]
  | c :: rest =>
      if c = '0' ∨ c = '_' then dropZeros c rest
      else if c = '.' then some (last :: c :: rest)
      else if c = '-' ∨ (Numeral.digit? c).isSome then some (c :: rest)
      else none

/-- The same for a numeral that need not start with a zero. -/
def unpadded? : List Char → Option (List Char)
  | [] => none
  | c :: rest =>
      if c = '0' then dropZeros c rest
      else if (Numeral.digit? c).isSome then some (c :: rest)
      else none

/-- Drops a point with zeros after it. -/
def dropFraction (text : List Char) : List Char :=
  let zeros := (text.dropWhile (· ≠ '.')).drop 1
  if !zeros.isEmpty && zeros.all (· = '0') then text.takeWhile (· ≠ '.') else text

/-- Drops underscores, unless one is at an end or two stand together. -/
def dropUnderscores (text : List Char) : List Char :=
  let doubled := (text.zip (text.drop 1)).any fun (c, d) => c = '_' && d = '_'
  if text.head? = some '_' || text.getLast? = some '_' || doubled then text
  else text.filter (· ≠ '_')

/-- The exact form of a text with white space around it, a plus sign, zeros in
front, a fraction of zeros, or underscores between digits. -/
def tidy? (text : List Char) : Option (List Char) :=
  let text := Text.trim Text.isBlank text
  let (negative, rest) := Numeral.sign text
  if negative then
    ((unpadded? rest).map (dropUnderscores ∘ dropFraction)).map ('-' :: ·)
  else (unpadded? rest).map (dropUnderscores ∘ dropFraction)

/-- Reads an integer. -/
def read (text : List Char) : Except Fault Int :=
  match exact text with
  | .error .malformed =>
      match (tidy? text).map exact with
      | some (.ok value) => .ok value
      | _ => .error .malformed
  | result => result

end ClientAuth.WholeText

/-! Texts as pieces around a separator. -/
namespace ClientAuth.Text

/-- The pieces between occurrences of a separator, at least one. -/
def splitOn (separator : Char) : List Char → List (List Char)
  | [] => [[]]
  | c :: rest =>
      if c = separator then [] :: splitOn separator rest
      else
        match splitOn separator rest with
        | piece :: more => (c :: piece) :: more
        | [] => [[c]]

/-- Puts a separator between pieces. -/
def joinWith (separator : Char) : List (List Char) → List Char
  | [] => []
  | [piece] => piece
  | piece :: rest => piece ++ separator :: joinWith separator rest

/-- Splits at the last occurrence of a character, if there is one. -/
def splitLast (separator : Char) (text : List Char) : List Char × List Char :=
  if separator ∈ text then
    let back := text.reverse
    (((back.dropWhile (· ≠ separator)).drop 1).reverse, (back.takeWhile (· ≠ separator)).reverse)
  else ([], text)

/-- Whether a word occurs in a text. -/
def occurs (word : List Char) : List Char → Bool
  | [] => word.isEmpty
  | c :: rest => word.isPrefixOf (c :: rest) || occurs word rest

theorem splitOn_ne_nil (separator : Char) (text : List Char) : splitOn separator text ≠ [] := by
  induction text with
  | nil => simp [splitOn]
  | cons c rest ih =>
      unfold splitOn
      split
      · simp
      · split <;> simp

theorem joinWith_splitOn (separator : Char) (text : List Char) :
    joinWith separator (splitOn separator text) = text := by
  induction text with
  | nil => rfl
  | cons c rest ih =>
      unfold splitOn
      split
      next h =>
        subst h
        cases hPieces : splitOn c rest with
        | nil => exact absurd hPieces (splitOn_ne_nil c rest)
        | cons piece more =>
            rw [hPieces] at ih
            simp [joinWith, ih]
      next =>
        cases hPieces : splitOn separator rest with
        | nil => exact absurd hPieces (splitOn_ne_nil separator rest)
        | cons piece more =>
            rw [hPieces] at ih
            cases more with
            | nil => simpa [joinWith] using ih
            | cons next others => simpa [joinWith] using ih

end ClientAuth.Text

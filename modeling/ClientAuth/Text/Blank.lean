/-! Blank characters. Numerals are trimmed of white space proper; words are
trimmed and split at the four information separators as well. -/
namespace ClientAuth.Text

/-- White space in the sense of Unicode's `White_Space` property. -/
def isBlank (c : Char) : Bool :=
  let n := c.toNat
  (0x09 ≤ n && n ≤ 0x0D) || n = 0x20 || n = 0x85 || n = 0xA0 || n = 0x1680 ||
    (0x2000 ≤ n && n ≤ 0x200A) || n = 0x2028 || n = 0x2029 || n = 0x202F || n = 0x205F ||
    n = 0x3000

/-- White space and the four information separators `U+001C` to `U+001F`. -/
def isGap (c : Char) : Bool :=
  isBlank c || (0x1C ≤ c.toNat && c.toNat ≤ 0x1F)

/-- The six white-space characters of ASCII. -/
def isAsciiBlank (c : Char) : Bool :=
  c = ' ' || (0x09 ≤ c.toNat && c.toNat ≤ 0x0D)

/-- Drops the characters of a class from both ends. -/
def trim (drop : Char → Bool) (text : List Char) : List Char :=
  ((text.dropWhile drop).reverse.dropWhile drop).reverse

/-- The maximal runs of characters outside a class, in order. -/
def wordsBy (drop : Char → Bool) : List Char → List (List Char)
  | [] => []
  | c :: rest =>
      if drop c then wordsBy drop rest
      else
        match rest, wordsBy drop rest with
        | [], _ => [[c]]
        | d :: _, later => if drop d then [c] :: later else
            match later with
            | [] => [[c]]
            | word :: more => (c :: word) :: more

@[simp] theorem trim_nil (drop : Char → Bool) : trim drop [] = [] := rfl

end ClientAuth.Text

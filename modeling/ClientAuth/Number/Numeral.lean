import ClientAuth.Number.Binary64
import ClientAuth.Text.Blank
import ClientAuth.Text.Digit

/-! Decimal numerals and the doubles nearest to them. -/
namespace ClientAuth

/-- What a decimal numeral denotes before rounding: `digits * 10 ^ exponent`
with a sign, or one of the values that are not finite. -/
inductive Numeral
  | finite (negative : Bool) (digits : Nat) (exponent : Int)
  | infinite (negative : Bool)
  | nan (negative : Bool)
deriving DecidableEq, Repr

namespace Numeral

/-- The value of an ASCII decimal digit. -/
def digit? (c : Char) : Option Nat :=
  if '0' ≤ c ∧ c ≤ '9' then some (c.toNat - 48) else none

/-- Splits off the longest run of ASCII digits: its value read onto `value`,
its length added to `count`, and the rest. -/
def run (value count : Nat) : List Char → Nat × Nat × List Char
  | [] => (value, count, [])
  | c :: rest =>
      match digit? c with
      | some d => run (10 * value + d) (count + 1) rest
      | none => (value, count, c :: rest)

/-- A sign, if one stands first, and the rest. -/
def sign : List Char → Bool × List Char
  | '-' :: rest => (true, rest)
  | '+' :: rest => (false, rest)
  | text => (false, text)

/-- An exponent mark with its exponent, or nothing. -/
def exponent? : List Char → Option Int
  | [] => some 0
  | mark :: rest =>
      if mark = 'e' ∨ mark = 'E' then
        let (negative, rest) := sign rest
        match run 0 0 rest with
        | (value, count, []) =>
            if count = 0 then none else some (if negative then -(value : Int) else value)
        | _ => none
      else none

/-- An unsigned numeral: digits with an optional point among or beside them,
and an optional exponent. -/
def unsigned? (negative : Bool) (text : List Char) : Option Numeral :=
  let (whole, count, rest) := run 0 0 text
  match rest with
  | '.' :: rest =>
      let (value, total, rest) := run whole count rest
      if total = 0 then none
      else (exponent? rest).map fun e => finite negative value (e - (total - count : Nat))
  | rest => if count = 0 then none else (exponent? rest).map (finite negative whole)

/-- An ASCII letter in lower case. -/
def lower (c : Char) : Char :=
  if 'A' ≤ c ∧ c ≤ 'Z' then Char.ofNat (c.toNat + 32) else c

/-- Reads a signed numeral. Infinity and not-a-number are written in words of
either case. -/
def read? (text : List Char) : Option Numeral :=
  let (negative, rest) := sign text
  let word := String.ofList (rest.map lower)
  if word = "inf" ∨ word = "infinity" then some (infinite negative)
  else if word = "nan" then some (nan negative)
  else unsigned? negative rest

/-- Whether every underscore stands between two ASCII digits. `before` says
that a digit has just been passed. -/
def separated (before : Bool) : List Char → Bool
  | [] => true
  | '_' :: rest =>
      before && (match rest with
        | c :: _ => (digit? c).isSome
        | [] => false) && separated false rest
  | c :: rest => separated (digit? c).isSome rest

/-- Reads a numeral with white space around it, digits of any script, and
single underscores between digits. -/
def readLoose? (text : String) : Option Numeral :=
  let text := (Text.trim Text.isBlank text.toList).map Text.plainDigit
  if separated false text then read? (text.filter (· ≠ '_')) else none

/-- The most digits of an integer. -/
def digitLimit : Nat := 4300

/-- Reads an integer with white space around it, digits of any script, and
single underscores between digits. -/
def readInt? (text : List Char) : Option Int :=
  let (negative, rest) := sign ((Text.trim Text.isBlank text).map Text.plainDigit)
  if separated false rest then
    match run 0 0 (rest.filter (· ≠ '_')) with
    | (value, count, []) =>
        if count = 0 || digitLimit < count then none
        else some (if negative then -(value : Int) else value)
    | _ => none
  else none

/-- Reads a numeral with white space around it. Where that fails, a text with
underscores is read without them, provided none is doubled or at an end. -/
def readPlain? (text : String) : Option Numeral :=
  let chars := text.toList
  match read? (Text.trim Text.isBlank chars) with
  | some numeral => some numeral
  | none =>
      let doubled := (chars.zip (chars.drop 1)).any fun (c, d) => c = '_' && d = '_'
      if chars.head? = some '_' ∨ chars.getLast? = some '_' ∨ doubled ∨ '_' ∉ chars then none
      else read? (chars.filter (· ≠ '_'))

/-- The nearest double. Exponents far outside the range of doubles are decided
without computing the power of ten. -/
def toBinary64 : Numeral → Binary64
  | finite negative digits exponent =>
      if digits = 0 then Binary64.zero negative
      else if 310 < exponent then Binary64.infinite negative
      else if exponent + (digits.log2 : Int) < -1100 then Binary64.zero negative
      else if 0 ≤ exponent then Binary64.ofRatio negative (digits * Nat.pow 10 exponent.toNat) 1
      else Binary64.ofRatio negative digits (Nat.pow 10 (-exponent).toNat)
  | infinite negative => Binary64.infinite negative
  | nan negative => Binary64.nan negative

end Numeral
end ClientAuth

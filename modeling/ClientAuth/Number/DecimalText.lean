import ClientAuth.Number.Binary64

/-! Decimal texts of doubles: the shortest that reads back, and the one with a
fixed number of places. -/
namespace ClientAuth.Binary64

/-- The decimal digits of a natural number. -/
def decimalDigits (value : Nat) : List Char := Nat.toDigits 10 value

/-- The exponent of the leading decimal digit of a positive finite value given
in quanta. The value is first scaled up so that it keeps an integer part. -/
def leadingExponent (quanta : Nat) : Int :=
  ((decimalDigits (quanta * Nat.pow 10 330 / unit)).length : Int) - 331

/-- The numerator and denominator of a ratio times a power of ten. -/
def scaled (num den : Nat) (exponent : Int) : Nat × Nat :=
  if 0 ≤ exponent then (num * Nat.pow 10 exponent.toNat, den)
  else (num, den * Nat.pow 10 (-exponent).toNat)

/-- Whether `digits * 10 ^ exponent` rounds to the double of this magnitude.
The ends of its interval, halfway to the neighbours, belong to it if the
magnitude is even. -/
def readsBack (magnitude digits : Nat) (exponent : Int) : Bool :=
  let value := quantaOf magnitude
  let low := value + quantaOf (magnitude - 1)
  let high := value + quantaOf (magnitude + 1)
  let (num, den) := scaled (digits * 2 * unit) 1 exponent
  if magnitude % 2 = 0 then low * den ≤ num && num ≤ high * den
  else low * den < num && num < high * den

/-- The point of the grid of multiples of `10 ^ exponent` that reads back, if
the value's lower or upper neighbour on the grid does. Of two, the nearer wins,
and of two equally near ones the even. -/
def gridPoint? (magnitude : Nat) (exponent : Int) : Option Nat :=
  let (num, den) := scaled (quantaOf magnitude) unit (-exponent)
  let low := num / den
  match readsBack magnitude low exponent, readsBack magnitude (low + 1) exponent with
  | true, true => some (divEven num den)
  | true, false => some low
  | false, true => some (low + 1)
  | false, false => none

/-- Tries grids with more and more digits. Seventeen digits always read back. -/
def shortestFrom (magnitude : Nat) (top : Int) : Nat → Nat → Nat × Int
  | 0, _ => (0, 0)
  | fuel + 1, count =>
      let exponent := top - count
      match gridPoint? magnitude exponent with
      | some digits => (digits, exponent)
      | none => shortestFrom magnitude top fuel (count + 1)

/-- The fewest decimal digits that read back, and the exponent of the last. -/
def shortest (magnitude : Nat) : Nat × Int :=
  shortestFrom magnitude (leadingExponent (quantaOf magnitude)) 17 0

/-- Drops trailing zeros of a digit run, raising the exponent. -/
def strip : List Char → List Char
  | digits => ((digits.reverse).dropWhile (· = '0')).reverse

/-- The shortest text that reads back. It is positional for leading exponents
from -4 to 15 and keeps at least one digit after the point; other exponents
are written with a sign and at least two digits. -/
def text (x : Binary64) : String :=
  if x.isNaN then "nan"
  else
    let sign := if x.isNegative then "-" else ""
    if !x.isFinite then sign ++ "inf"
    else if x.magnitude = 0 then sign ++ "0.0"
    else
      let (value, exponent) := shortest x.magnitude
      let all := decimalDigits value
      let lead : Int := exponent + all.length - 1
      let digits := strip all
      let count := digits.length
      let body :=
        if lead < -4 ∨ 16 ≤ lead then
          let mantissa :=
            match digits with
            | d :: [] => [d]
            | d :: rest => d :: '.' :: rest
            | [] => []
          let size := decimalDigits lead.natAbs
          let size := if size.length < 2 then '0' :: size else size
          mantissa ++ 'e' :: (if lead < 0 then '-' else '+') :: size
        else if lead < 0 then
          '0' :: '.' :: List.replicate (-lead - 1).toNat '0' ++ digits
        else
          let whole := lead.toNat + 1
          if count ≤ whole then digits ++ List.replicate (whole - count) '0' ++ ['.', '0']
          else digits.take whole ++ '.' :: digits.drop whole
      sign ++ String.ofList body

/-- The text with exactly `places` decimal places, at least one, a half going
to the even last digit. -/
def fixed (places : Nat) (x : Binary64) : String :=
  if x.isNaN then "nan"
  else
    let sign := if x.isNegative then "-" else ""
    if !x.isFinite then sign ++ "inf"
    else
      let digits := decimalDigits (divEven (x.quanta * Nat.pow 10 places) unit)
      let digits := List.replicate (places + 1 - digits.length) '0' ++ digits
      let whole := digits.length - places
      sign ++ String.ofList (digits.take whole ++ '.' :: digits.drop whole)

end ClientAuth.Binary64

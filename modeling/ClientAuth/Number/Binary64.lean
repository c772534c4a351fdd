/-! IEEE 754 doubles by their bits. Every finite double is a whole number of
quanta, a quantum being `2 ^ -1074`, so sums, products and quotients are exact
integers or ratios that are rounded once, to nearest with ties to even. -/
namespace ClientAuth

/-- A double by its 64 bits. -/
structure Binary64 where
  bits : UInt64
deriving DecidableEq, Repr

/-- The quotient rounded to nearest, a half to the even neighbour. -/
def divEven (num den : Nat) : Nat :=
  let quotient := num / den
  let rest := num % den
  if 2 * rest < den ∨ (2 * rest = den ∧ quotient % 2 = 0) then quotient else quotient + 1

namespace Binary64

/-- The weight of the sign bit. -/
def signBit : Nat := 0x8000000000000000

/-- The number of fractions between two powers of two, which are the last 52
bits. -/
def fractions : Nat := 0x10000000000000

/-- The bits without the sign. Magnitudes of non-negative doubles are in the
order of their values. -/
def magnitude (x : Binary64) : Nat := x.bits.toNat % signBit

/-- The sign bit. -/
def isNegative (x : Binary64) : Bool := signBit ≤ x.bits.toNat

/-- The magnitude of the infinities. Greater magnitudes are not numbers. -/
def infiniteMagnitude : Nat := 2047 * fractions

def isNaN (x : Binary64) : Bool := infiniteMagnitude < x.magnitude

def isFinite (x : Binary64) : Bool := x.magnitude < infiniteMagnitude

/-- The double of a sign and a magnitude below the sign bit. -/
def ofMagnitude (negative : Bool) (magnitude : Nat) : Binary64 :=
  ⟨UInt64.ofNat (if negative then signBit + magnitude else magnitude)⟩

/-- The quiet value that is not a number, without further bits set. -/
def nan (negative : Bool) : Binary64 :=
  ofMagnitude negative (infiniteMagnitude + fractions / 2)

def infinite (negative : Bool) : Binary64 := ofMagnitude negative infiniteMagnitude

def zero (negative : Bool) : Binary64 := ofMagnitude negative 0

/-- The value of a finite magnitude in quanta. -/
def quantaOf (magnitude : Nat) : Nat :=
  let field := magnitude / fractions
  let fraction := magnitude % fractions
  if field = 0 then fraction else (fractions + fraction) * Nat.pow 2 (field - 1)

/-- The absolute value of a finite double in quanta. -/
def quanta (x : Binary64) : Nat := quantaOf x.magnitude

/-- The value of a finite double in quanta. -/
def signedQuanta (x : Binary64) : Int :=
  if x.isNegative then -(x.quanta : Int) else x.quanta

/-- Quanta in one. -/
def unit : Nat := Nat.pow 2 1074

/-- The double nearest to a ratio, or an infinity where the ratio is too
large. -/
def ofRatio (negative : Bool) (num den : Nat) : Binary64 :=
  if num = 0 then zero negative
  else
    let scale : Int := (num.log2 : Int) - den.log2
    let short : Bool :=
      if 0 ≤ scale then num < den * Nat.pow 2 scale.toNat else num * Nat.pow 2 (-scale).toNat < den
    let top : Int := if short then scale - 1 else scale
    let exponent : Int := max (top - 52) (-1074)
    let mantissa :=
      if 0 ≤ exponent then divEven num (den * Nat.pow 2 exponent.toNat)
      else divEven (num * Nat.pow 2 (-exponent).toNat) den
    ofMagnitude negative
      (min infiniteMagnitude ((exponent + 1074).toNat * fractions + mantissa))

/-- The double nearest to an integer, if it is finite. -/
def ofInt? (value : Int) : Option Binary64 :=
  let nearest := ofRatio (value < 0) value.natAbs 1
  if nearest.isFinite then some nearest else none

/-- The place of a double on the number line. Both zeros have place zero, and
what is not a number has none. -/
def rank? (x : Binary64) : Option Int :=
  if x.isNaN then none
  else some (if x.isNegative then -(x.magnitude : Int) else x.magnitude)

/-- Strictly less. Nothing is less than what is not a number, nor is that less
than anything. -/
def lt (x y : Binary64) : Bool :=
  match x.rank?, y.rank? with
  | some a, some b => a < b
  | _, _ => false

def neg (x : Binary64) : Binary64 := ofMagnitude (!x.isNegative) x.magnitude

/-- The result of an operation that has none, such as the difference of two
infinities. -/
def undefined : Binary64 := nan true

/-- The first operand that is not a number, or else what an operation gives. -/
def unlessNaN (x y : Binary64) (result : Binary64) : Binary64 :=
  if x.isNaN then x else if y.isNaN then y else result

/-- The correctly rounded sum. -/
def add (x y : Binary64) : Binary64 :=
  unlessNaN x y
    (if !x.isFinite then if y.isFinite || x.isNegative = y.isNegative then x else undefined
    else if !y.isFinite then y
    else
      let sum := x.signedQuanta + y.signedQuanta
      if sum = 0 then zero (x.isNegative && y.isNegative)
      else ofRatio (sum < 0) sum.natAbs unit)

/-- The correctly rounded difference. -/
def sub (x y : Binary64) : Binary64 := unlessNaN x y (add x y.neg)

/-- The correctly rounded product. -/
def mul (x y : Binary64) : Binary64 :=
  let negative := x.isNegative != y.isNegative
  unlessNaN x y
    (if !x.isFinite then if y.magnitude = 0 then undefined else infinite negative
    else if !y.isFinite then if x.magnitude = 0 then undefined else infinite negative
    else ofRatio negative (x.quanta * y.quanta) (unit * unit))

/-- The correctly rounded quotient by a positive whole number. -/
def divNat (x : Binary64) (count : Nat) : Binary64 :=
  if x.isFinite then ofRatio x.isNegative x.quanta (unit * count) else x

/-- The nearest double to the value rounded to `places` decimal places. A half
goes to the even last digit, and the sign of zero is kept. -/
def roundTo (places : Nat) (x : Binary64) : Binary64 :=
  if x.isFinite then
    ofRatio x.isNegative (divEven (x.quanta * Nat.pow 10 places) unit) (Nat.pow 10 places)
  else x

/-- The greatest whole number not above a finite double. -/
def floor (x : Binary64) : Int := x.signedQuanta / unit

/-- The whole number that a finite double is, if it is one. -/
def toInt? (x : Binary64) : Option Int :=
  if x.isFinite && x.quanta % unit = 0 then
    let whole : Int := (x.quanta / unit : Nat)
    some (if x.isNegative then -whole else whole)
  else none

theorem lt_iff {x y : Binary64} :
    lt x y ↔ ∃ a b, x.rank? = some a ∧ y.rank? = some b ∧ a < b := by
  unfold lt
  cases x.rank? <;> cases y.rank? <;> simp

theorem lt_trans {x y z : Binary64} (hxy : lt x y) (hyz : lt y z) : lt x z := by
  obtain ⟨a, b, hx, hy, hab⟩ := lt_iff.1 hxy
  obtain ⟨b', c, hy', hz, hbc⟩ := lt_iff.1 hyz
  obtain rfl : b = b' := Option.some.inj (hy.symm.trans hy')
  exact lt_iff.2 ⟨a, c, hx, hz, Int.lt_trans hab hbc⟩

@[simp] theorem lt_irrefl (x : Binary64) : lt x x = false := by
  unfold lt
  cases x.rank? <;> simp

@[simp] theorem not_lt_nan (x : Binary64) (negative : Bool) : lt x (nan negative) = false := by
  unfold lt
  rw [show (nan negative).rank? = none by cases negative <;> decide +kernel]
  cases x.rank? <;> rfl

end Binary64
end ClientAuth

/-! Modular exponentiation and inverses on integers. A residue takes the sign
of its modulus. -/
namespace ClientAuth.Modular

/-- The power by repeated squaring over the lowest `bits` bits of the
exponent. -/
def powerBits (modulus : Nat) : Nat → Nat → Nat → Nat
  | 0, _, _ => 1 % modulus
  | bits + 1, base, exponent =>
      let half := powerBits modulus bits (base * base % modulus) (exponent / 2)
      if exponent % 2 = 1 then base * half % modulus else half

/-- The residue of `base` to the power of `exponent`. -/
def power (modulus base exponent : Nat) : Nat :=
  powerBits modulus (exponent.log2 + 1) base exponent

/-- Why a modular power does not exist. -/
inductive PowerFault
  | zeroModulus
  | noInverse
deriving DecidableEq, Repr

/-- The Bézout step: a greatest common divisor `g` of `a` and `b`, with a factor
`x` such that `g` is congruent to `a * x` modulo `b`. -/
def bezout (a b : Nat) (x y : Int) : Nat × Int :=
  if b = 0 then (a, x) else bezout b (a % b) y (x - (a / b : Nat) * y)
termination_by b
decreasing_by exact Nat.mod_lt _ (Nat.pos_of_ne_zero (by assumption))

/-- The inverse of a residue, below the modulus, if they share no factor. -/
def inverse? (modulus value : Nat) : Option Nat :=
  match bezout value modulus 1 0 with
  | (divisor, factor) => if divisor = 1 then some (factor % modulus).toNat else none

/-- A power of any integer exponent to any modulus. A negative exponent takes
the power of the inverse, and modulus one leaves only zero. -/
def powerInt (base exponent modulus : Int) : Except PowerFault Int :=
  let width := modulus.natAbs
  if width = 0 then .error .zeroModulus
  else if width = 1 then .ok 0
  else
    let residue := (base % width).toNat
    let finish := fun (value : Nat) => (value : Int).fmod modulus
    match exponent with
    | .ofNat e => .ok (finish (power width residue e))
    | .negSucc e =>
        match inverse? width residue with
        | some inverse => .ok (finish (power width inverse (e + 1)))
        | none => .error .noInverse

end ClientAuth.Modular

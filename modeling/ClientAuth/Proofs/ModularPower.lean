import Mathlib.Algebra.Group.Nat.Defs
import ClientAuth.Crypto.ModPow

/-! Repeated squaring computes the power: `power_eq` gives the residue of the
ordinary power, for every modulus. -/
namespace ClientAuth.Modular

/-- Enough bits give the whole power. -/
theorem powerBits_eq (modulus : Nat) {bits exponent : Nat} (h : exponent < 2 ^ bits) (base : Nat) :
    powerBits modulus bits base exponent = base ^ exponent % modulus := by
  induction bits generalizing base exponent with
  | zero =>
      obtain rfl : exponent = 0 := by omega
      simp [powerBits]
  | succ bits ih =>
      have hHalf : exponent / 2 < 2 ^ bits := by omega
      have hSquare : (base * base % modulus) ^ (exponent / 2) % modulus =
          base ^ (2 * (exponent / 2)) % modulus := by
        rw [← Nat.pow_mod, Nat.pow_mul, Nat.pow_two]
      simp only [powerBits, ih hHalf, hSquare]
      split
      next hOdd =>
        conv => rhs; rw [show exponent = 2 * (exponent / 2) + 1 by omega]
        rw [Nat.pow_succ, Nat.mul_comm (base ^ _), Nat.mul_mod_mod]
      next hEven =>
        conv => rhs; rw [show exponent = 2 * (exponent / 2) by omega]

theorem power_eq (modulus base exponent : Nat) :
    power modulus base exponent = base ^ exponent % modulus :=
  powerBits_eq modulus Nat.lt_log2_self base

end ClientAuth.Modular

import Mathlib.Data.Nat.Log
import Mathlib.Tactic.Ring
import ClientAuth.Number.Binary64

/-! Which whole numbers have a double nearest to them. Main statement: `ofInt?_eq_none_iff`, the
numbers from halfway between the greatest double and the next power of two on have none. -/
namespace ClientAuth

theorem divEven_bounds (num den : Nat) :
    num / den ≤ divEven num den ∧ divEven num den ≤ num / den + 1 := by
  rw [divEven]
  split
  · omega
  · omega

@[simp] theorem divEven_one (num : Nat) : divEven num 1 = num := by
  simp [divEven, Nat.mod_one]

/-- Rounding stays below an even bound up to half a step before it. The half itself goes to the
bound. -/
theorem divEven_lt_iff {num den bound : Nat} (hDen : 0 < den) (hEven : bound % 2 = 0) :
    divEven num den < bound ↔ 2 * num + den < 2 * bound * den := by
  have hSplit : num = den * (num / den) + num % den := (Nat.div_add_mod num den).symm
  have hRest : num % den < den := Nat.mod_lt num hDen
  rw [divEven]
  generalize num / den = quotient at *
  generalize num % den = rest at *
  subst hSplit
  rcases Nat.lt_trichotomy (quotient + 1) bound with hLess | hLast | hMore
  · have hNear : 2 * (quotient + 2) * den ≤ 2 * bound * den :=
      Nat.mul_le_mul_right den (by omega)
    have hSum : 2 * (quotient + 2) * den = 2 * (den * quotient) + 4 * den := by ring
    split
    · omega
    · omega
  · have hOdd : quotient % 2 ≠ 0 := by omega
    have hSum : 2 * bound * den = 2 * (den * quotient) + 2 * den := by
      rw [← hLast]
      ring
    split
    · omega
    · omega
  · have hPast : 2 * bound * den ≤ 2 * quotient * den := Nat.mul_le_mul_right den (by omega)
    have hSum : 2 * quotient * den = 2 * (den * quotient) := by ring
    split
    · omega
    · omega

namespace Binary64

theorem magnitude_ofMagnitude (negative : Bool) {magnitude : Nat} (h : magnitude < signBit) :
    (ofMagnitude negative magnitude).magnitude = magnitude := by
  have hWord : signBit + signBit = 2 ^ 64 := by decide
  cases negative with
  | false =>
      simp only [ofMagnitude, Binary64.magnitude, UInt64.toNat_ofNat', Bool.false_eq_true, if_false]
      rw [Nat.mod_eq_of_lt (by omega : magnitude < 2 ^ 64), Nat.mod_eq_of_lt h]
  | true =>
      simp only [ofMagnitude, Binary64.magnitude, UInt64.toNat_ofNat', if_true]
      rw [Nat.mod_eq_of_lt (by omega : signBit + magnitude < 2 ^ 64), Nat.add_mod_left,
        Nat.mod_eq_of_lt h]

/-- The significand of a whole number: its first 53 binary digits, rounded if it has more. -/
def significand (num : Nat) : Nat :=
  if num.log2 < 52 then num * 2 ^ (52 - num.log2) else divEven num (2 ^ (num.log2 - 52))

theorem significand_bounds {num : Nat} (h : num ≠ 0) :
    2 ^ 52 ≤ significand num ∧ significand num ≤ 2 ^ 53 := by
  have hLow : 2 ^ num.log2 ≤ num := Nat.log2_self_le h
  have hHigh : num < 2 ^ (num.log2 + 1) := Nat.lt_log2_self
  rw [significand]
  split
  next hShort =>
    have hOne : 2 ^ num.log2 * 2 ^ (52 - num.log2) = 2 ^ 52 := by
      rw [← Nat.pow_add]
      congr 1
      omega
    have hTwo : 2 ^ (num.log2 + 1) * 2 ^ (52 - num.log2) = 2 ^ 53 := by
      rw [← Nat.pow_add]
      congr 1
      omega
    exact ⟨hOne ▸ Nat.mul_le_mul_right _ hLow, hTwo ▸ Nat.mul_le_mul_right _ hHigh.le⟩
  next hLong =>
    have hPos : 0 < 2 ^ (num.log2 - 52) := Nat.two_pow_pos _
    have hOne : 2 ^ 52 * 2 ^ (num.log2 - 52) = 2 ^ num.log2 := by
      rw [← Nat.pow_add]
      congr 1
      omega
    have hTwo : 2 ^ 53 * 2 ^ (num.log2 - 52) = 2 ^ (num.log2 + 1) := by
      rw [← Nat.pow_add]
      congr 1
      omega
    have hFirst : 2 ^ 52 ≤ num / 2 ^ (num.log2 - 52) :=
      (Nat.le_div_iff_mul_le hPos).mpr (hOne ▸ hLow)
    have hLast : num / 2 ^ (num.log2 - 52) < 2 ^ 53 :=
      (Nat.div_lt_iff_lt_mul hPos).mpr (hTwo ▸ hHigh)
    have hRound := divEven_bounds num (2 ^ (num.log2 - 52))
    omega

theorem ofRatio_one (negative : Bool) {num : Nat} (h : num ≠ 0) :
    ofRatio negative num 1 = ofMagnitude negative
      (min infiniteMagnitude ((num.log2 + 1022) * fractions + significand num)) := by
  have hLow : ¬num < 2 ^ num.log2 := Nat.not_lt.mpr (Nat.log2_self_le h)
  have hOne : Nat.log2 1 = 0 := by decide
  have hScale : (num.log2 : Int) - Nat.log2 1 = num.log2 := by
    rw [hOne]
    rfl
  have hTop : max ((num.log2 : Int) - 52) (-1074) = num.log2 - 52 := by omega
  have hShift : ((num.log2 : Int) - 52 + 1074).toNat = num.log2 + 1022 := by omega
  rw [ofRatio, if_neg h]
  simp only [hScale, Int.natCast_nonneg, if_true, Int.toNat_natCast, Nat.one_mul, Nat.pow_eq, hLow,
    decide_false, Bool.false_eq_true, if_false, hTop, hShift]
  congr 3
  rw [significand]
  by_cases hShort : num.log2 < 52
  · have hPlaces : (-((num.log2 : Int) - 52)).toNat = 52 - num.log2 := by omega
    rw [if_neg (by omega), if_pos hShort, hPlaces, divEven_one]
  · have hPlaces : ((num.log2 : Int) - 52).toNat = num.log2 - 52 := by omega
    rw [if_pos (by omega), if_neg hShort, hPlaces]

/-- Half a step past the greatest double. -/
def limit : Nat := (2 ^ 54 - 1) * 2 ^ 970

theorem isFinite_ofRatio_one (negative : Bool) (num : Nat) :
    (ofRatio negative num 1).isFinite = true ↔ num < limit := by
  have hStep : 0 < 2 ^ 970 := pow_pos Nat.two_pos 970
  rw [limit]
  by_cases hZero : num = 0
  · subst hZero
    have hFinite : (ofRatio negative 0 1).isFinite = true := by
      cases negative <;> decide
    exact iff_of_true hFinite (Nat.mul_pos (by decide) hStep)
  have hLow : 2 ^ num.log2 ≤ num := Nat.log2_self_le hZero
  have hHigh : num < 2 ^ (num.log2 + 1) := Nat.lt_log2_self
  obtain ⟨hFirst, hLast⟩ := significand_bounds hZero
  have hCap : infiniteMagnitude < signBit := by decide
  rw [ofRatio_one negative hZero, isFinite, magnitude_ofMagnitude _ (by omega), decide_eq_true_eq]
  have hWord : infiniteMagnitude = 2047 * fractions := rfl
  have hFraction : fractions = 2 ^ 52 := rfl
  rw [hWord, hFraction]
  have hDouble : 2 ^ 971 = 2 ^ 1 * 2 ^ 970 := by
    rw [← Nat.pow_add]
  rcases Nat.lt_trichotomy num.log2 1023 with hSmall | hTop | hLarge
  · have hPower : 2 ^ (num.log2 + 1) ≤ 2 ^ 1023 :=
      pow_le_pow_right₀ one_le_two hSmall
    have hSplit : 2 ^ 1023 = 2 ^ 53 * 2 ^ 970 := by
      rw [← Nat.pow_add]
    omega
  · have hEven : divEven num (2 ^ 971) < 2 ^ 53 ↔ 2 * num + 2 ^ 971 < 2 * 2 ^ 53 * 2 ^ 971 :=
      divEven_lt_iff (pow_pos Nat.two_pos 971) (by decide)
    have hLong : significand num = divEven num (2 ^ 971) := by
      rw [significand, hTop, if_neg (by decide)]
    rw [hTop]
    omega
  · have hPower : 2 ^ 1024 ≤ 2 ^ num.log2 := pow_le_pow_right₀ one_le_two hLarge
    have hSplit : 2 ^ 1024 = 2 ^ 54 * 2 ^ 970 := by
      rw [← Nat.pow_add]
    omega

/-- A whole number has no nearest double exactly when it is at least half a step past the greatest
double. -/
theorem ofInt?_eq_none_iff {value : Int} : ofInt? value = none ↔ limit ≤ value.natAbs := by
  have hFinite := isFinite_ofRatio_one (value < 0) value.natAbs
  rw [ofInt?]
  split
  next h => exact iff_of_false nofun (Nat.not_le.mpr (hFinite.mp h))
  next h => exact iff_of_true rfl (Nat.not_lt.mp (hFinite.not.mp h))

end Binary64
end ClientAuth

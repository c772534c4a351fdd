import Mathlib.Algebra.Group.Nat.Defs
import Mathlib.Data.List.Induction
import ClientAuth.Proofs.DigitPairs
import ClientAuth.Proofs.Outcome
import ClientAuth.Proofs.PlainText
import ClientAuth.Srp.Padding

/-! The bytes that a padded numeral spells: the shortest ones of a natural number
whose top bit is clear. Main statement: padding a natural number writes exactly
these bytes, while a padded negative number spells nothing. -/
namespace ClientAuth

namespace Bytes

/-- How many bytes hold a number and one more bit in front of it. -/
def signedWidth (value : Nat) : Nat := (value.log2 + 1) / 8 + 1

/-- The shortest big-endian bytes of a number whose top bit is clear. -/
def signed (value : Nat) : Bytes := ofNat (signedWidth value) value

/-- A number takes one byte more as soon as its bits fill the bytes before. -/
theorem signedWidth_eq {value width : Nat} (hUpper : value < 2 ^ (8 * width + 7))
    (hLower : width = 0 ∨ 2 ^ (8 * width - 1) ≤ value) : signedWidth value = width + 1 := by
  by_cases hZero : value = 0
  · rcases hLower with rfl | hLower
    · simp [signedWidth, hZero]
    · have hPower := Nat.two_pow_pos (8 * width - 1)
      omega
  · have hLog : value.log2 < 8 * width + 7 := (Nat.log2_lt hZero).mpr hUpper
    unfold signedWidth
    rcases hLower with rfl | hLower
    · omega
    · have hLeast : 8 * width - 1 ≤ value.log2 := (Nat.le_log2 hZero).mpr hLower
      omega

theorem toNat_lt (bytes : Bytes) : bytes.toNat < 256 ^ bytes.length := by
  induction bytes using List.reverseRec with
  | nil => decide
  | append_singleton bytes byte ih =>
      have hByte : byte.toNat < 256 := byte.toNat_lt
      rw [toNat_concat, List.length_append, List.length_singleton, Nat.pow_succ]
      omega

end Bytes

namespace Hex

/-- A numeral begins with the digit of its highest place, which is zero for the
number zero only. -/
theorem exists_leading_digit (value : Nat) :
    ∃ lead rest, digits value = digit lead :: rest ∧ lead < 16 ∧
      lead * 16 ^ rest.length ≤ value ∧ value < (lead + 1) * 16 ^ rest.length ∧
      (lead = 0 → rest = []) := by
  fun_induction digits value with
  | case1 value hSmall => exact ⟨value, [], rfl, hSmall, by simp, by simp, fun _ => rfl⟩
  | case2 value hLarge ih =>
      obtain ⟨lead, rest, hDigits, hLead, hLower, hUpper, hRest⟩ := ih
      refine ⟨lead, rest ++ [digit (value % 16)], by simp [hDigits], hLead, ?_, ?_, ?_⟩
      · simp only [List.length_append, List.length_singleton, Nat.pow_succ, ← Nat.mul_assoc]
        omega
      · simp only [List.length_append, List.length_singleton, Nat.pow_succ, ← Nat.mul_assoc]
        omega
      · intro hZero
        rw [hRest hZero, hZero] at hUpper
        simp at hUpper
        omega

theorem exists_digit_of_mem_digits {c : Char} {value : Nat} (h : c ∈ digits value) :
    ∃ place < 16, c = digit place := by
  fun_induction digits value with
  | case1 value hSmall => exact ⟨value, hSmall, by simpa using h⟩
  | case2 value hLarge ih =>
      rcases List.mem_append.mp h with h | h
      · exact ih h
      · exact ⟨value % 16, by omega, by simpa using h⟩

theorem digit_ne_mark {value : Nat} (h : value < 16) : digit value ≠ Text.mark := by
  revert value
  decide

/-- A numeral has as many code points as digits. -/
theorem length_codes_digits (value : Nat) :
    (Text.codes (digits value)).length = (digits value).length := by
  have hPlain (c : Char) (h : c ∈ digits value) : c ≠ Text.mark := by
    obtain ⟨place, hPlace, rfl⟩ := exists_digit_of_mem_digits h
    exact digit_ne_mark hPlace
  rw [Text.codes_eq_map hPlain, List.length_map]

/-- A fixed number of digits, the high ones zero where the number has none. -/
def fixedDigits : Nat → Nat → List Char
  | 0, _ => []
  | count + 1, value => fixedDigits count (value / 16) ++ [digit (value % 16)]

/-- A byte is two digits, so that a width in bytes is twice as many digits. -/
theorem flatMap_pair_ofNat (width value : Nat) :
    (Bytes.ofNat width value).flatMap pair = fixedDigits (2 * width) value := by
  induction width generalizing value with
  | zero => rfl
  | succ width ih =>
      have hByte : (UInt8.ofNat (value % 256)).toNat = value % 256 := by
        simp [UInt8.toNat_ofNat']
      have hHigh : value % 256 / 16 = value / 16 % 16 := by omega
      have hLow : value % 256 % 16 = value % 16 := by omega
      rw [Bytes.ofNat, List.flatMap_append, List.flatMap_singleton, ih, pair, hByte, hHigh, hLow,
        Nat.mul_succ, fixedDigits, fixedDigits, Nat.div_div_eq_div_mul, List.append_assoc]
      rfl

theorem fixedDigits_zero (count : Nat) : fixedDigits count 0 = List.replicate count '0' := by
  induction count with
  | zero => rfl
  | succ count ih =>
      rw [fixedDigits, ih, List.replicate_succ']
      rfl

/-- A number that fits is its numeral behind zeros. -/
theorem fixedDigits_eq {count value : Nat} (h : value < 16 ^ (count + 1)) :
    ∃ zeros, zeros + (digits value).length = count + 1 ∧
      fixedDigits (count + 1) value = List.replicate zeros '0' ++ digits value := by
  induction count generalizing value with
  | zero =>
      have hDigits : digits value = [digit value] := digits_of_lt (by simpa using h)
      refine ⟨0, by simp [hDigits], ?_⟩
      simp [fixedDigits, hDigits, Nat.mod_eq_of_lt (show value < 16 by simpa using h)]
  | succ count ih =>
      by_cases hSmall : value < 16
      · refine ⟨count + 1, by simp [digits_of_lt hSmall], ?_⟩
        rw [fixedDigits, Nat.div_eq_of_lt hSmall, fixedDigits_zero, digits_of_lt hSmall,
          Nat.mod_eq_of_lt hSmall]
      · have hQuotient : value / 16 < 16 ^ (count + 1) := by
          rw [Nat.pow_succ] at h
          omega
        obtain ⟨zeros, hLength, hText⟩ := ih hQuotient
        have hDigits : digits value = digits (value / 16) ++ [digit (value % 16)] := by
          rw [digits, if_neg hSmall]
        refine ⟨zeros, by simp [hDigits]; omega, ?_⟩
        rw [fixedDigits, hText, hDigits, List.append_assoc]

end Hex

namespace Srp

theorem isHighDigit_digit {value : Nat} (h : value < 16) :
    isHighDigit (Hex.digit value) = decide (8 ≤ value) := by
  revert value
  decide

/-- A number's width is read off the count of its digits and the highest one. -/
theorem signedWidth_of_digits {value lead count : Nat} (hLead : lead < 16)
    (hLower : lead * 16 ^ count ≤ value) (hUpper : value < (lead + 1) * 16 ^ count)
    (hCount : lead = 0 → count = 0) :
    2 * Bytes.signedWidth value =
      count + 1 + if count % 2 = 0 then 1 else if 8 ≤ lead then 2 else 0 := by
  have hPlace : 16 ^ count = 2 ^ (4 * count) := by rw [Nat.pow_mul]
  rw [hPlace] at hLower hUpper
  have hBelow (bits width : Nat) (hBits : lead + 1 ≤ 2 ^ bits)
      (hWidth : bits + 4 * count ≤ 8 * width + 7) : value < 2 ^ (8 * width + 7) := calc
    value < (lead + 1) * 2 ^ (4 * count) := hUpper
    _ ≤ 2 ^ bits * 2 ^ (4 * count) := Nat.mul_le_mul_right _ hBits
    _ = 2 ^ (bits + 4 * count) := (Nat.pow_add ..).symm
    _ ≤ 2 ^ (8 * width + 7) := Nat.pow_le_pow_right (by decide) hWidth
  have hAbove (bits width : Nat) (hBits : 2 ^ bits ≤ lead)
      (hWidth : 8 * width - 1 ≤ bits + 4 * count) : 2 ^ (8 * width - 1) ≤ value := calc
    2 ^ (8 * width - 1) ≤ 2 ^ (bits + 4 * count) := Nat.pow_le_pow_right (by decide) hWidth
    _ = 2 ^ bits * 2 ^ (4 * count) := Nat.pow_add ..
    _ ≤ lead * 2 ^ (4 * count) := Nat.mul_le_mul_right _ hBits
    _ ≤ value := hLower
  obtain ⟨half, hHalf⟩ : ∃ half, count = 2 * half ∨ count = 2 * half + 1 := ⟨count / 2, by omega⟩
  rcases hHalf with hEven | hOdd
  · have hLeast : half = 0 ∨ 2 ^ (8 * half - 1) ≤ value := by
      by_cases hZero : half = 0
      · exact Or.inl hZero
      · exact Or.inr (hAbove 0 half (by omega) (by omega))
    rw [Bytes.signedWidth_eq (hBelow 4 half (by omega) (by omega)) hLeast, if_pos (by omega)]
    omega
  · rw [if_neg (by omega)]
    by_cases hHigh : 8 ≤ lead
    · rw [Bytes.signedWidth_eq (hBelow 4 (half + 1) (by omega) (by omega))
        (Or.inr (hAbove 3 (half + 1) hHigh (by omega))), if_pos hHigh]
      omega
    · rw [Bytes.signedWidth_eq (hBelow 3 half (by omega) (by omega))
        (Or.inr (hAbove 0 half (by omega) (by omega))), if_neg hHigh]
      omega

theorem lt_pow_signedWidth (value : Nat) : value < 16 ^ (2 * Bytes.signedWidth value) := by
  have hLog : value < 2 ^ (value.log2 + 1) := Nat.lt_log2_self
  calc
    value < 2 ^ (value.log2 + 1) := hLog
    _ ≤ 2 ^ (4 * (2 * Bytes.signedWidth value)) :=
      Nat.pow_le_pow_right (by decide) (by unfold Bytes.signedWidth; omega)
    _ = 16 ^ (2 * Bytes.signedWidth value) := by rw [Nat.pow_mul]

/-- Padding fills a numeral up to the digits of the signed bytes. -/
theorem padDigits?_digits (value : Nat) :
    padDigits? (Hex.digits value) = some ((Bytes.signed value).flatMap Hex.pair) := by
  obtain ⟨lead, rest, hDigits, hLead, hLower, hUpper, hRest⟩ := Hex.exists_leading_digit value
  have hWidth := signedWidth_of_digits hLead hLower hUpper (fun h => by rw [hRest h]; rfl)
  have hFits := lt_pow_signedWidth value
  rw [Bytes.signed, Hex.flatMap_pair_ofNat]
  obtain ⟨count, hCount⟩ : ∃ count, 2 * Bytes.signedWidth value = count + 1 :=
    ⟨2 * Bytes.signedWidth value - 1, by unfold Bytes.signedWidth; omega⟩
  rw [hCount] at hWidth hFits ⊢
  obtain ⟨zeros, hZeros, hText⟩ := Hex.fixedDigits_eq hFits
  rw [hDigits, List.length_cons] at hZeros
  rw [hText, padDigits?.eq_def, Hex.length_codes_digits, hDigits, List.length_cons]
  split
  next hOdd =>
    rw [if_pos (by omega)] at hWidth
    obtain rfl : zeros = 1 := by omega
    rfl
  next hEven =>
    rw [if_neg (by omega)] at hWidth
    simp only [isHighDigit_digit hLead, decide_eq_true_eq]
    split at hWidth
    next hHigh =>
      obtain rfl : zeros = 2 := by omega
      rw [if_pos hHigh]
      rfl
    next hLow =>
      obtain rfl : zeros = 0 := by omega
      rw [if_neg hLow]
      rfl

/-- A padded natural number is the numeral of its signed bytes. -/
theorem padInt_natCast (value : Nat) : padInt value = .ok (Hex.encode (Bytes.signed value)) := by
  have hText : (Hex.ofInt value).toList = Hex.digits value := String.toList_ofList
  rw [padInt, padText, hText, padDigits?_digits]
  rfl

theorem hexBytes_encode (bytes : Bytes) : hexBytes (Hex.encode bytes) = .ok bytes := by
  rw [hexBytes, Hex.decode?_encode, Outcome.orHalt_some]

/-- Padding only puts zeros in front. -/
theorem exists_padDigits?_eq {digits : List Char} (h : digits ≠ []) :
    ∃ zeros, padDigits? digits = some (zeros ++ digits) := by
  unfold padDigits?
  split
  · exact ⟨['0'], rfl⟩
  · cases digits with
    | nil => contradiction
    | cons c rest =>
        dsimp only
        split
        · exact ⟨['0', '0'], rfl⟩
        · exact ⟨[], rfl⟩

/-- A padded negative number keeps its sign, which no reader of digit pairs
takes, whatever stands around it. -/
theorem padInt_of_neg {value : Int} (h : value < 0) :
    ∃ text, padInt value = .ok text ∧ '-' ∈ text.toList := by
  have hMinus := Hex.minus_mem_ofInt h
  obtain ⟨zeros, hPadded⟩ := exists_padDigits?_eq (List.ne_nil_of_mem hMinus)
  refine ⟨String.ofList (zeros ++ (Hex.ofInt value).toList), ?_, ?_⟩
  · rw [padInt, padText, hPadded]
    rfl
  · rw [String.toList_ofList]
    exact List.mem_append_right _ hMinus

end Srp
end ClientAuth

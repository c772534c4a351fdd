import ClientAuth.Proofs.SignedBytes
import ClientAuth.Proofs.TextPieces

/-! Numerals read back. The reader takes much more than the writer writes: blanks, signs,
base marks, underscores and the digits of every script. Main statements: a text of plain
digits is read digit by digit, and what is written of a natural number is read as that
number, however long it is. -/
namespace ClientAuth

namespace Hex

/-- A plain digit, of either case. -/
def IsDigit (c : Char) : Prop := c ∈ "0123456789abcdefABCDEF".toList

instance : DecidablePred IsDigit := fun c => List.instDecidableMemOfLawfulBEq c _

/-- What holds of each of the digits. -/
theorem IsDigit.of_all {c : Char} (h : IsDigit c) (p : Char → Prop) [DecidablePred p]
    (hAll : ("0123456789abcdefABCDEF".toList.all fun c => decide (p c)) = true) : p c :=
  of_decide_eq_true (List.all_eq_true.mp hAll c h)

/-- A digit stands for one place, whether digits are read singly or in pairs. -/
theorem IsDigit.exists_place {c : Char} (h : IsDigit c) :
    ∃ place < 16, Text.hexDigit? c = some place ∧ asciiDigit? c = some place := by
  have hBoth := h.of_all
    (fun c => (Text.hexDigit? c).isSome = true ∧ asciiDigit? c = Text.hexDigit? c) (by decide)
  obtain ⟨hSome, hPair⟩ := hBoth
  obtain ⟨place, hPlace⟩ := Option.isSome_iff_exists.mp hSome
  exact ⟨place, Text.hexDigit?_lt hPlace, hPlace, hPair.trans hPlace⟩

/-- No digit is a blank, a sign, an underscore, the letter of a base mark or the mark of a half. -/
theorem IsDigit.plain {c : Char} (h : IsDigit c) :
    Text.isBlank c = false ∧ Text.isAsciiBlank c = false ∧ Text.plainDigit c = c ∧
      c ∉ ['-', '+', '_', 'x', 'X', Text.mark] :=
  h.of_all (fun c => Text.isBlank c = false ∧ Text.isAsciiBlank c = false ∧
    Text.plainDigit c = c ∧ c ∉ ['-', '+', '_', 'x', 'X', Text.mark]) (by decide)

theorem isDigit_digit {place : Nat} (h : place < 16) : IsDigit (digit place) := by
  revert place
  decide

theorem isDigit_of_mem_digits {c : Char} {value : Nat} (h : c ∈ digits value) : IsDigit c := by
  obtain ⟨place, hPlace, rfl⟩ := exists_digit_of_mem_digits h
  exact isDigit_digit hPlace

theorem digitsValue?_cons {c : Char} {place : Nat} (hDigit : IsDigit c)
    (hPlace : Text.hexDigit? c = some place) (fresh : Bool) (start : Nat) (rest : List Char) :
    digitsValue? fresh start (c :: rest) = digitsValue? false (16 * start + place) rest := by
  have hMark := hDigit.plain.2.2.2
  rw [digitsValue?, if_neg (by grind), hPlace]

/-- The digits of a number are read as that number, and reading goes on with it. -/
theorem digitsValue?_digits_append (fresh : Bool) (value : Nat) (rest : List Char) :
    digitsValue? fresh 0 (digits value ++ rest) = digitsValue? false value rest := by
  have hRead : ∀ place < 16, Text.hexDigit? (digit place) = some place := by decide
  fun_induction digits value generalizing rest with
  | case1 value hSmall =>
      simpa using digitsValue?_cons (isDigit_digit hSmall) (hRead value hSmall) fresh 0 rest
  | case2 value hLarge ih =>
      have hPlace : value % 16 < 16 := by omega
      rw [List.append_assoc, ih, List.singleton_append,
        digitsValue?_cons (isDigit_digit hPlace) (hRead _ hPlace), Nat.div_add_mod]

/-- Digits have no base mark that could be dropped. -/
theorem dropMark_of_digits {text : List Char} (h : ∀ c ∈ text, IsDigit c) :
    dropMark text = text := by
  rw [dropMark.eq_def]
  split
  next x rest =>
    have hMark := (h x (by simp)).plain.2.2.2
    rw [if_neg (by grind)]
  next => rfl

/-- Of a text of digits nothing is dropped before it is read. -/
theorem toInt?_of_digits {text : List Char} (h : ∀ c ∈ text, IsDigit c) :
    toInt? (String.ofList text) = (digitsValue? true 0 text).map Int.ofNat := by
  have hTrim : (Text.trim Text.isBlank (String.ofList text).toList).map Text.plainDigit = text := by
    rw [String.toList_ofList, Text.trim_eq_self fun c hMem => (h c hMem).plain.1]
    exact (List.map_congr_left fun c hMem => (h c hMem).plain.2.2.1).trans (List.map_id _)
  rw [toInt?, hTrim]
  split
  next => exact absurd (h '-' List.mem_cons_self) (by decide)
  next => exact absurd (h '+' List.mem_cons_self) (by decide)
  next => rw [dropMark_of_digits h]

/-- A written number is read as itself. -/
theorem toInt?_ofNat (value : Nat) : toInt? (ofNat value) = some (value : Int) := by
  have hRead : digitsValue? true 0 (digits value) = some value := by
    simpa [digitsValue?] using digitsValue?_digits_append true value []
  rw [ofNat, toInt?_of_digits fun c => isDigit_of_mem_digits, hRead]
  rfl

/-- A written number is not empty. -/
theorem ofNat_ne_empty (value : Nat) : ofNat value ≠ "" := by
  intro hEmpty
  have hDigits : digits value = [] := by
    simpa [ofNat] using congrArg String.toList hEmpty
  exact digits_ne_nil value hDigits

end Hex
end ClientAuth

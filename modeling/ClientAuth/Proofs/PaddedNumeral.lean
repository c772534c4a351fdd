import Mathlib.Tactic.Ring
import ClientAuth.Proofs.NumeralText

/-! Padded numerals. Padding makes digits spell whole bytes whose top bit is clear, and keeps
their value. Main statement: `pad_shortest`, of a natural number no fewer bytes of that kind
read as it, so that numbers that are padded alike are one; a negative number spells no bytes. -/
namespace ClientAuth

namespace Bytes

/-- There is a first byte, and its top bit is clear. -/
def TopClear (bytes : Bytes) : Prop := ∃ first rest, bytes = first :: rest ∧ first.toNat < 128

/-- Bytes stand for a number: their top bit is clear, they read as the number, and no fewer
bytes with a clear top bit do. -/
structure Shortest (bytes : Bytes) (value : Nat) : Prop where
  topClear : bytes.TopClear
  reads : bytes.toNat = value
  least : ∀ other : Bytes, other.TopClear → other.toNat = value → bytes.length ≤ other.length

/-- What has been read goes in front of what is still to be read. -/
theorem foldl_eq (bytes : Bytes) (start : Nat) :
    bytes.foldl (fun value byte => 256 * value + byte.toNat) start =
      start * 256 ^ bytes.length + bytes.toNat := by
  induction bytes generalizing start with
  | nil => simp
  | cons byte bytes ih =>
      rw [List.foldl_cons, toNat, List.foldl_cons, ih, ih (256 * 0 + byte.toNat), List.length_cons]
      ring

theorem TopClear.toNat_lt {bytes : Bytes} (h : bytes.TopClear) :
    bytes.toNat < 2 ^ (8 * (bytes.length - 1) + 7) := by
  obtain ⟨first, rest, rfl, hFirst⟩ := h
  have hRest : Bytes.toNat rest < 256 ^ rest.length := Bytes.toNat_lt rest
  have hPower : 2 ^ (8 * rest.length + 7) = 128 * 256 ^ rest.length := by
    rw [Nat.pow_add, Nat.pow_mul, Nat.mul_comm]
  have hMost : (first.toNat + 1) * 256 ^ rest.length ≤ 128 * 256 ^ rest.length :=
    Nat.mul_le_mul_right _ hFirst
  rw [Nat.add_mul, Nat.one_mul] at hMost
  rw [toNat, List.foldl_cons, foldl_eq, Nat.mul_zero, Nat.zero_add, List.length_cons,
    Nat.add_sub_cancel, hPower]
  omega

/-- Bytes with a clear top bit are at least as many as their number needs. -/
theorem TopClear.signedWidth_le {bytes : Bytes} (h : bytes.TopClear) :
    signedWidth bytes.toNat ≤ bytes.length := by
  have hLength : 0 < bytes.length := by
    obtain ⟨first, rest, rfl, -⟩ := h
    exact Nat.succ_pos _
  rw [signedWidth]
  by_cases hZero : bytes.toNat = 0
  · rw [hZero]
    exact hLength
  · have hLog := (Nat.log2_lt hZero).mpr h.toNat_lt
    omega

end Bytes

namespace Hex

variable {text : List Char}

theorem length_codes_of_digits (h : ∀ c ∈ text, IsDigit c) :
    (Text.codes text).length = text.length := by
  have hMark (c : Char) (hMem : c ∈ text) : c ≠ Text.mark :=
    fun hSame => (h c hMem).plain.2.2.2 (by simp [hSame])
  rw [Text.codes_eq_map hMark, List.length_map]

/-- Two digits spell one byte, which the reader of numerals takes in at one step as well. -/
theorem exists_byte {c d : Char} (hHigh : IsDigit c) (hLow : IsDigit d) (rest : List Char) :
    ∃ byte : UInt8, ∃ high < 16, Text.hexDigit? c = some high ∧ byte.toNat / 16 = high ∧
      decodeChars? (c :: d :: rest) = (decodeChars? rest).map (byte :: ·) ∧
      ∀ fresh start, digitsValue? fresh start (c :: d :: rest) =
        digitsValue? false (256 * start + byte.toNat) rest := by
  obtain ⟨high, hHighLt, hHighValue, hHighPair⟩ := hHigh.exists_place
  obtain ⟨low, hLowLt, hLowValue, hLowPair⟩ := hLow.exists_place
  have hByte : (UInt8.ofNat (16 * high + low)).toNat = 16 * high + low := by
    rw [UInt8.toNat_ofNat', Nat.mod_eq_of_lt (by omega)]
  refine ⟨UInt8.ofNat (16 * high + low), high, hHighLt, hHighValue, by omega, ?_, ?_⟩
  · rw [decodeChars?, hHigh.plain.2.1, hHighPair, hLowPair]
    cases decodeChars? rest <;> rfl
  · intro fresh start
    rw [digitsValue?_cons hHigh hHighValue, digitsValue?_cons hLow hLowValue, hByte]
    congr 1
    omega

/-- Digits in pairs are read as bytes, and the bytes have the value of the digits. -/
theorem exists_bytes (text : List Char) (h : ∀ c ∈ text, IsDigit c)
    (hWhole : text.length % 2 = 0) :
    ∃ bytes : Bytes, decodeChars? text = some bytes ∧
      ∀ start, digitsValue? false start text =
        some (bytes.foldl (fun value byte => 256 * value + byte.toNat) start) := by
  match text with
  | [] => exact ⟨[], rfl, fun start => rfl⟩
  | [c] => simp at hWhole
  | c :: d :: rest =>
      obtain ⟨byte, -, -, -, -, hPair, hValue⟩ :=
        exists_byte (h c (by simp)) (h d (by simp)) rest
      obtain ⟨bytes, hBytes, hRest⟩ := exists_bytes rest (fun e hMem => h e (by simp [hMem]))
        (by rw [List.length_cons, List.length_cons] at hWhole; omega)
      refine ⟨byte :: bytes, by rw [hPair, hBytes]; rfl, fun start => ?_⟩
      rw [hValue, hRest, List.foldl_cons]

/-- It makes no difference to a digit whether one has been read before it. -/
theorem digitsValue?_true (h : ∀ c ∈ text, IsDigit c) (hSome : text ≠ []) (start : Nat) :
    digitsValue? true start text = digitsValue? false start text := by
  cases text with
  | nil => exact absurd rfl hSome
  | cons c rest =>
      have hDigit := h c List.mem_cons_self
      obtain ⟨place, -, hPlace, -⟩ := hDigit.exists_place
      rw [digitsValue?_cons hDigit hPlace, digitsValue?_cons hDigit hPlace]

/-- Zeros in front of digits do not count. -/
theorem digitsValue?_zeros (h : ∀ c ∈ text, IsDigit c) (hSome : text ≠ []) (zeros : Nat) :
    digitsValue? true 0 (List.replicate zeros '0' ++ text) = digitsValue? true 0 text := by
  have hZero : IsDigit '0' := by decide
  have hAll (fresh : Bool) (zeros : Nat) :
      digitsValue? fresh 0 (List.replicate zeros '0' ++ text) = digitsValue? fresh 0 text := by
    induction zeros generalizing fresh with
    | zero => rfl
    | succ zeros ih =>
        have hValue : Text.hexDigit? '0' = some 0 := rfl
        rw [List.replicate_succ, List.cons_append, digitsValue?_cons hZero hValue, ih]
        cases fresh with
        | false => rfl
        | true => exact (digitsValue?_true h hSome 0).symm
  exact hAll true zeros

end Hex

namespace Srp

variable {text : List Char}

theorem isHighDigit_of_isDigit {c : Char} {place : Nat} (h : Hex.IsDigit c)
    (hPlace : Text.hexDigit? c = some place) : isHighDigit c = decide (8 ≤ place) := by
  have hHigh := h.of_all
    (fun c => isHighDigit c = (Text.hexDigit? c).any fun place => decide (8 ≤ place)) (by decide)
  rw [hHigh, hPlace, Option.any_some]

/-- Digits that need no padding: they are pairs, and the first one is low. -/
structure IsPadded (text : List Char) : Prop where
  digits : ∀ c ∈ text, Hex.IsDigit c
  whole : text.length % 2 = 0
  low : ∃ first rest, text = first :: rest ∧ isHighDigit first = false

theorem IsPadded.padDigits?_eq (h : IsPadded text) : padDigits? text = some text := by
  obtain ⟨first, rest, rfl, hLow⟩ := h.low
  rw [padDigits?, Hex.length_codes_of_digits h.digits, h.whole, if_neg (by decide), hLow]
  rfl

/-- Padding puts zeros in front of digits until they need no more. -/
theorem padDigits?_of_digits (h : ∀ c ∈ text, Hex.IsDigit c) (hSome : text ≠ []) :
    ∃ zeros, padDigits? text = some (List.replicate zeros '0' ++ text) ∧
      IsPadded (List.replicate zeros '0' ++ text) := by
  have hZeros (zeros : Nat) : ∀ c ∈ List.replicate zeros '0' ++ text, Hex.IsDigit c := by
    intro c hMem
    rcases List.mem_append.mp hMem with hZero | hText
    · rw [List.eq_of_mem_replicate hZero]
      decide
    · exact h c hText
  rw [padDigits?.eq_def, Hex.length_codes_of_digits h]
  split
  next hOdd =>
    refine ⟨1, rfl, hZeros 1, ?_, '0', text, rfl, by decide⟩
    rw [List.length_append, List.length_replicate]
    omega
  next hEven =>
    cases text with
    | nil => exact absurd rfl hSome
    | cons c rest =>
        dsimp only
        split
        next hHigh =>
          refine ⟨2, rfl, hZeros 2, ?_, '0', '0' :: c :: rest, rfl, by decide⟩
          rw [List.length_append, List.length_replicate]
          omega
        next hLow =>
          exact ⟨0, rfl, h, by rw [List.replicate_zero, List.nil_append]; omega, c, rest, rfl,
            Bool.not_eq_true _ ▸ hLow⟩

/-- What needs no padding spells bytes with a clear top bit, of the value of the digits. -/
theorem IsPadded.exists_bytes (h : IsPadded text) :
    ∃ bytes : Bytes, Hex.decodeChars? text = some bytes ∧ bytes.TopClear ∧
      Hex.digitsValue? true 0 text = some bytes.toNat := by
  obtain ⟨first, rest, rfl, hLow⟩ := h.low
  cases rest with
  | nil => nomatch h.whole
  | cons second rest =>
      have hFirst := h.digits first (by simp)
      obtain ⟨byte, high, -, hHigh, hByte, hPair, hValue⟩ :=
        Hex.exists_byte hFirst (h.digits second (by simp)) rest
      have hWhole : rest.length % 2 = 0 := by
        have hPairs := h.whole
        rw [List.length_cons, List.length_cons] at hPairs
        omega
      obtain ⟨bytes, hBytes, hRest⟩ := Hex.exists_bytes rest
        (fun c hMem => h.digits c (by simp [hMem])) hWhole
      rw [isHighDigit_of_isDigit hFirst hHigh, decide_eq_false_iff_not] at hLow
      exact ⟨byte :: bytes, by rw [hPair, hBytes]; rfl, ⟨byte, bytes, rfl, by omega⟩,
        by rw [hValue, hRest]; rfl⟩

/-- Padded digits are padded for good, and spell bytes that keep the value of the digits. -/
theorem padText_of_digits {text : String} (hSome : text ≠ "")
    (h : ∀ c ∈ text.toList, Hex.IsDigit c) :
    ∃ padded bytes, padText text = .ok padded ∧ padText padded = .ok padded ∧
      hexBytes padded = .ok bytes ∧ bytes.TopClear ∧
      Hex.toInt? text = some (bytes.toNat : Int) ∧
      Hex.toInt? padded = some (bytes.toNat : Int) := by
  have hChars : text.toList ≠ [] := mt String.toList_eq_nil_iff.mp hSome
  obtain ⟨zeros, hPadded, hForm⟩ := padDigits?_of_digits h hChars
  obtain ⟨bytes, hBytes, hTop, hValue⟩ := hForm.exists_bytes
  have hText := Hex.toInt?_of_digits h
  rw [String.ofList_toList, ← Hex.digitsValue?_zeros h hChars zeros, hValue] at hText
  refine ⟨String.ofList (List.replicate zeros '0' ++ text.toList), bytes, ?_, ?_, ?_, hTop, hText,
    ?_⟩
  · rw [padText, hPadded]
    rfl
  · rw [padText, String.toList_ofList, hForm.padDigits?_eq]
    rfl
  · rw [hexBytes, Hex.decode?, String.toList_ofList, hBytes]
    rfl
  · rw [Hex.toInt?_of_digits hForm.digits, hValue]
    rfl

/-- The signed bytes of a number are the shortest ones that stand for it. -/
theorem padInt_shortest (value : Nat) :
    ∃ text bytes, padInt value = .ok text ∧ hexBytes text = .ok bytes ∧ bytes.Shortest value ∧
      Hex.toInt? text = some (value : Int) ∧ padText text = .ok text := by
  obtain ⟨padded, bytes, hPadded, hFixed, hBytes, hTop, hText, hValue⟩ :=
    padText_of_digits (Hex.ofNat_ne_empty value) fun c hMem =>
      Hex.isDigit_of_mem_digits (by rwa [Hex.ofNat, String.toList_ofList] at hMem)
  have hReads : bytes.toNat = value := by
    rw [Hex.toInt?_ofNat, Option.some_inj] at hText
    exact (Int.ofNat_inj.mp hText).symm
  have hSigned : bytes = Bytes.signed value := by
    have hSame : padInt value = .ok padded := hPadded
    rw [padInt_natCast] at hSame
    rw [← Except.ok.inj hSame, hexBytes_encode] at hBytes
    exact (Except.ok.inj hBytes).symm
  refine ⟨padded, bytes, hPadded, hBytes, ⟨hTop, hReads, ?_⟩, hReads ▸ hValue, hFixed⟩
  intro other hOther hSame
  rw [hSigned, Bytes.signed, Bytes.length_ofNat, ← hSame]
  exact hOther.signedWidth_le

/-- Padding writes a natural number as the shortest bytes with a clear top bit that read as it;
the text is read back as the number and is padded already, and no other number has it. Of digits of
either case, whatever zeros they have in front, it keeps the value and makes bytes with a clear top
bit, once and for all. What it writes of a negative number are no bytes. -/
theorem pad_shortest :
    (∀ value : Nat, ∃ text bytes, padInt value = .ok text ∧ hexBytes text = .ok bytes ∧
      bytes.Shortest value ∧ Hex.toInt? text = some (value : Int) ∧ padText text = .ok text) ∧
      (∀ first second : Nat, padInt first = padInt second → first = second) ∧
      (∀ text : String, text ≠ "" → (∀ c ∈ text.toList, Hex.IsDigit c) →
        ∃ padded bytes value, padText text = .ok padded ∧ padText padded = .ok padded ∧
          hexBytes padded = .ok bytes ∧ bytes.TopClear ∧ Bytes.toNat bytes = value ∧
          Hex.toInt? text = some (value : Int) ∧ Hex.toInt? padded = some (value : Int)) ∧
      ∀ value : Int, value < 0 →
        ∃ text, padInt value = .ok text ∧ hexBytes text = .halt .notHex := by
  refine ⟨padInt_shortest, fun first second hSame => ?_, fun text hSome hDigits => ?_,
    fun value hNegative => ?_⟩
  · obtain ⟨text, -, hFirst, -, -, hFirstValue, -⟩ := padInt_shortest first
    obtain ⟨other, -, hSecond, -, -, hSecondValue, -⟩ := padInt_shortest second
    obtain rfl : text = other := Except.ok.inj (hFirst.symm.trans (hSame.trans hSecond))
    exact Int.ofNat_inj.mp (Option.some.inj (hFirstValue.symm.trans hSecondValue))
  · obtain ⟨padded, bytes, hPadded, hFixed, hBytes, hTop, hText, hValue⟩ :=
      padText_of_digits hSome hDigits
    exact ⟨padded, bytes, _, hPadded, hFixed, hBytes, hTop, rfl, hText, hValue⟩
  · obtain ⟨text, hText, hMinus⟩ := padInt_of_neg hNegative
    refine ⟨text, hText, ?_⟩
    rw [hexBytes, Hex.decode?_eq_none_of_minus hMinus]
    rfl

/-- The first number with a high first digit, an even number of high digits in both cases, and a
negative number. -/
theorem pad_shortest_high_digits :
    (∃ bytes, padInt 128 = .ok "0080" ∧ hexBytes "0080" = .ok bytes ∧ bytes.Shortest 128) ∧
      (∃ bytes, padText "Ff" = .ok "00Ff" ∧ padText "00Ff" = .ok "00Ff" ∧
        hexBytes "00Ff" = .ok bytes ∧ bytes.TopClear ∧ Bytes.toNat bytes = 255) ∧
      ∃ text, padInt (-1) = .ok text ∧ hexBytes text = .halt .notHex := by
  obtain ⟨hNumber, -, hDigits, hNegative⟩ := pad_shortest
  refine ⟨?_, ?_, hNegative (-1) (by decide)⟩
  · obtain ⟨text, bytes, hText, hBytes, hShortest, -⟩ := hNumber 128
    have hPadded : padInt 128 = .ok "0080" := (padInt_natCast 128).trans rfl
    obtain rfl : text = "0080" := Except.ok.inj (hText.symm.trans hPadded)
    exact ⟨bytes, hPadded, hBytes, hShortest⟩
  · have hHigh : ("Ff".toList.all fun c => decide (Hex.IsDigit c)) = true := by decide
    obtain ⟨text, bytes, value, hText, hFixed, hBytes, hTop, hReads, hValue, -⟩ :=
      hDigits "Ff" (by decide) fun c hMem => of_decide_eq_true (List.all_eq_true.mp hHigh c hMem)
    have hPadded : padText "Ff" = .ok "00Ff" := rfl
    obtain rfl : text = "00Ff" := Except.ok.inj (hText.symm.trans hPadded)
    have h255 : Hex.toInt? "Ff" = some 255 := by decide +kernel
    rw [h255, Option.some_inj] at hValue
    exact ⟨bytes, hPadded, hFixed, hBytes, hTop, hReads.trans (Int.ofNat_inj.mp hValue.symm)⟩

end Srp
end ClientAuth

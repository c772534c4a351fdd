import ClientAuth.Hex

/-! Bytes as digit pairs. What `Hex.encode` writes reads back, also in front of
other digit pairs, and no text with a minus sign can be read. -/
namespace ClientAuth.Hex

/-- The two digits of a byte. -/
def pair (byte : UInt8) : List Char := [digit (byte.toNat / 16), digit (byte.toNat % 16)]

theorem toList_encode (bytes : Bytes) : (encode bytes).toList = bytes.flatMap pair :=
  String.toList_ofList

theorem asciiDigit?_digit {value : Nat} (h : value < 16) :
    asciiDigit? (digit value) = some value := by
  revert value
  decide

theorem isAsciiBlank_digit {value : Nat} (h : value < 16) :
    Text.isAsciiBlank (digit value) = false := by
  revert value
  decide

/-- The two halves of a byte make it up again. -/
theorem byte_of_halves (byte : UInt8) :
    UInt8.ofNat (16 * (byte.toNat / 16) + byte.toNat % 16) = byte := by
  rw [Nat.div_add_mod, UInt8.ofNat_toNat]

theorem decodeChars?_pair_append (byte : UInt8) (rest : List Char) :
    decodeChars? (pair byte ++ rest) = (decodeChars? rest).map (byte :: ·) := by
  have hByte : byte.toNat < 256 := byte.toNat_lt
  have hHigh : byte.toNat / 16 < 16 := by omega
  have hLow : byte.toNat % 16 < 16 := by omega
  simp only [pair, List.cons_append, List.nil_append, decodeChars?, isAsciiBlank_digit hHigh,
    asciiDigit?_digit hHigh, asciiDigit?_digit hLow, Bool.false_eq_true, ↓reduceIte]
  cases decodeChars? rest with
  | none => rfl
  | some bytes => simp only [byte_of_halves, Option.map_some]

theorem decodeChars?_encoded_append (bytes : Bytes) (rest : List Char) :
    decodeChars? (bytes.flatMap pair ++ rest) = (decodeChars? rest).map (bytes ++ ·) := by
  induction bytes with
  | nil => cases hRest : decodeChars? rest <;> simp [hRest]
  | cons byte bytes ih =>
      rw [List.flatMap_cons, List.append_assoc, decodeChars?_pair_append, ih, Option.map_map]
      rfl

/-- Two encoded byte strings after each other read as one. -/
theorem decode?_encode_append (first second : Bytes) :
    decode? (encode first ++ encode second) = some (first ++ second) := by
  have hSecond := decodeChars?_encoded_append second []
  rw [List.append_nil] at hSecond
  rw [decode?, String.toList_append, toList_encode, toList_encode, decodeChars?_encoded_append,
    hSecond]
  simp [decodeChars?]

theorem decode?_encode (bytes : Bytes) : decode? (encode bytes) = some bytes := by
  simpa using decode?_encode_append bytes []

/-- Only blanks and digits can be read as digit pairs. -/
theorem decodeChars?_eq_none_of_mem {c : Char} (hBlank : Text.isAsciiBlank c = false)
    (hDigit : asciiDigit? c = none) {text : List Char} (h : c ∈ text) :
    decodeChars? text = none := by
  fun_induction decodeChars? text with
  | case1 => simp at h
  | case2 d rest hSkip ih =>
      rcases List.mem_cons.mp h with rfl | hRest
      · rw [hBlank] at hSkip
        contradiction
      · exact ih hRest
  | case3 d hSkip => rfl
  | case4 high hSkip low rest highValue lowValue bytes hBytes hLow hHigh ih =>
      rcases List.mem_cons.mp h with rfl | h
      · rw [hDigit] at hHigh
        contradiction
      · rcases List.mem_cons.mp h with rfl | h
        · rw [hDigit] at hLow
          contradiction
        · rw [ih h] at hBytes
          contradiction
  | case5 => rfl

/-- A minus sign cannot be read, wherever it stands. -/
theorem decode?_eq_none_of_minus {text : String} (h : '-' ∈ text.toList) : decode? text = none :=
  decodeChars?_eq_none_of_mem (by decide) (by decide) h

theorem minus_mem_ofInt {value : Int} (h : value < 0) : '-' ∈ (ofInt value).toList := by
  cases value with
  | ofNat value => exact absurd h (by simp)
  | negSucc value => simp [ofInt]

end ClientAuth.Hex

import ClientAuth.Text.Half

/-! Byte strings, their numbers read with the most significant byte first, and
the UTF-8 form of a text, which halves of characters do not have. -/
namespace ClientAuth

/-- A byte string, first byte first. -/
abbrev Bytes := List UInt8

namespace Bytes

/-- The number whose base-256 digits are the bytes, most significant first. -/
def toNat (bytes : Bytes) : Nat :=
  bytes.foldl (fun value byte => 256 * value + byte.toNat) 0

/-- The UTF-8 form of a text that has one. -/
def ofText? (text : String) : Option Bytes :=
  let codes := Text.codes text.toList
  if codes.any Text.isHalf then none
  else some (codes.flatMap fun code => String.utf8EncodeChar (Char.ofNat code))

/-- The bytes of an ASCII text. -/
def ofAscii (text : String) : Bytes := text.toList.map fun c => UInt8.ofNat c.toNat

/-- The four bytes of a word, most significant first. -/
def ofWord (word : UInt32) : Bytes :=
  [(word >>> 24).toUInt8, (word >>> 16).toUInt8, (word >>> 8).toUInt8, word.toUInt8]

/-- Exactly `width` bytes that spell a number modulo `256 ^ width`. -/
def ofNat : Nat → Nat → Bytes
  | 0, _ => []
  | width + 1, value => ofNat width (value / 256) ++ [UInt8.ofNat (value % 256)]

@[simp] theorem toNat_nil : toNat [] = 0 := rfl

@[simp] theorem length_ofWord (word : UInt32) : (ofWord word).length = 4 := rfl

@[simp] theorem length_ofNat (width value : Nat) : (ofNat width value).length = width := by
  induction width generalizing value with
  | zero => rfl
  | succ width ih => simp [ofNat, ih]

theorem toNat_concat (bytes : Bytes) (byte : UInt8) :
    toNat (bytes ++ [byte]) = 256 * toNat bytes + byte.toNat := by
  simp [toNat]

theorem isSome_ofText? (text : String) : (ofText? text).isSome = Text.isWhole text := by
  cases h : (Text.codes text.toList).any Text.isHalf <;> simp [ofText?, Text.isWhole, h]

end Bytes
end ClientAuth

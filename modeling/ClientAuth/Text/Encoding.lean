import ClientAuth.Bytes
import ClientAuth.Text.Half

/-! Unicode encodings of text. A reader is told what to do with a surrogate
that stands alone: refuse the bytes, or keep it. -/
namespace ClientAuth.Text

/-- A code point. A surrogate is one only where halves are kept, and a number
beyond Unicode is none. -/
def point? (halves : Bool) (value : Nat) : Option Nat :=
  if 0x10FFFF < value ∨ (isHalf value ∧ !halves) then none else some value

/-- Whether a byte continues a UTF-8 sequence. -/
def isTail (byte : UInt8) : Bool := 0x80 ≤ byte && byte ≤ 0xBF

/-- The six payload bits of a continuation byte. -/
def tailBits (byte : UInt8) : Nat := byte.toNat % 64

/-- The code points of UTF-8. Only the shortest form of a code point is
accepted. -/
def utf8? (halves : Bool) : Bytes → Option (List Nat)
  | [] => some []
  | a :: rest =>
      if a < 0x80 then (utf8? halves rest).map (a.toNat :: ·)
      else
        match rest with
        | [] => none
        | b :: rest =>
            if !isTail b then none
            else if 0xC2 ≤ a && a ≤ 0xDF then
              (utf8? halves rest).map (((a.toNat - 0xC0) * 64 + tailBits b) :: ·)
            else
              match rest with
              | [] => none
              | c :: rest =>
                  if !isTail c then none
                  else if 0xE0 ≤ a && a ≤ 0xEF then
                    let value := (a.toNat - 0xE0) * 4096 + tailBits b * 64 + tailBits c
                    if value < 0x800 then none
                    else
                      match point? halves value, utf8? halves rest with
                      | some code, some codes => some (code :: codes)
                      | _, _ => none
                  else
                    match rest with
                    | [] => none
                    | d :: rest =>
                        let value := (a.toNat - 0xF0) * 262144 + tailBits b * 4096 +
                          tailBits c * 64 + tailBits d
                        if !isTail d || a < 0xF0 || value < 0x10000 then none
                        else
                          match point? halves value, utf8? halves rest with
                          | some code, some codes => some (code :: codes)
                          | _, _ => none

/-- Groups bytes into units of two, in the given byte order. -/
def units16? (bigEndian : Bool) : Bytes → Option (List Nat)
  | [] => some []
  | a :: b :: rest =>
      let value := if bigEndian then 256 * a.toNat + b.toNat else a.toNat + 256 * b.toNat
      (units16? bigEndian rest).map (value :: ·)
  | [_] => none

/-- Groups bytes into units of four, in the given byte order. -/
def units32? (bigEndian : Bool) : Bytes → Option (List Nat)
  | [] => some []
  | a :: b :: c :: d :: rest =>
      let group := if bigEndian then [a, b, c, d] else [d, c, b, a]
      (units32? bigEndian rest).map (Bytes.toNat group :: ·)
  | _ => none

/-- Joins a high and a low surrogate that follow each other. -/
def pairs : List Nat → List Nat
  | high :: low :: rest =>
      if 0xD800 ≤ high ∧ high < 0xDC00 ∧ 0xDC00 ≤ low ∧ low < 0xE000 then
        (0x10000 + (high - 0xD800) * 1024 + (low - 0xDC00)) :: pairs rest
      else high :: pairs (low :: rest)
  | units => units

/-- The code points of UTF-16. -/
def utf16? (halves : Bool) (bigEndian : Bool) (bytes : Bytes) : Option (List Nat) :=
  (units16? bigEndian bytes).bind fun units => (pairs units).mapM (point? halves)

/-- The code points of UTF-32. -/
def utf32? (halves : Bool) (bigEndian : Bool) (bytes : Bytes) : Option (List Nat) :=
  (units32? bigEndian bytes).bind (List.mapM (point? halves))

/-- The code points of bytes whose encoding is told by a byte order mark or, without one, by
the place of zero bytes among the first characters, which are ASCII. -/
def detect? (halves : Bool) (bytes : Bytes) : Option (List Nat) :=
  match bytes with
  | 0 :: 0 :: 0xFE :: 0xFF :: rest => utf32? halves true rest
  | 0xFF :: 0xFE :: 0 :: 0 :: rest => utf32? halves false rest
  | 0xFE :: 0xFF :: rest => utf16? halves true rest
  | 0xFF :: 0xFE :: rest => utf16? halves false rest
  | 0xEF :: 0xBB :: 0xBF :: rest => utf8? halves rest
  | a :: b :: c :: d :: _ =>
      if a = 0 then if b = 0 then utf32? halves true bytes else utf16? halves true bytes
      else if b = 0 then
        if c = 0 && d = 0 then utf32? halves false bytes else utf16? halves false bytes
      else utf8? halves bytes
  | [a, b] =>
      if a = 0 then utf16? halves true bytes
      else if b = 0 then utf16? halves false bytes
      else utf8? halves bytes
  | _ => utf8? halves bytes

/-- The text that bytes spell in UTF-8, without halves. -/
def ofUtf8? (bytes : Bytes) : Option (List Char) := (utf8? false bytes).map ofCodes

/-- The text that bytes spell in an encoding that they tell themselves. A
surrogate may stand alone in it. -/
def detected? (bytes : Bytes) : Option (List Char) := (detect? true bytes).map ofCodes

@[simp] theorem detect?_nil (halves : Bool) : detect? halves [] = some [] := rfl

end ClientAuth.Text

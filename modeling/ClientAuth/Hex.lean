import ClientAuth.Bytes
import ClientAuth.Text.Blank
import ClientAuth.Text.Digit

/-! Hexadecimal text: bytes as digit pairs, integers as numerals, and the
lenient numeral reader. -/
namespace ClientAuth.Hex

/-- The lower-case digit of a value below sixteen. -/
def digit (value : Nat) : Char :=
  if value < 10 then Char.ofNat (48 + value) else Char.ofNat (87 + value)

/-- Two digits for each byte. -/
def encode (bytes : Bytes) : String :=
  String.ofList (bytes.flatMap fun byte => [digit (byte.toNat / 16), digit (byte.toNat % 16)])

/-- The value of an ASCII hexadecimal digit of either case. -/
def asciiDigit? (c : Char) : Option Nat :=
  if c.toNat < 128 then Text.hexDigit? c else none

/-- Reads digit pairs. ASCII white space may stand between pairs, never
within one. -/
def decodeChars? : List Char → Option Bytes
  | [] => some []
  | c :: rest =>
      if Text.isAsciiBlank c then decodeChars? rest
      else
        match rest with
        | [] => none
        | d :: rest =>
            match asciiDigit? c, asciiDigit? d, decodeChars? rest with
            | some high, some low, some bytes => some (UInt8.ofNat (16 * high + low) :: bytes)
            | _, _, _ => none

/-- The bytes that a text spells as digit pairs. -/
def decode? (text : String) : Option Bytes :=
  decodeChars? text.toList

/-- The digits of a natural number, most significant first and without
leading zeros. Zero has one digit. -/
def digits (value : Nat) : List Char :=
  if value < 16 then [digit value] else digits (value / 16) ++ [digit (value % 16)]

/-- The numeral of a natural number. -/
def ofNat (value : Nat) : String :=
  String.ofList (digits value)

/-- The numeral of an integer: a minus sign stands before the magnitude. -/
def ofInt : Int → String
  | .ofNat value => ofNat value
  | .negSucc value => "-" ++ ofNat (value + 1)

/-- Reads a run of digits onto a value. A single underscore may stand between
two digits; `fresh` says that no digit has just been read. -/
def digitsValue? : Bool → Nat → List Char → Option Nat
  | fresh, value, [] => if fresh then none else some value
  | fresh, value, c :: rest =>
      if c = '_' then if fresh then none else digitsValue? true value rest
      else
        match Text.hexDigit? c with
        | some d => digitsValue? false (16 * value + d) rest
        | none => none

/-- Drops a base mark `0x` or `0X`. An underscore may follow the mark. -/
def dropMark : List Char → List Char
  | '0' :: x :: rest =>
      if x = 'x' || x = 'X' then
        match rest with
        | '_' :: rest => rest
        | rest => rest
      else '0' :: x :: rest
  | text => text

/-- The integer that a numeral denotes. White space around it is dropped; a
sign and a base mark may stand first, single underscores may separate digits,
and the decimal digits of every script count. -/
def toInt? (text : String) : Option Int :=
  match (Text.trim Text.isBlank text.toList).map Text.plainDigit with
  | '-' :: rest => (digitsValue? true 0 (dropMark rest)).map fun value => -(value : Int)
  | '+' :: rest => (digitsValue? true 0 (dropMark rest)).map Int.ofNat
  | rest => (digitsValue? true 0 (dropMark rest)).map Int.ofNat

@[simp] theorem encode_nil : encode [] = "" := rfl

theorem digits_of_lt {value : Nat} (h : value < 16) : digits value = [digit value] := by
  rw [digits, if_pos h]

theorem digits_ne_nil (value : Nat) : digits value ≠ [] := by
  rw [digits]
  split <;> simp

end ClientAuth.Hex

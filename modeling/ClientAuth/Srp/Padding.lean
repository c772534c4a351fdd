import ClientAuth.Crypto.Sha256
import ClientAuth.Failure
import ClientAuth.Hex

/-! Hexadecimal text of big-endian two's-complement integers: whole bytes, the
top bit clear, so that the value stays positive. -/
namespace ClientAuth.Srp

/-- Whether a digit has its high bit set. -/
def isHighDigit (c : Char) : Bool :=
  ('8' ≤ c && c ≤ '9') || ('A' ≤ c && c ≤ 'F') || ('a' ≤ c && c ≤ 'f')

/-- Fills digits up to whole bytes: an odd number of digits gets one zero, an
even number whose first digit is high gets two. What is no digit counts as one
all the same. -/
def padDigits? (digits : List Char) : Option (List Char) :=
  if (Text.codes digits).length % 2 = 1 then some ('0' :: digits)
  else
    match digits with
    | [] => none
    | c :: rest => some (if isHighDigit c then '0' :: '0' :: c :: rest else c :: rest)

/-- The padded form of a text of digits. There is none of the empty text. -/
def padText (text : String) : Outcome String :=
  .orHalt .emptyHex ((padDigits? text.toList).map String.ofList)

/-- The padded numeral of an integer. -/
def padInt (value : Int) : Outcome String := padText (Hex.ofInt value)

/-- The bytes that a hexadecimal text spells. -/
def hexBytes (text : String) : Outcome Bytes := .orHalt .notHex (Hex.decode? text)

/-- The digest of the bytes that a hexadecimal text spells. -/
def hexDigest (text : String) : Outcome Bytes := do
  return Sha256.digest (← hexBytes text)

end ClientAuth.Srp

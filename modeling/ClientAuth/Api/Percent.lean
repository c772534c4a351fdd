import ClientAuth.Bytes

/-! Percent-encoding, and which characters each part of a URL leaves as they
are. -/
namespace ClientAuth.Percent

/-- The upper-case hexadecimal digit of a value below sixteen. -/
def upperDigit (value : Nat) : Char :=
  if value < 10 then Char.ofNat (48 + value) else Char.ofNat (55 + value)

/-- A byte in percent-encoded form. -/
def encodeByte (byte : UInt8) : List Char :=
  ['%', upperDigit (byte.toNat / 16), upperDigit (byte.toNat % 16)]

/-- Percent-encodes the UTF-8 bytes of every character that is not safe. -/
def encode (isSafe : Char → Bool) (text : List Char) : List Char :=
  text.flatMap fun c =>
    if isSafe c then [c] else (String.utf8EncodeChar c).flatMap encodeByte

/-- A printable character of ASCII outside a list. -/
def visibleExcept (unsafeChars : List Char) (c : Char) : Bool :=
  0x20 ≤ c.toNat && c.toNat < 0x7F && c ∉ unsafeChars

/-- Characters that stand for themselves in a query. -/
def isQuerySafe : Char → Bool := visibleExcept [' ', '"', '#', '<', '>']

/-- Characters that stand for themselves in a path. -/
def isPathSafe : Char → Bool :=
  visibleExcept [' ', '"', '#', '<', '>', '?', '\x60', '\x7b', '\x7d']

/-- Characters that stand for themselves in a fragment. -/
def isFragmentSafe : Char → Bool := visibleExcept [' ', '"', '<', '>', '\x60']

/-- Characters that stand for themselves in the user part. -/
def isUserSafe : Char → Bool :=
  visibleExcept [' ', '"', '#', '<', '>', '?', '\x60', '\x7b', '\x7d', '/', ';', '=', '@', '[',
    '\\', ']', '^', '|']

/-- Letters, digits and the four marks that are never encoded. -/
def isUnreserved (c : Char) : Bool :=
  ('a' ≤ c && c ≤ 'z') || ('A' ≤ c && c ≤ 'Z') || ('0' ≤ c && c ≤ '9') || c ∈ ['-', '.', '_', '~']

/-- Characters that stand for themselves in a host name. -/
def isHostSafe (c : Char) : Bool :=
  isUnreserved c || c ∈ ['!', '$', '&', '\'', '(', ')', '*', '+', ',', ';', '=', '"', '\x60', '\x7b',
    '\x7d', '%', '|', '\\']

end ClientAuth.Percent

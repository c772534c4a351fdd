import ClientAuth.Bytes

/-! Base64. The strict reader takes the standard alphabet and nothing else; the
lenient reader takes the standard and the URL-safe alphabet, skips every other
character and stops at the first padding that completes a group. -/
namespace ClientAuth.Base64

/-- The standard alphabet's character for a sextet. -/
def symbol (value : Nat) : Char :=
  if value < 26 then Char.ofNat (65 + value)
  else if value < 52 then Char.ofNat (71 + value)
  else if value < 62 then Char.ofNat (value - 4)
  else if value = 62 then '+' else '/'

/-- The sextet of a character of the standard alphabet. -/
def sextet? (c : Char) : Option Nat :=
  if 'A' ≤ c ∧ c ≤ 'Z' then some (c.toNat - 65)
  else if 'a' ≤ c ∧ c ≤ 'z' then some (c.toNat - 71)
  else if '0' ≤ c ∧ c ≤ '9' then some (c.toNat + 4)
  else if c = '+' then some 62
  else if c = '/' then some 63
  else none

/-- The sextet of a character of either alphabet. -/
def urlSextet? (c : Char) : Option Nat :=
  if c = '-' then some 62 else if c = '_' then some 63 else sextet? c

/-- Groups of three bytes as four characters, the last group padded. -/
def encodeChars : Bytes → List Char
  | [] => []
  | [a] => [symbol (a.toNat / 4), symbol (a.toNat % 4 * 16), '=', '=']
  | [a, b] =>
      [symbol (a.toNat / 4), symbol (a.toNat % 4 * 16 + b.toNat / 16),
        symbol (b.toNat % 16 * 4), '=']
  | a :: b :: c :: rest =>
      symbol (a.toNat / 4) :: symbol (a.toNat % 4 * 16 + b.toNat / 16) ::
        symbol (b.toNat % 16 * 4 + c.toNat / 64) :: symbol (c.toNat % 64) :: encodeChars rest

/-- The standard padded form of a byte string. -/
def encode (bytes : Bytes) : String :=
  String.ofList (encodeChars bytes)

/-- The whole bytes that a run of sextets spells. Bits left over are dropped. -/
def join : List Nat → Bytes
  | a :: b :: c :: d :: rest =>
      UInt8.ofNat (a * 4 + b / 16) :: UInt8.ofNat (b % 16 * 16 + c / 4) ::
        UInt8.ofNat (c % 4 * 64 + d) :: join rest
  | [a, b, c] => [UInt8.ofNat (a * 4 + b / 16), UInt8.ofNat (b % 16 * 16 + c / 4)]
  | [a, b] => [UInt8.ofNat (a * 4 + b / 16)]
  | _ => []

/-- The padding a strict text may end in. A group of two or three sextets is
filled up exactly; after complete groups any padding is idle, but padding
alone spells nothing. -/
def paddingFits (count padding : Nat) : Bool :=
  if count % 4 = 0 then padding = 0 || count ≠ 0
  else count % 4 ≠ 1 && count % 4 + padding = 4

/-- Reads a text of the standard alphabet followed by padding only. -/
def decode? (text : String) : Option Bytes :=
  let data := text.toList.takeWhile (· ≠ '=')
  let padding := text.toList.dropWhile (· ≠ '=')
  if padding.all (· = '=') && paddingFits data.length padding.length then
    (data.mapM sextet?).map join
  else none

/-- Collects sextets of either alphabet. `held` counts the sextets of the open
group and `padding` the padding since the last sextet; the reading ends as soon
as padding completes the group. -/
def collect (held padding : Nat) : List Char → Option (List Nat)
  | [] => if held = 0 then some [] else none
  | c :: rest =>
      if c = '=' then
        if held < 2 then collect held padding rest
        else if 4 ≤ held + padding + 1 then some []
        else collect held (padding + 1) rest
      else
        match urlSextet? c with
        | some value => (collect ((held + 1) % 4) 0 rest).map (value :: ·)
        | none => collect held padding rest

/-- Fills a text up with padding to a length divisible by four. -/
def pad (text : List Char) : List Char :=
  text ++ List.replicate ((4 - text.length % 4) % 4) '='

/-- Reads either alphabet after padding the text by its raw length. -/
def decodeLoose? (text : List Char) : Option Bytes :=
  (collect 0 0 (pad text)).map join

@[simp] theorem encode_nil : encode [] = "" := rfl

@[simp] theorem decode?_empty : decode? "" = some [] := by decide +kernel

theorem length_encodeChars (bytes : Bytes) :
    (encodeChars bytes).length = (bytes.length + 2) / 3 * 4 := by
  fun_induction encodeChars bytes with
  | case1 => rfl
  | case2 a => simp
  | case3 a b => simp
  | case4 a b c rest ih =>
      simp only [List.length_cons, ih]
      omega

end ClientAuth.Base64

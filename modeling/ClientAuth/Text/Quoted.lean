import ClientAuth.Hex
import ClientAuth.Text.Half
import ClientAuth.Text.Printable

/-! Quoted text. Single quotes stand around it unless it holds a single quote
and no double quote; what is not printable is escaped by its code. -/
namespace ClientAuth.Text

/-- A hexadecimal numeral filled up with zeros to a width. -/
def paddedHex (width value : Nat) : List Char :=
  let digits := Hex.digits value
  List.replicate (width - digits.length) '0' ++ digits

/-- A code point written as an escape of the shortest kind that holds it. -/
def codeEscape (code : Nat) : List Char :=
  if code < 0x100 then '\\' :: 'x' :: paddedHex 2 code
  else if code < 0x10000 then '\\' :: 'u' :: paddedHex 4 code
  else '\\' :: 'U' :: paddedHex 8 code

/-- One code point inside the quotes. -/
def quoteCode (quote : Char) (code : Nat) : List Char :=
  let c := Char.ofNat code
  if c = '\\' then ['\\', '\\']
  else if c = quote then ['\\', quote]
  else if c = '\t' then ['\\', 't']
  else if c = '\n' then ['\\', 'n']
  else if c = '\r' then ['\\', 'r']
  else if isHalf code || !isPrintable c then codeEscape code
  else [c]

/-- The quote that is used around a text. -/
def quoteFor (text : List Char) : Char :=
  if '\'' ∈ text ∧ '"' ∉ text then '"' else '\''

/-- A text in quotes. -/
def quoted (text : String) : String :=
  let chars := text.toList
  let quote := quoteFor chars
  String.ofList (quote :: (codes chars).flatMap (quoteCode quote) ++ [quote])

/-- The text of the fault that an encoding has nothing for code points of a text.
It tells of those that stand together first. -/
def lackMessage (encoding reason : String) (isLacking : Nat → Bool) (codes : List Nat) : String :=
  let place := (codes.takeWhile (!isLacking ·)).length
  let found := (codes.dropWhile (!isLacking ·)).takeWhile isLacking
  "'" ++ encoding ++ "' codec can't encode " ++
    (match found with
    | [code] => "character '" ++ String.ofList (codeEscape code) ++ "' in position " ++ toString place
    | _ =>
        "characters in position " ++ toString place ++ "-" ++ toString (place + found.length - 1)) ++
    ": " ++ reason

end ClientAuth.Text

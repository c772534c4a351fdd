import ClientAuth.Api.Name.Letter
import ClientAuth.Api.Punycode
import ClientAuth.Number.Numeral
import ClientAuth.Text.Composed
import ClientAuth.Text.Direction
import ClientAuth.Text.Joining
import ClientAuth.Text.Quoted
import ClientAuth.Text.Script

/-! Labels of host names beyond ASCII: what they may be made of, and their ASCII
form. -/
namespace ClientAuth

open ClientAuth.Text

/-- What is wrong with a host name. A code point is named with its place in the
label, counted from one. -/
inductive NameFault
  | emptyName
  | emptyLabel
  | notComposed
  | hyphensInside
  | hyphenAtEnd
  | leadingMark
  | badCode (code place : Nat) (label : String)
  | badJoiner (code place : Nat) (label : String)
  | namelessNeighbour (code place : Nat) (label : String)
  | badContext (code place : Nat) (label : String)
  | unknownDirection (place : Nat) (label : String)
  | badStart (label : String)
  | badDirection (rightToLeft : Bool) (place : Nat)
  | mixedNumbers
  | badEnd
  | noContent
  | hyphenLast
  | notPunycode
  | notCanonical
  | labelTooLong
  | nameTooLong
deriving DecidableEq, Repr

namespace NameFault

/-- The family under which a fault is reported. -/
def family : NameFault → String
  | badCode .. => "InvalidCodepoint"
  | badContext .. | badJoiner .. => "InvalidCodepointContext"
  | unknownDirection .. | badStart _ | badDirection .. | mixedNumbers | badEnd => "IDNABidiError"
  | _ => "IDNAError"

/-- A code point as it is written in messages. -/
def codeText (code : Nat) : String :=
  "U+" ++ (String.ofList (paddedHex 4 code)).toUpper

/-- The text of a fault. -/
def message : NameFault → String
  | emptyName => "Empty domain"
  | emptyLabel => "Empty Label"
  | notComposed => "Label must be in Normalization Form C"
  | hyphensInside => "Label has disallowed hyphens in 3rd and 4th position"
  | hyphenAtEnd => "Label must not start or end with a hyphen"
  | leadingMark => "Label begins with an illegal combining character"
  | badCode code place label =>
      "Codepoint " ++ codeText code ++ " at position " ++ toString place ++ " of " ++
        quoted label ++ " not allowed"
  | badJoiner code place label =>
      "Joiner " ++ codeText code ++ " not allowed at position " ++ toString place ++ " in " ++
        quoted label
  | namelessNeighbour code place label =>
      "Unknown codepoint adjacent to joiner " ++ codeText code ++ " at position " ++
        toString place ++ " in " ++ quoted label
  | badContext code place label =>
      "Codepoint " ++ codeText code ++ " not allowed at position " ++ toString place ++ " in " ++
        quoted label
  | unknownDirection place label =>
      "Unknown directionality in label " ++ quoted label ++ " at position " ++ toString place
  | badStart label =>
      "First codepoint in label " ++ quoted label ++ " must be directionality L, R or AL"
  | badDirection true place =>
      "Invalid direction for codepoint at position " ++ toString place ++
        " in a right-to-left label"
  | badDirection false place =>
      "Invalid direction for codepoint at position " ++ toString place ++
        " in a left-to-right label"
  | mixedNumbers => "Can not mix numeral types in a right-to-left label"
  | badEnd => "Label ends with illegal codepoint directionality"
  | noContent => "Malformed A-label, no Punycode eligible content found"
  | hyphenLast => "A-label must not end with a hyphen"
  | notPunycode => "Invalid A-label"
  | notCanonical => "A-label is not the canonical Punycode encoding of its U-label"
  | labelTooLong => "Label too long"
  | nameTooLong => "Domain too long"

end NameFault

namespace Name

/-- The hyphen. -/
def hyphen : Nat := 0x2D

/-- Whether a zero-width joiner or non-joiner may stand between two parts of a
label, the part before given backwards: after a sign that takes the vowel, and
the non-joiner between letters that would join. -/
def joinerMayStand (code : Nat) (before after : List Nat) : Bool :=
  before.head?.any isVirama ||
    (code = 0x200C && meetsJoining joinsNext before && meetsJoining joinsPrevious after)

/-- What a code point requires of its label, if it may stand in some labels
only. The part of the label before it is given backwards. -/
def contextAllows? (code : Nat) (before after : List Nat) : Option Bool :=
  if code = 0xB7 then some (before.head? = some 0x6C && after.head? = some 0x6C)
  else if code = 0x375 then some (after.head?.any isGreek)
  else if code = 0x5F3 ∨ code = 0x5F4 then some (before.head?.any isHebrew)
  else if code = 0x30FB then some ((before ++ after).any isJapanese)
  else if 0x660 ≤ code ∧ code ≤ 0x669 then
    some (!(before ++ after).any fun near => 0x6F0 ≤ near && near ≤ 0x6F9)
  else if 0x6F0 ≤ code ∧ code ≤ 0x6F9 then
    some (!(before ++ after).any fun near => 0x660 ≤ near && near ≤ 0x669)
  else none

/-- A label as a text. -/
def labelText (label : List Nat) : String := String.ofList (ofCodes label)

/-- Checks the code points of a label one by one. -/
def checkCodes (label : List Nat) : List Nat → List Nat → Except NameFault Unit
  | _, [] => .ok ()
  | before, code :: after =>
      let place := before.length + 1
      if isLetter code then checkCodes label (code :: before) after
      else if code = 0x200C ∨ code = 0x200D then
        if before.head?.any isNameless then .error (.namelessNeighbour code place (labelText label))
        else if joinerMayStand code before after then checkCodes label (code :: before) after
        else .error (.badJoiner code place (labelText label))
      else
        match contextAllows? code before after with
        | some true => checkCodes label (code :: before) after
        | some false => .error (.badContext code place (labelText label))
        | none => .error (.badCode code place (labelText label))

/-- Whether a label ends, marks apart, in a character of one of several
directions. -/
def endsIn (allowed : List Direction) (label : List Nat) : Bool :=
  ((label.map direction).reverse.dropWhile (· = .mark)).head?.any (· ∈ allowed)

/-- The faults of direction in a label from the given place on. The kind of
numbers met so far is kept for labels written from the right. -/
def checkDirections (rightToLeft : Bool) (place : Nat) (numbers : Option Direction) :
    List Direction → Except NameFault Unit
  | [] => .ok ()
  | d :: rest =>
      if (if rightToLeft then d = .left else d = .right ∨ d = .arabicNumber) then
        .error (.badDirection rightToLeft place)
      else if rightToLeft && (d = .number || d = .arabicNumber) then
        match numbers with
        | some first =>
            if first = d then checkDirections rightToLeft (place + 1) numbers rest
            else .error .mixedNumbers
        | none => checkDirections rightToLeft (place + 1) (some d) rest
      else checkDirections rightToLeft (place + 1) numbers rest

/-- Checks the directions of a label, which have to be known. Where some text is
written from the right, the first character tells the direction of the whole
label. -/
def checkBidi (label : List Nat) : Except NameFault Unit := do
  if label.any isRecentLetter then
    .error (.unknownDirection ((label.takeWhile (!isRecentLetter ·)).length + 1) (labelText label))
  let directions := label.map direction
  if !directions.any (fun d => d = .right || d = .arabicNumber) then return
  let rightToLeft ←
    match directions.head? with
    | some .right => pure true
    | some .left => pure false
    | _ => .error (.badStart (labelText label))
  checkDirections rightToLeft 1 none directions
  if endsIn (if rightToLeft then [.right, .number, .arabicNumber] else [.left, .number]) label then
    return
  else .error .badEnd

/-- Checks a label. -/
def check (label : List Nat) : Except NameFault Unit := do
  if label.isEmpty then .error .emptyLabel
  else if !isComposed label then .error .notComposed
  else if (label.drop 2).take 2 = [hyphen, hyphen] then .error .hyphensInside
  else if label.head? = some hyphen ∨ label.getLast? = some hyphen then .error .hyphenAtEnd
  else if label.head?.any isMark then .error .leadingMark
  else
    checkCodes label [] label
    checkBidi label

/-- The mark in front of an ASCII form. -/
def asciiMark : List Char := "xn--".toList

/-- Checks a label in ASCII, and what it is the ASCII form of. The case of letters
does not matter, and of the forms that are read alike only one is allowed. -/
def checkAscii (label : List Char) : Except NameFault Unit :=
  let label := label.map Numeral.lower
  if asciiMark.isPrefixOf label then
    let content := label.drop asciiMark.length
    if content.isEmpty then .error .noContent
    else if content.getLast? = some '-' then .error .hyphenLast
    else
      match Punycode.decode? content with
      | some codes => if Punycode.encode codes = content then check codes else .error .notCanonical
      | none => .error .notPunycode
  else check (label.map Char.toNat)

/-- The longest label. -/
def labelLimit : Nat := 63

/-- The longest name. -/
def nameLimit : Nat := 253

/-- The ASCII form of a label in lower case. -/
def asciiLabel (label : List Char) : Except NameFault (List Char) := do
  let encoded ←
    if label.all (·.toNat < 128) then do
      checkAscii label
      pure label
    else do
      check (codes label)
      pure (asciiMark ++ Punycode.encode (codes label))
  if labelLimit < encoded.length then .error .labelTooLong else return encoded

/-- The full stops of several scripts. -/
def isStop (c : Char) : Bool := c ∈ ['.', '\u3002', '\uff0e', '\uff61']

/-- The labels of a name, and whether it ends in a full stop. -/
def labels (name : List Char) : Except NameFault (List (List Char) × Bool) :=
  match splitOn '.' (name.map fun c => if isStop c then '.' else c) with
  | [[]] => .error .emptyName
  | parts =>
      if parts.getLast? = some [] then .ok (parts.dropLast, true) else .ok (parts, false)

/-- The ASCII form of a name in lower case. -/
def ascii (name : List Char) : Except NameFault (List Char) := do
  let (parts, ends) ← labels name
  let encoded ← parts.mapM asciiLabel
  let name := joinWith '.' encoded ++ if ends then ['.'] else []
  if (if ends then nameLimit + 1 else nameLimit) < name.length then .error .nameTooLong
  else return name

/-- Checks a name in ASCII, and what its labels are the ASCII forms of. A full
stop at the end is allowed for whether there is one or not. -/
def checkName (name : List Char) : Except NameFault Unit := do
  if nameLimit + 1 < name.length then .error .nameTooLong
  let (parts, _) ← labels name
  let _ ← parts.mapM checkAscii

@[simp] theorem check_nil : check [] = .error .emptyLabel := rfl

end Name
end ClientAuth

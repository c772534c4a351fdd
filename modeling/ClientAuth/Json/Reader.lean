import ClientAuth.Json.Basic
import ClientAuth.Number.Numeral
import ClientAuth.Text.Half

/-! Reading JSON. Beside the grammar of the standard, the words `NaN`,
`Infinity` and `-Infinity` are numbers, the last of several values of a key
counts, and a whole number has at most 4300 digits. Documents from outside may
be nested so deep only. A half of a character is spelled in a document as it is
in every text. -/
namespace ClientAuth.Json

/-- Drops the white space that may stand between tokens. -/
def skip : List Char → List Char :=
  List.dropWhile fun c => c = ' ' || c = '\n' || c = '\r' || c = '\t'

/-- The value of exactly four hexadecimal digits, and the rest. -/
def unit? : List Char → Option (Nat × List Char)
  | a :: b :: c :: d :: rest => do
      let digit := fun (x : Char) => if x.toNat < 128 then Text.hexDigit? x else none
      some ((((← digit a) * 16 + (← digit b)) * 16 + (← digit c)) * 16 + (← digit d), rest)
  | _ => none

/-- The code point of an escaped unit. A high surrogate takes the low one that
follows it, and a surrogate without a partner is kept as it is. -/
def escaped? (text : List Char) : Option (Nat × List Char) :=
  match unit? text with
  | none => none
  | some (value, rest) =>
      if 0xD800 ≤ value ∧ value < 0xDC00 then
        match rest with
        | '\\' :: 'u' :: more =>
            match unit? more with
            | some (low, more) =>
                if 0xDC00 ≤ low ∧ low < 0xE000 then
                  some (0x10000 + (value - 0xD800) * 1024 + (low - 0xDC00), more)
                else some (value, rest)
            | none => none
        | _ => some (value, rest)
      else some (value, rest)

/-- The character that a one-letter escape stands for. -/
def simpleEscape? : Char → Option Char
  | '"' => some '"'
  | '\\' => some '\\'
  | '/' => some '/'
  | 'b' => some '\x08'
  | 'f' => some '\x0c'
  | 'n' => some '\n'
  | 'r' => some '\r'
  | 't' => some '\t'
  | _ => none

/-- Reads a text up to its closing quote. Control characters must be escaped.
The fuel is at least the length of what is read. -/
def chars? : Nat → List Char → List Char → Option (String × List Char)
  | 0, _, _ => none
  | fuel + 1, done, input =>
      match input with
      | [] => none
      | '"' :: rest => some (String.ofList done.reverse, rest)
      | '\\' :: 'u' :: rest =>
          match escaped? rest with
          | some (code, rest) => chars? fuel ((Text.spell code).reverse ++ done) rest
          | none => none
      | '\\' :: letter :: rest =>
          match simpleEscape? letter with
          | some c => chars? fuel (c :: done) rest
          | none => none
      | c :: rest => if c.toNat < 0x20 ∨ c = '\\' then none else chars? fuel (c :: done) rest

/-- A fraction with at least one digit: its digits read onto `value`, their
number, and the rest. -/
def fraction? (value : Nat) : List Char → Option (Nat × Nat × List Char)
  | '.' :: rest =>
      match Numeral.run value 0 rest with
      | (value, count, rest) => if count = 0 then none else some (value, count, rest)
  | _ => none

/-- An exponent with at least one digit, and the rest. -/
def exponent? : List Char → Option (Int × List Char)
  | mark :: rest =>
      if mark = 'e' ∨ mark = 'E' then
        let (negative, rest) := Numeral.sign rest
        match Numeral.run 0 0 rest with
        | (value, count, rest) =>
            if count = 0 then none
            else some (if negative then -(value : Int) else value, rest)
      else none
  | _ => none

/-- An unsigned number and the rest. A fraction or an exponent makes it a
double; whatever does not continue the number is left over. -/
def number? (negative : Bool) (input : List Char) : Option (Json × List Char) :=
  let start :=
    match input with
    | '0' :: rest => some (0, 1, rest)
    | _ =>
        match Numeral.run 0 0 input with
        | (value, count, rest) => if count = 0 then none else some (value, count, rest)
  match start with
  | none => none
  | some (whole, count, rest) =>
      let double := fun (digits : Nat) (exponent : Int) =>
        Json.float (Numeral.toBinary64 (.finite negative digits exponent))
      match fraction? whole rest with
      | some (digits, places, rest) =>
          match exponent? rest with
          | some (e, rest) => some (double digits (e - places), rest)
          | none => some (double digits (-(places : Int)), rest)
      | none =>
          match exponent? rest with
          | some (e, rest) => some (double whole e, rest)
          | none =>
              if Numeral.digitLimit < count then none
              else some (.int (if negative then -(whole : Int) else whole), rest)

/-- The text after a word that the input starts with. -/
def after? (word : String) (input : List Char) : Option (List Char) :=
  if word.toList.isPrefixOf input then some (input.drop word.length) else none

/-- A word or a number, and the rest. -/
def atom? (input : List Char) : Option (Json × List Char) :=
  match input with
  | 'n' :: _ => (after? "null" input).map (.null, ·)
  | 't' :: _ => (after? "true" input).map (.bool true, ·)
  | 'f' :: _ => (after? "false" input).map (.bool false, ·)
  | 'N' :: _ => (after? "NaN" input).map (.float (Binary64.nan false), ·)
  | 'I' :: _ => (after? "Infinity" input).map (.float (Binary64.infinite false), ·)
  | '-' :: 'I' :: _ => (after? "-Infinity" input).map (.float (Binary64.infinite true), ·)
  | '-' :: rest => number? true rest
  | _ => number? false input

/-- Why a text is not read. Nesting is too deep at the bracket that opens an
array or an object. -/
inductive ReadFault
  | malformed
  | tooDeep (inObject : Bool)
deriving DecidableEq, Repr

/-- The text of a fault. -/
def ReadFault.message : ReadFault → String
  | malformed => "malformed"
  | tooDeep inObject =>
      "maximum recursion depth exceeded while decoding a JSON " ++
        (if inObject then "object" else "array") ++ " from a unicode string"

/-- What is read, and the rest of the text. -/
abbrev Reading (α : Type) := Except ReadFault (α × List Char)

/-- What is read without nesting, if it is well formed. -/
def plain {α : Type} : Option (α × List Char) → Reading α
  | some reading => .ok reading
  | none => .error .malformed

mutual

/-- A value that starts at the first character. Arrays and objects may be
nested `room` deep. The fuel is at least the length of the input. -/
def value : Nat → Nat → List Char → Reading Json
  | 0, _, _ => .error .malformed
  | fuel + 1, room, input =>
      match input with
      | '"' :: rest =>
          plain ((chars? fuel [] rest).map fun (content, rest) => (Json.text content, rest))
      | '[' :: rest =>
          match room with
          | 0 => .error (.tooDeep false)
          | room + 1 =>
              match skip rest with
              | ']' :: rest => .ok (.array [], rest)
              | rest => items fuel room [] rest
      | '\x7b' :: rest =>
          match room with
          | 0 => .error (.tooDeep true)
          | room + 1 =>
              match skip rest with
              | '\x7d' :: rest => .ok (.object [], rest)
              | rest => members fuel room [] rest
      | _ => plain (atom? input)

/-- The items of an array from the next one on. -/
def items : Nat → Nat → List Json → List Char → Reading Json
  | 0, _, _, _ => .error .malformed
  | fuel + 1, room, done, input =>
      match value fuel room input with
      | .error fault => .error fault
      | .ok (item, rest) =>
          match skip rest with
          | ',' :: rest => items fuel room (item :: done) (skip rest)
          | ']' :: rest => .ok (.array (item :: done).reverse, rest)
          | _ => .error .malformed

/-- The members of an object from the next one on. -/
def members : Nat → Nat → List (String × Json) → List Char → Reading Json
  | 0, _, _, _ => .error .malformed
  | fuel + 1, room, done, input =>
      match input with
      | '"' :: rest =>
          match chars? fuel [] rest with
          | none => .error .malformed
          | some (key, rest) =>
              match skip rest with
              | ':' :: rest =>
                  match value fuel room (skip rest) with
                  | .error fault => .error fault
                  | .ok (item, rest) =>
                      match skip rest with
                      | ',' :: rest => members fuel room (insert key item done) (skip rest)
                      | '\x7d' :: rest => .ok (.object (insert key item done), rest)
                      | _ => .error .malformed
              | _ => .error .malformed
      | _ => .error .malformed

end

/-- The value that a whole text denotes, nested at most `room` deep. -/
def readWithin (room : Nat) (input : List Char) : Except ReadFault Json :=
  match value (2 * input.length + 2) room (skip input) with
  | .error fault => .error fault
  | .ok (value, rest) => if (skip rest).isEmpty then .ok value else .error .malformed

/-- The room for a document from outside, if the reader is called near the bottom
of the stack. -/
def depthLimit : Nat := 980

/-- The value of a document from outside. -/
def readDocument (input : List Char) : Except ReadFault Json := readWithin depthLimit input

/-- The value that a whole text denotes, however deep. -/
def read? (input : List Char) : Option Json := (readWithin input.length input).toOption

end ClientAuth.Json

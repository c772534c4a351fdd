import ClientAuth.Json.Basic
import ClientAuth.Number.WholeText
import ClientAuth.Text.Half

/-! Reading typed values from JSON. A reader either gives the value or lists
every complaint, each with the path to what it is about; no complaint hides
another. -/
namespace ClientAuth

/-- One step of a path into a value. -/
inductive PathStep
  | key (name : String)
  | index (position : Nat)
deriving DecidableEq, Repr

/-- What is wrong with a value. -/
inductive Mistake
  | missing
  | notObject
  | notMap
  | notList
  | notText
  | notUnicode
  | tooShort
  | notMember
  | notLiteral
  | notInt
  | intText
  | intSize
  | intFraction
  | notFinite
  | notBool
  | boolText
  | notFloat
  | floatText
  | frozen
deriving DecidableEq, Repr

/-- The name under which a mistake is reported. -/
def Mistake.name : Mistake → String
  | missing => "missing"
  | notObject => "model_type"
  | notMap => "dict_type"
  | notList => "tuple_type"
  | notText => "string_type"
  | notUnicode => "string_unicode"
  | tooShort => "string_too_short"
  | notMember => "enum"
  | notLiteral => "literal_error"
  | notInt => "int_type"
  | intText => "int_parsing"
  | intSize => "int_parsing_size"
  | intFraction => "int_from_float"
  | notFinite => "finite_number"
  | notBool => "bool_type"
  | boolText => "bool_parsing"
  | notFloat => "float_type"
  | floatText => "float_parsing"
  | frozen => "frozen_instance"

/-- A mistake and where it is. -/
structure Complaint where
  path : List PathStep
  mistake : Mistake
deriving DecidableEq, Repr

/-- A value, or all complaints about it in order. -/
abbrev Checked (α : Type) := Except (List Complaint) α

namespace Checked

/-- Refuses a value as a whole. -/
def refuse {α : Type} (mistake : Mistake) : Checked α := .error [⟨[], mistake⟩]

/-- Puts a step in front of every complaint's path. -/
def within {α : Type} (step : PathStep) : Checked α → Checked α
  | .ok value => .ok value
  | .error complaints => .error (complaints.map fun c => { c with path := step :: c.path })

/-- Applies a checked function. Complaints of both sides are kept, those of the
function first. -/
def ap {α β : Type} : Checked (α → β) → Checked α → Checked β
  | .ok f, .ok value => .ok (f value)
  | .ok _, .error later => .error later
  | .error first, .ok _ => .error first
  | .error first, .error later => .error (first ++ later)

/-- Reads every item at its position. -/
def list {α : Type} (read : Json → Checked α) (start : Nat) : List Json → Checked (List α)
  | [] => .ok []
  | item :: rest =>
      ap ((within (.index start) (read item)).map fun value later => value :: later)
        (list read (start + 1) rest)

/-- Reads every value of a map at its key. -/
def entries {α : Type} (read : Json → Checked α) :
    List (String × Json) → Checked (List (String × α))
  | [] => .ok []
  | (key, item) :: rest =>
      ap ((within (.key key) (read item)).map fun value later => (key, value) :: later)
        (entries read rest)

/-- The first of several names of a field that is present, with its value. -/
def present? (names : List String) (members : List (String × Json)) : Option (String × Json) :=
  names.findSome? fun name => (Json.lookup? name members).map (name, ·)

/-- Reads a field that may be absent. -/
def optional {α : Type} (names : List String) (default : α) (read : Json → Checked α)
    (members : List (String × Json)) : Checked α :=
  match present? names members with
  | some (name, value) => within (.key name) (read value)
  | none => .ok default

/-- Reads a field that must be present. -/
def required {α : Type} (name : String) (read : Json → Checked α)
    (members : List (String × Json)) : Checked α :=
  match Json.lookup? name members with
  | some value => within (.key name) (read value)
  | none => within (.key name) (refuse .missing)

/-- Reads the members of an object. -/
def object {α : Type} (read : List (String × Json) → Checked α) : Json → Checked α
  | .object members => read members
  | _ => refuse .notObject

/-- Allows null in place of a value. -/
def nullable {α : Type} (read : Json → Checked α) : Json → Checked (Option α)
  | .null => .ok none
  | value => (read value).map some

/-- A text. Nothing else is turned into one. -/
def text : Json → Checked String
  | .text value => .ok value
  | _ => refuse .notText

/-- Reads what a text denotes. A text with halves of characters denotes
nothing. -/
def denoted {α : Type} (read : String → Checked α) (value : String) : Checked α :=
  if Text.isWhole value then read value else refuse .notUnicode

/-- A text that is the name of one of several values. -/
def choice {α : Type} (mistake : Mistake) (find : String → Option α) : Json → Checked α
  | .text value =>
      denoted (fun name =>
        match find name with
        | some member => .ok member
        | none => refuse mistake) value
  | _ => refuse mistake

/-- The integer that a text denotes. -/
def intOfText (value : String) : Checked Int :=
  match WholeText.read value.toList with
  | .ok whole => .ok whole
  | .error .malformed => refuse .intText
  | .error .tooLong => refuse .intSize

/-- The first magnitude beyond 64 bits with a sign. -/
def wordBound : Nat := 0x8000000000000000

/-- An integer. Truth values count as one and zero, a double must be whole and
of 64 bits, and a text is read as a numeral. -/
def int : Json → Checked Int
  | .int value => .ok value
  | .bool value => .ok (if value then 1 else 0)
  | .float value =>
      if !value.isFinite then refuse .notFinite
      else
        match value.toInt? with
        | none => refuse .intFraction
        | some whole => if whole.natAbs < wordBound then .ok whole else refuse .intSize
  | .text value => denoted intOfText value
  | _ => refuse .notInt

/-- The words for true and false, in lower case. -/
def truth? (word : String) : Option Bool :=
  if word ∈ ["1", "t", "true", "y", "yes", "on"] then some true
  else if word ∈ ["0", "f", "false", "n", "no", "off"] then some false
  else none

/-- The truth value that a whole number of 64 bits stands for. -/
def truthOfInt (value : Int) : Checked Bool :=
  if value = 0 then .ok false else if value = 1 then .ok true else refuse .boolText

/-- The truth value that a word in either case stands for. -/
def truthOfText (value : String) : Checked Bool :=
  match truth? (String.ofList (value.toList.map Numeral.lower)) with
  | some truth => .ok truth
  | none => refuse .boolText

/-- A truth value. One and zero and the usual words, in either case, stand for
true and false. -/
def bool : Json → Checked Bool
  | .bool value => .ok value
  | .int value =>
      if -wordBound ≤ value ∧ value < wordBound then truthOfInt value else refuse .notBool
  | .float value =>
      match value.toInt? with
      | some whole => if whole.natAbs < wordBound then truthOfInt whole else refuse .notBool
      | none => refuse .notBool
  | .text value => denoted truthOfText value
  | _ => refuse .notBool

/-- The double that a numeral denotes. -/
def floatOfText (value : String) : Checked Binary64 :=
  match Numeral.readPlain? value with
  | some numeral => .ok numeral.toBinary64
  | none => refuse .floatText

/-- A double. Integers are rounded to the nearest one, truth values count as
one and zero, and a text is read as a numeral. -/
def float : Json → Checked Binary64
  | .float value => .ok value
  | .int value =>
      match Binary64.ofInt? value with
      | some nearest => .ok nearest
      | none => refuse .notFloat
  | .bool value => .ok (Binary64.ofRatio false (if value then 1 else 0) 1)
  | .text value => denoted floatOfText value
  | _ => refuse .notFloat

@[simp] theorem ap_ok {α β : Type} (f : α → β) (value : α) :
    ap (.ok f) (.ok value) = .ok (f value) := rfl

@[simp] theorem within_ok {α : Type} (step : PathStep) (value : α) :
    within step (.ok value) = .ok value := rfl

end Checked
end ClientAuth

import ClientAuth.Json.Basic
import ClientAuth.Number.DecimalText
import ClientAuth.Text.Quoted

/-! Two texts of a JSON value: the JSON form, which may have its halves escaped,
and the form shown to people in messages. -/
namespace ClientAuth.Json

/-- One character inside a JSON text. Only the two that have a meaning there and
the controls are escaped. -/
def escape (c : Char) : List Char :=
  if c = '"' then ['\\', '"']
  else if c = '\\' then ['\\', '\\']
  else if c = '\n' then ['\\', 'n']
  else if c = '\r' then ['\\', 'r']
  else if c = '\t' then ['\\', 't']
  else if c = '\x08' then ['\\', 'b']
  else if c = '\x0c' then ['\\', 'f']
  else if c.toNat < 0x20 then '\\' :: 'u' :: Text.paddedHex 4 c.toNat
  else [c]

/-- A JSON text in its quotes. Halves of characters stay as they are. -/
def writeText (text : String) : String :=
  String.ofList ('"' :: text.toList.flatMap escape ++ ['"'])

/-- A double in JSON, with words for the values that are not finite. -/
def writeFloat (value : Binary64) : String :=
  if value.isNaN then "NaN"
  else if value.isFinite then value.text
  else if value.isNegative then "-Infinity" else "Infinity"

mutual

/-- The JSON form of a value, without white space. A half in one of its texts is
a half in the form. -/
def write : Json → String
  | null => "null"
  | bool true => "true"
  | bool false => "false"
  | int value => toString value
  | float value => writeFloat value
  | text value => writeText value
  | array items => "[" ++ ",".intercalate (writeItems items) ++ "]"
  | object members => "\x7b" ++ ",".intercalate (writeMembers members) ++ "\x7d"

def writeItems : List Json → List String
  | [] => []
  | item :: rest => write item :: writeItems rest

def writeMembers : List (String × Json) → List String
  | [] => []
  | (key, value) :: rest => (writeText key ++ ":" ++ write value) :: writeMembers rest

end

mutual

/-- A value shown inside another value: texts are quoted. -/
def display : Json → String
  | null => "None"
  | bool true => "True"
  | bool false => "False"
  | int value => toString value
  | float value => value.text
  | text value => Text.quoted value
  | array items => "[" ++ ", ".intercalate (displayItems items) ++ "]"
  | object members => "\x7b" ++ ", ".intercalate (displayMembers members) ++ "\x7d"

def displayItems : List Json → List String
  | [] => []
  | item :: rest => display item :: displayItems rest

def displayMembers : List (String × Json) → List String
  | [] => []
  | (key, value) :: rest => (Text.quoted key ++ ": " ++ display value) :: displayMembers rest

end

/-- The JSON form of a value in characters of Unicode alone: halves are escaped. -/
def writeWhole (value : Json) : String :=
  String.ofList ((Text.codes value.write.toList).flatMap fun code =>
    if Text.isHalf code then '\\' :: 'u' :: Text.paddedHex 4 code else [Char.ofNat code])

/-- The word for the kind of a value in messages. -/
def kindWord : Json → String
  | null => "NoneType"
  | bool _ => "bool"
  | int _ => "int"
  | float _ => "float"
  | text _ => "str"
  | array _ => "list"
  | object _ => "dict"

/-- A value shown by itself: a text stands as it is. -/
def shown : Json → String
  | text value => value
  | value => value.display

@[simp] theorem shown_text (value : String) : (text value).shown = value := rfl

end ClientAuth.Json

import ClientAuth.Fault

/-! The variables of an environment. A system keeps them as bytes that end with a
zero byte, and keeps a name apart from its value by an equals sign. -/
namespace ClientAuth.Environment

/-- Whether a text has a form in bytes. Some halves of characters stand for
single bytes that are no UTF-8. -/
def hasBytes (text : String) : Bool :=
  (Text.codes text.toList).all fun code =>
    !Text.isHalf code || decide (0xDC80 ≤ code ∧ code < 0xDD00)

/-- The value that a variable is to have, if it can. The name is looked at before
the value, and each of them for its bytes before anything else. -/
def entry (name : String) (value : Json) : Except Fault String :=
  if !hasBytes name then .error (.notUnicode name)
  else
    match value with
    | .text value =>
        if !hasBytes value then .error (.notUnicode value)
        else if '\x00' ∈ name.toList ++ value.toList ∨ '=' ∈ name.toList then .error .badVariable
        else if name = "" then .error .namelessVariable
        else .ok value
    | _ => .error .wrongKind

/-- An environment of given variables. -/
def ofMembers (members : List (String × Json)) : Except Fault (List (String × String)) :=
  members.mapM fun (name, value) => (entry name value).map fun value => (name, value)

end ClientAuth.Environment

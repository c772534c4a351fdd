import ClientAuth.Failure

/-! What counters are kept under: texts, numbers and truth values. Numbers of
equal value are one label, however they are spelled. -/
namespace ClientAuth

/-- A value that can be counted. -/
inductive Label
  | nothing
  | text (value : String)
  | truth (value : Bool)
  | whole (value : Int)
  | real (value : Binary64)
deriving DecidableEq, Repr

namespace Label

/-- The label that a value is. Lists and objects are none. -/
def ofJson? : Json → Option Label
  | .null => some nothing
  | .text value => some (text value)
  | .bool value => some (truth value)
  | .int value => some (whole value)
  | .float value => some (real value)
  | .array _ => none
  | .object _ => none

/-- A label as a value. -/
def toJson : Label → Json
  | nothing => .null
  | text value => .text value
  | truth value => .bool value
  | whole value => .int value
  | real value => .float value

/-- The label of a failure's code, unless it says nothing. -/
def ofCode (code : Json) : Outcome (Option Label) :=
  if code.isVacuous then .ok none
  else
    match ofJson? code with
    | some label => .ok (some label)
    | none => .halt .notCountable

/-- Where a label stands among numbers: first the infinity that it is, if it is
one, then its value in quanta. What is not a number has a place of its own. -/
def place? : Label → Option (Int × Int)
  | truth value => some (0, if value then Binary64.unit else 0)
  | whole value => some (0, value * Binary64.unit)
  | real value =>
      if value.isNaN then some (2, 0)
      else if value.isFinite then some (0, value.signedQuanta)
      else some (if value.isNegative then -1 else 1, 0)
  | _ => none

/-- Whether two labels are counted as one. -/
def same (x y : Label) : Bool := x = y || (x.place?.isSome && x.place? = y.place?)

/-- The order of two labels, for texts by code points and for numbers by value.
What is not a number is neither before nor behind another. -/
def before (x y : Label) : Bool :=
  match x, y with
  | text a, text b => a < b
  | _, _ =>
      match x.place?, y.place? with
      | some (a, v), some (b, w) => b ≠ 2 && (a < b || (a = b && v < w))
      | _, _ => false

/-- Whether labels have an order: they are all texts or all numbers, or there is
at most one. -/
def areOrdered (labels : List Label) : Bool :=
  let isText : Label → Bool
    | text _ => true
    | _ => false
  labels.length ≤ 1 || labels.all isText || labels.all (·.place?.isSome)

/-- A label as the key of a JSON object. -/
def key : Label → String
  | text value => value
  | label => label.toJson.write

@[simp] theorem ofJson?_toJson (label : Label) : ofJson? label.toJson = some label := by
  cases label <;> rfl

end Label
end ClientAuth

import ClientAuth.Number.Binary64

/-! JSON values. Whole numbers keep every digit, other numbers are doubles, and
the members of an object keep their order. -/
namespace ClientAuth

/-- A JSON value. -/
inductive Json
  | null
  | bool (value : Bool)
  | int (value : Int)
  | float (value : Binary64)
  | text (value : String)
  | array (items : List Json)
  | object (members : List (String × Json))
deriving Inhabited

namespace Json

/-- Gives a key a value. A key that is present keeps its place. -/
def insert {α : Type} (key : String) (value : α) : List (String × α) → List (String × α)
  | [] => [(key, value)]
  | (other, old) :: rest =>
      if other = key then (key, value) :: rest else (other, old) :: insert key value rest

/-- The value of a key. -/
def lookup? {α : Type} (key : String) (members : List (String × α)) : Option α :=
  (members.find? fun member => member.1 = key).map (·.2)

/-- The value of a member of an object. -/
def field? (key : String) : Json → Option Json
  | object members => lookup? key members
  | _ => none

/-- Whether a value says nothing: null, false, zero, or no content. -/
def isVacuous : Json → Bool
  | null => true
  | bool value => !value
  | int value => value = 0
  | float value => value.magnitude = 0
  | text value => value = ""
  | array items => items.isEmpty
  | object members => members.isEmpty

/-- A text that may be missing. -/
def ofText? : Option String → Json
  | some value => text value
  | none => null

/-- The text of a value that is one. -/
def text? : Json → Option String
  | text value => some value
  | _ => none

@[simp] theorem lookup?_nil {α : Type} (key : String) :
    lookup? (α := α) key [] = none := rfl

theorem lookup?_cons {α : Type} (key other : String) (value : α)
    (rest : List (String × α)) :
    lookup? key ((other, value) :: rest) =
      if other = key then some value else lookup? key rest := by
  by_cases h : other = key <;> simp [lookup?, h]

theorem lookup?_insert {α : Type} (key other : String) (value : α)
    (members : List (String × α)) :
    lookup? other (insert key value members) =
      if key = other then some value else lookup? other members := by
  induction members with
  | nil => simp [insert, lookup?_cons]
  | cons member rest ih =>
      obtain ⟨name, old⟩ := member
      by_cases h : name = key
      · subst h
        by_cases hOther : name = other <;> simp [insert, lookup?_cons, hOther]
      · by_cases hName : name = other
        · subst hName
          simp [insert, lookup?_cons, h, Ne.symm h]
        · simp [insert, lookup?_cons, h, hName, ih]

end Json
end ClientAuth

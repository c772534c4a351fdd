import ClientAuth.Json.Basic

/-! Equality of JSON values can be decided. Members count in their order. -/
namespace ClientAuth.Json

mutual

/-- Whether two values are one. -/
def same : Json → Json → Bool
  | .null, .null => true
  | .bool x, .bool y => x = y
  | .int x, .int y => x = y
  | .float x, .float y => x = y
  | .text x, .text y => x = y
  | .array xs, .array ys => sameItems xs ys
  | .object xs, .object ys => sameMembers xs ys
  | _, _ => false

def sameItems : List Json → List Json → Bool
  | [], [] => true
  | x :: xs, y :: ys => same x y && sameItems xs ys
  | _, _ => false

def sameMembers : List (String × Json) → List (String × Json) → Bool
  | [], [] => true
  | (key, x) :: xs, (other, y) :: ys => key = other && same x y && sameMembers xs ys
  | _, _ => false

end

mutual

theorem same_iff (x y : Json) : same x y = true ↔ x = y := by
  cases x with
  | array xs => cases y <;> simp [same, sameItems_iff xs]
  | object xs => cases y <;> simp [same, sameMembers_iff xs]
  | _ => cases y <;> simp [same]

theorem sameItems_iff (xs ys : List Json) : sameItems xs ys = true ↔ xs = ys := by
  cases xs with
  | nil => cases ys <;> simp [sameItems]
  | cons x xs => cases ys <;> simp [sameItems, same_iff x, sameItems_iff xs]

theorem sameMembers_iff (xs ys : List (String × Json)) : sameMembers xs ys = true ↔ xs = ys := by
  cases xs with
  | nil => cases ys <;> simp [sameMembers]
  | cons member xs =>
      obtain ⟨key, x⟩ := member
      cases ys <;> simp [sameMembers, same_iff x, sameMembers_iff xs, Prod.ext_iff]

end

instance : DecidableEq Json := fun x y => decidable_of_iff _ (same_iff x y)

end ClientAuth.Json

/-! Stable sorting of lists by a strict order. -/
namespace ClientAuth

/-- Puts an item before the first one that is not less. -/
def insertBy {α : Type} (less : α → α → Bool) (item : α) : List α → List α
  | [] => [item]
  | other :: rest =>
      if less other item then other :: insertBy less item rest else item :: other :: rest

/-- The items in increasing order. Items of which none is less keep their
order. -/
def sortBy {α : Type} (less : α → α → Bool) (items : List α) : List α :=
  items.foldr (insertBy less) []

theorem insertBy_perm {α : Type} (less : α → α → Bool) (item : α) (items : List α) :
    (insertBy less item items).Perm (item :: items) := by
  induction items with
  | nil => exact .refl _
  | cons other rest ih =>
      unfold insertBy
      split
      · exact (ih.cons other).trans (.swap item other rest)
      · exact .refl _

theorem sortBy_perm {α : Type} (less : α → α → Bool) (items : List α) :
    (sortBy less items).Perm items := by
  induction items with
  | nil => exact .refl _
  | cons item rest ih => exact (insertBy_perm less item _).trans (ih.cons item)

@[simp] theorem sortBy_nil {α : Type} (less : α → α → Bool) : sortBy less [] = [] := rfl

end ClientAuth

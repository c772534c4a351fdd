import Mathlib.Data.String.Basic
import ClientAuth.Api.Signature
import ClientAuth.Proofs.RuleOrder

/-! Sorted lists: sorting puts a list in order, leaves one that is in order as it is, and goes only
by how an item compares with those behind it. -/
namespace ClientAuth

section

variable {α : Type} {less : α → α → Bool} {before : α → α → Prop}

theorem pairwise_insertBy (hTrans : ∀ x y z, before x y → before y z → before x z)
    (hLess : ∀ x y, less x y = true → before x y)
    (hNotLess : ∀ x y, less x y = false → before y x) (item : α) {items : List α}
    (h : items.Pairwise before) : (insertBy less item items).Pairwise before := by
  induction items with
  | nil => exact List.pairwise_singleton before item
  | cons other rest ih =>
      rw [List.pairwise_cons] at h
      rw [insertBy]
      split
      next hOther =>
        refine List.pairwise_cons.mpr ⟨fun another hMem => ?_, ih h.2⟩
        rcases List.mem_cons.mp ((insertBy_perm less item rest).mem_iff.mp hMem) with rfl | hRest
        · exact hLess other _ hOther
        · exact h.1 another hRest
      next hOther =>
        have hItem := hNotLess other item (Bool.eq_false_iff.mpr hOther)
        refine List.pairwise_cons.mpr ⟨fun another hMem => ?_, List.pairwise_cons.mpr h⟩
        rcases List.mem_cons.mp hMem with rfl | hRest
        · exact hItem
        · exact hTrans item other another hItem (h.1 another hRest)

theorem pairwise_sortBy (hTrans : ∀ x y z, before x y → before y z → before x z)
    (hLess : ∀ x y, less x y = true → before x y)
    (hNotLess : ∀ x y, less x y = false → before y x) (items : List α) :
    (sortBy less items).Pairwise before := by
  induction items with
  | nil => exact List.Pairwise.nil
  | cons item items ih => exact pairwise_insertBy hTrans hLess hNotLess item ih

theorem insertBy_congr {other : α → α → Bool} {item : α} {items : List α}
    (h : ∀ another ∈ items, less another item = other another item) :
    insertBy less item items = insertBy other item items := by
  induction items with
  | nil => rfl
  | cons first rest ih =>
      rw [insertBy, insertBy, h first List.mem_cons_self,
        ih fun another hMem => h another (List.mem_cons_of_mem _ hMem)]

theorem map_insertBy {β : Type} (view : β → α) (item : β) (items : List β) :
    (insertBy (fun x y => less (view x) (view y)) item items).map view =
      insertBy less (view item) (items.map view) := by
  induction items with
  | nil => rfl
  | cons other rest ih =>
      rw [insertBy, List.map_cons, insertBy, apply_ite (List.map view), List.map_cons, ih]
      rfl

theorem sortBy_eq_self {items : List α} (h : items.Pairwise fun x y => less y x = false) :
    sortBy less items = items := by
  induction items with
  | nil => rfl
  | cons item items ih =>
      rw [List.pairwise_cons] at h
      change insertBy less item (sortBy less items) = item :: items
      rw [ih h.2, insertBy_of_not_less h.1]

/-- Items are only ever compared with items behind them. -/
theorem sortBy_congr {other : α → α → Bool} {items : List α}
    (h : items.Pairwise fun x y => less y x = other y x) :
    sortBy less items = sortBy other items := by
  induction items with
  | nil => rfl
  | cons item items ih =>
      obtain ⟨hItem, hRest⟩ := List.pairwise_cons.mp h
      change insertBy less item (sortBy less items) = insertBy other item (sortBy other items)
      rw [ih hRest]
      refine insertBy_congr fun another hMem => ?_
      exact hItem another ((sortBy_perm other items).mem_iff.mp hMem)

theorem map_sortBy {β : Type} (view : β → α) (items : List β) :
    (sortBy (fun x y => less (view x) (view y)) items).map view =
      sortBy less (items.map view) := by
  induction items with
  | nil => rfl
  | cons item items ih =>
      change (insertBy _ item (sortBy _ items)).map view =
        insertBy less (view item) (sortBy less (items.map view))
      rw [map_insertBy, ih]

end

/-- Headers that are sorted for signing stand in the order of their names. -/
theorem Signature.sortBy_names (headers : Headers) :
    sortBy (fun x y : String => decide (x < y)) ((sortBy pairBefore headers).map (·.1)) =
      (sortBy pairBefore headers).map (·.1) := by
  have hSorted : (sortBy pairBefore headers).Pairwise fun x y => x.1 ≤ y.1 := by
    refine pairwise_sortBy (fun x y z hFirst hRest => ?_) (fun x y h => ?_) (fun x y h => ?_)
      headers
    · exact le_trans hFirst hRest
    · rw [pairBefore] at h
      split at h
      next hSame => exact le_of_eq hSame
      next => exact le_of_lt (of_decide_eq_true h)
    · rw [pairBefore] at h
      split at h
      next hSame => exact le_of_eq hSame.symm
      next => exact not_lt.mp (of_decide_eq_false h)
  exact sortBy_eq_self
    (List.pairwise_map.mpr (hSorted.imp fun h => decide_eq_false (not_lt.mpr h)))

end ClientAuth

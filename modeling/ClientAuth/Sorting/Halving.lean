import ClientAuth.Sorting

/-! Sorting by an order that may be partial, such as that of numbers with one
that is none. The longest run at the start that is in order, or strictly in the
opposite order, is kept or turned round; every further item is put where halving
the sorted part leads. Main statement: no item is lost or made up. -/
namespace ClientAuth

/-- The items that go on from one without falling, and the rest. -/
def risingFrom {α : Type} (less : α → α → Bool) (last : α) : List α → List α × List α
  | [] => ([], [])
  | item :: rest =>
      if less item last then ([], item :: rest)
      else
        let (run, others) := risingFrom less item rest
        (item :: run, others)

/-- The items that go on from one and fall at every step, and the rest. -/
def fallingFrom {α : Type} (less : α → α → Bool) (last : α) : List α → List α × List α
  | [] => ([], [])
  | item :: rest =>
      if less item last then
        let (run, others) := fallingFrom less item rest
        (item :: run, others)
      else ([], item :: rest)

/-- Puts an item where halving leads: before the middle item if it is less than
that one, and behind it otherwise. -/
def insertHalving {α : Type} (less : α → α → Bool) (item : α) (items : List α) : List α :=
  let half := items.length / 2
  if h : half < items.length then
    if less item items[half] then insertHalving less item (items.take half) ++ items.drop half
    else items.take (half + 1) ++ insertHalving less item (items.drop (half + 1))
  else [item]
termination_by items.length
decreasing_by all_goals grind

/-- The run at the start in its order, and the rest. -/
def firstRun {α : Type} (less : α → α → Bool) : List α → List α × List α
  | [] => ([], [])
  | [item] => ([item], [])
  | first :: second :: rest =>
      if less second first then
        ((first :: second :: (fallingFrom less second rest).1).reverse,
          (fallingFrom less second rest).2)
      else
        (first :: second :: (risingFrom less second rest).1, (risingFrom less second rest).2)

/-- The items sorted, as far as their order goes. -/
def sortByHalving {α : Type} (less : α → α → Bool) (items : List α) : List α :=
  (firstRun less items).2.foldl (fun sorted item => insertHalving less item sorted)
    (firstRun less items).1

theorem risingFrom_append {α : Type} (less : α → α → Bool) (last : α) (items : List α) :
    (risingFrom less last items).1 ++ (risingFrom less last items).2 = items := by
  induction items generalizing last with
  | nil => rfl
  | cons item rest ih =>
      unfold risingFrom
      split
      · rfl
      · exact congrArg (item :: ·) (ih item)

theorem fallingFrom_append {α : Type} (less : α → α → Bool) (last : α) (items : List α) :
    (fallingFrom less last items).1 ++ (fallingFrom less last items).2 = items := by
  induction items generalizing last with
  | nil => rfl
  | cons item rest ih =>
      unfold fallingFrom
      split
      · exact congrArg (item :: ·) (ih item)
      · rfl

theorem insertHalving_perm {α : Type} (less : α → α → Bool) (item : α) (items : List α) :
    (insertHalving less item items).Perm (item :: items) := by
  fun_induction insertHalving less item items with
  | case1 items half h hLess ih =>
      exact (ih.append_right _).trans (by simp)
  | case2 items half h hLess ih =>
      exact ((ih.append_left _).trans List.perm_middle).trans (by simp)
  | case3 items half h =>
      have hEmpty : items = [] := List.length_eq_zero_iff.mp (by omega)
      simp [hEmpty]

theorem foldl_insertHalving_perm {α : Type} (less : α → α → Bool) (items sorted : List α) :
    (items.foldl (fun sorted item => insertHalving less item sorted) sorted).Perm
      (sorted ++ items) := by
  induction items generalizing sorted with
  | nil => simp
  | cons item rest ih =>
      exact (ih _).trans (((insertHalving_perm less item sorted).append_right rest).trans
        List.perm_middle.symm)

theorem firstRun_perm {α : Type} (less : α → α → Bool) (items : List α) :
    ((firstRun less items).1 ++ (firstRun less items).2).Perm items := by
  fun_cases firstRun less items with
  | case1 => exact .refl _
  | case2 item => exact .refl _
  | case3 first second rest h =>
      refine ((List.reverse_perm _).append_right _).trans ?_
      simp [fallingFrom_append]
  | case4 first second rest h => simp [risingFrom_append]

theorem sortByHalving_perm {α : Type} (less : α → α → Bool) (items : List α) :
    (sortByHalving less items).Perm items :=
  (foldl_insertHalving_perm less _ _).trans (firstRun_perm less items)

end ClientAuth

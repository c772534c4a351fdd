import ClientAuth.Proofs.SortedList

/-! Rules of one rank keep the order in which they are declared. Main statements: `eq_sortRules`,
by which there is one stable sort, and `sortRules_stable`, what it does to any list of rules. -/
namespace ClientAuth

/-- The rules of one strategy with the places where they are declared. -/
def placedOf (strategy : Strategy) (rules : List Rule) : List (Rule × Nat) :=
  rules.zipIdx.filter fun placed => placed.1.strategy = strategy

/-- A strategy that is not listed among the ranked ones comes after them all. -/
theorem Strategy.idxOf_ranked (strategy : Strategy) : ranked.idxOf strategy = strategy.rank := by
  cases strategy <;> rfl

/-- A rule that is declared later comes first only by its rank. -/
theorem Rule.keyBefore_of_later {x y : Rule × Nat} (h : x.2 < y.2) :
    keyBefore y x = decide (y.1.strategy.rank < x.1.strategy.rank) := by
  have hPlace : ¬y.2 < x.2 := Nat.lt_asymm h
  simp only [keyBefore, Strategy.idxOf_ranked, hPlace, and_false, or_false]

theorem pairwise_zipIdx (rules : List Rule) : rules.zipIdx.Pairwise fun x y => x.2 < y.2 := by
  have hPlaces : (rules.zipIdx.map (·.2)).Pairwise (· < ·) := by
    rw [List.zipIdx_map_snd]
    exact List.pairwise_lt_range'
  exact List.pairwise_map.mp hPlaces

/-- Rules of one rank stand in the order of their places already, so that the places in the key
change nothing. -/
theorem placedRules_eq_sortBy (rules : List Rule) :
    placedRules rules =
      sortBy (fun x y => x.1.strategy.rank < y.1.strategy.rank) rules.zipIdx :=
  sortBy_congr ((pairwise_zipIdx rules).imp Rule.keyBefore_of_later)

theorem placedRules_eq (rules : List Rule) :
    placedRules rules = Strategy.all.flatMap (placedOf · rules) := by
  rw [placedRules_eq_sortBy]
  exact sortBy_rank (fun placed => placed.1.strategy) rules.zipIdx

/-- Sorting by rank and place, and sorting by rank alone, give the same rules. -/
theorem map_placedRules (rules : List Rule) : (placedRules rules).map (·.1) = sortRules rules := by
  let less (x y : Rule) : Bool := x.strategy.rank < y.strategy.rank
  calc (placedRules rules).map (·.1)
      = (sortBy (fun x y => less x.1 y.1) rules.zipIdx).map (·.1) := by
        rw [placedRules_eq_sortBy]
    _ = sortBy less (rules.zipIdx.map (·.1)) := map_sortBy (·.1) rules.zipIdx
    _ = sortRules rules := by
        rw [List.zipIdx_map_fst]
        rfl

/-- Sorted rules stand in the order of their ranks. -/
theorem pairwise_sortRules (rules : List Rule) :
    (sortRules rules).Pairwise fun x y => x.strategy.rank ≤ y.strategy.rank := by
  have hTrans (x y z : Rule) (hFirst : x.strategy.rank ≤ y.strategy.rank)
      (hRest : y.strategy.rank ≤ z.strategy.rank) : x.strategy.rank ≤ z.strategy.rank :=
    Nat.le_trans hFirst hRest
  refine pairwise_sortBy hTrans (fun x y h => ?_) (fun x y h => ?_) rules
  · exact Nat.le_of_lt (of_decide_eq_true h)
  · exact Nat.le_of_not_lt (of_decide_eq_false h)

theorem rulesOf_rulesOf (strategy other : Strategy) (rules : List Rule) :
    rulesOf strategy (rulesOf other rules) =
      if other = strategy then rulesOf strategy rules else [] := by
  rw [rulesOf, rulesOf, List.filter_filter]
  split
  next hSame =>
    rw [hSame]
    simp only [Bool.and_self, rulesOf]
  next hOther =>
    refine List.filter_eq_nil_iff.mpr fun rule _ hBoth => hOther ?_
    simp only [Bool.and_eq_true, decide_eq_true_eq] at hBoth
    exact hBoth.2.symm.trans hBoth.1

/-- Sorting keeps the rules of each strategy and their order. -/
theorem rulesOf_sortRules (strategy : Strategy) (rules : List Rule) :
    rulesOf strategy (sortRules rules) = rulesOf strategy rules := by
  have hParts : rulesOf strategy (sortRules rules) =
      Strategy.all.flatMap fun other => rulesOf strategy (rulesOf other rules) := by
    rw [sortRules_eq]
    exact List.filter_flatMap
  rw [hParts]
  simp only [rulesOf_rulesOf]
  cases strategy <;> simp [Strategy.all]

/-- There is one stable sort: rules that stand in the order of their ranks, those of each strategy
as they were declared, are the sorted ones. -/
theorem eq_sortRules {rules others : List Rule}
    (hSorted : others.Pairwise fun x y => x.strategy.rank ≤ y.strategy.rank)
    (hDeclared : ∀ strategy, rulesOf strategy others = rulesOf strategy rules) :
    others = sortRules rules := by
  have hSelf : sortRules others = others :=
    sortBy_eq_self (hSorted.imp fun h => decide_eq_false (Nat.not_lt.mpr h))
  calc others = sortRules others := hSelf.symm
    _ = Strategy.all.flatMap (rulesOf · others) := sortRules_eq others
    _ = Strategy.all.flatMap (rulesOf · rules) := by simp only [hDeclared]
    _ = sortRules rules := (sortRules_eq rules).symm

/-- Rules may be picked before or after they are sorted. -/
theorem sortRules_filter (keep : Rule → Bool) (rules : List Rule) :
    sortRules (rules.filter keep) = (sortRules rules).filter keep := by
  refine (eq_sortRules ((pairwise_sortRules rules).filter keep) fun strategy => ?_).symm
  calc rulesOf strategy ((sortRules rules).filter keep)
      = (rulesOf strategy (sortRules rules)).filter keep := List.filter_comm ..
    _ = (rulesOf strategy rules).filter keep := by rw [rulesOf_sortRules]
    _ = rulesOf strategy (rules.filter keep) := List.filter_comm ..

/-- Sorting is stable by rank. By a key of rank and place the rules at their places come strategy by
strategy, each as declared, and so do the sorted rules. Nothing is lost or added, sorted rules stay
as they are, and the rules of a model that cover an operation come in the same order whether they
are picked before or after sorting. -/
theorem sortRules_stable (rules : List Rule) :
    sortRules rules = (placedRules rules).map (·.1) ∧
    placedRules rules = placedOf .owner rules ++ placedOf .groups rules ++
      placedOf .private rules ++ placedOf .public rules ++ placedOf .custom rules ∧
    sortRules rules = rulesOf .owner rules ++ rulesOf .groups rules ++ rulesOf .private rules ++
      rulesOf .public rules ++ rulesOf .custom rules ∧
    (sortRules rules).Perm rules ∧
    sortRules (sortRules rules) = sortRules rules ∧
    ∀ (name : String) (operation : Operation),
      sortRules (ModelSchema.applicable ⟨name, rules⟩ operation) =
        ModelSchema.applicable ⟨name, sortRules rules⟩ operation := by
  refine ⟨(map_placedRules rules).symm, ?_, ?_, sortRules_perm rules, ?_, fun name operation => ?_⟩
  · simp only [placedRules_eq, Strategy.all, List.flatMap_cons, List.flatMap_nil, List.append_nil,
      List.append_assoc]
  · simp only [sortRules_eq, Strategy.all, List.flatMap_cons, List.flatMap_nil, List.append_nil,
      List.append_assoc]
  · exact (eq_sortRules (pairwise_sortRules rules) fun _ => rfl).symm
  · exact sortRules_filter (·.covers operation) rules

/-- Two equal rules of a strategy without a rank, the public and an owner. -/
example :
    placedRules [⟨.custom, "oidc", []⟩, ⟨.public, "", []⟩, ⟨.custom, "oidc", []⟩,
      ⟨.owner, "", [.read]⟩] =
    [(⟨.owner, "", [.read]⟩, 3), (⟨.public, "", []⟩, 1), (⟨.custom, "oidc", []⟩, 0),
      (⟨.custom, "oidc", []⟩, 2)] := by
  decide

end ClientAuth

import Mathlib.Data.List.Basic
import ClientAuth.Authorization.Rule

/-! The order in which the rules of a model are tried. Main statements: `sortRules_eq`, the rules
strategy by strategy, and `mechanismSequence_canonical`, the mechanisms that they come to. -/
namespace ClientAuth

section

variable {α : Type} {less : α → α → Bool} {item : α}

theorem insertBy_append {front : List α} (h : ∀ other ∈ front, less other item = true)
    (back : List α) : insertBy less item (front ++ back) = front ++ insertBy less item back := by
  induction front with
  | nil => rfl
  | cons other front ih =>
      rw [List.cons_append, insertBy, if_pos (h other List.mem_cons_self),
        ih fun another hMem => h another (List.mem_cons_of_mem _ hMem), List.cons_append]

theorem insertBy_of_not_less {back : List α} (h : ∀ other ∈ back, less other item = false) :
    insertBy less item back = item :: back := by
  cases back with
  | nil => rfl
  | cons other back =>
      rw [insertBy, h other List.mem_cons_self]
      rfl

end

/-- The rules of one strategy, as declared. -/
def rulesOf (strategy : Strategy) (rules : List Rule) : List Rule :=
  rules.filter fun rule => rule.strategy = strategy

/-- A strategy stands between those of lower and those of higher rank. -/
theorem Strategy.exists_split (strategy : Strategy) :
    ∃ before after, all = before ++ strategy :: after ∧
      (∀ other ∈ before, other.rank < strategy.rank) ∧
      ∀ other ∈ after, strategy.rank < other.rank := by
  cases strategy with
  | owner => exact ⟨[], [groups, «private», «public», custom], rfl, by decide, by decide⟩
  | groups => exact ⟨[owner], [«private», «public», custom], rfl, by decide, by decide⟩
  | «private» => exact ⟨[owner, groups], [«public», custom], rfl, by decide, by decide⟩
  | «public» => exact ⟨[owner, groups, «private»], [custom], rfl, by decide, by decide⟩
  | custom => exact ⟨[owner, groups, «private», «public»], [], rfl, by decide, by decide⟩

section

variable {α : Type} {strategyOf : α → Strategy} {strategies : List Strategy} {item : α}
  {items : List α}

/-- The items of one strategy, as they stand. -/
def itemsOf (strategyOf : α → Strategy) (items : List α) (strategy : Strategy) : List α :=
  items.filter (strategyOf · = strategy)

theorem flatMap_itemsOf_cons
    (h : ∀ strategy ∈ strategies, strategy.rank ≠ (strategyOf item).rank) (items : List α) :
    strategies.flatMap (itemsOf strategyOf (item :: items)) =
      strategies.flatMap (itemsOf strategyOf items) := by
  refine List.flatMap_congr fun strategy hMem => ?_
  have hOther : strategyOf item ≠ strategy := fun hEq => h strategy hMem (by rw [hEq])
  rw [itemsOf, itemsOf, List.filter_cons_of_neg (by simpa using hOther)]

theorem mem_of_mem_flatMap_itemsOf (h : item ∈ strategies.flatMap (itemsOf strategyOf items)) :
    strategyOf item ∈ strategies := by
  obtain ⟨strategy, hStrategy, hItem⟩ := List.mem_flatMap.mp h
  obtain rfl : strategyOf item = strategy := by
    simpa using (List.mem_filter.mp hItem).2
  exact hStrategy

/-- Sorting by rank takes items strategy by strategy, each as they stand. -/
theorem sortBy_rank (strategyOf : α → Strategy) (items : List α) :
    sortBy (fun x y => (strategyOf x).rank < (strategyOf y).rank) items =
      Strategy.all.flatMap (itemsOf strategyOf items) := by
  induction items with
  | nil => rfl
  | cons item items ih =>
      obtain ⟨before, after, hAll, hBefore, hAfter⟩ := (strategyOf item).exists_split
      have hInsert : sortBy (fun x y => (strategyOf x).rank < (strategyOf y).rank) (item :: items) =
          insertBy (fun x y => (strategyOf x).rank < (strategyOf y).rank) item (sortBy _ items) :=
        rfl
      have hFront : ∀ other ∈ before.flatMap (itemsOf strategyOf items),
          decide ((strategyOf other).rank < (strategyOf item).rank) = true := by
        intro other hOther
        exact decide_eq_true (hBefore _ (mem_of_mem_flatMap_itemsOf hOther))
      have hBack : ∀ other ∈ (strategyOf item :: after).flatMap (itemsOf strategyOf items),
          decide ((strategyOf other).rank < (strategyOf item).rank) = false := by
        intro other hOther
        refine decide_eq_false ?_
        rcases List.mem_cons.mp (mem_of_mem_flatMap_itemsOf hOther) with hSame | hLater
        · rw [hSame]
          exact Nat.lt_irrefl _
        · exact Nat.lt_asymm (hAfter _ hLater)
      have hOwn : itemsOf strategyOf (item :: items) (strategyOf item) =
          item :: itemsOf strategyOf items (strategyOf item) :=
        List.filter_cons_of_pos (by simp)
      rw [hInsert, ih, hAll, List.flatMap_append, insertBy_append hFront,
        insertBy_of_not_less hBack, List.flatMap_append, List.flatMap_cons, List.flatMap_cons, hOwn,
        flatMap_itemsOf_cons fun other hOther => Nat.ne_of_lt (hBefore other hOther),
        flatMap_itemsOf_cons fun other hOther => Nat.ne_of_gt (hAfter other hOther)]
      rfl

end

/-- Sorting takes the rules strategy by strategy, each in declared order. -/
theorem sortRules_eq (rules : List Rule) :
    sortRules rules = Strategy.all.flatMap (rulesOf · rules) :=
  sortBy_rank Rule.strategy rules

/-- A mechanism for rules, if some rule has one of the strategies. -/
def mechanismIf (mechanism : Mechanism) (strategies : List Strategy) (rules : List Rule) :
    List Mechanism :=
  if ∃ rule ∈ rules, rule.strategy ∈ strategies then [mechanism] else []

theorem not_mem_mechanismIf {mechanism other : Mechanism} (h : other ≠ mechanism)
    (strategies : List Strategy) (rules : List Rule) :
    other ∉ mechanismIf mechanism strategies rules := by
  rw [mechanismIf]
  split
  · exact fun hMem => h (List.mem_singleton.mp hMem)
  · exact List.not_mem_nil

/-- Adds a mechanism to those that were found before, unless it is among them. -/
def addFound (found : List Mechanism) (mechanism : Mechanism) : List Mechanism :=
  if mechanism ∈ found then found else found ++ [mechanism]

/-- Mechanisms that are all one are found once, unless they were found before. -/
theorem foldl_addFound {mechanism : Mechanism} {block : List Mechanism}
    (h : ∀ other ∈ block, other = mechanism) (found : List Mechanism) :
    block.foldl addFound found = if block = [] then found else addFound found mechanism := by
  induction block generalizing found with
  | nil => rfl
  | cons other block ih =>
      obtain rfl := h other List.mem_cons_self
      have hTwice : addFound (addFound found other) other = addFound found other := by
        by_cases hFound : other ∈ found <;> simp [addFound, hFound]
      rw [List.foldl_cons, ih fun another hMem => h another (List.mem_cons_of_mem _ hMem), hTwice,
        ite_self, if_neg (List.cons_ne_nil other block)]

/-- The rules of a strategy add its mechanism, if there are any. -/
theorem foldl_rulesOf (strategy : Strategy) (rules : List Rule) (found : List Mechanism) :
    ((rulesOf strategy rules).map (·.strategy.mechanism)).foldl addFound found =
      if ∃ rule ∈ rules, rule.strategy = strategy then addFound found strategy.mechanism
      else found := by
  have hOne : ∀ mechanism ∈ (rulesOf strategy rules).map (·.strategy.mechanism),
      mechanism = strategy.mechanism := by
    intro mechanism hMem
    obtain ⟨rule, hRule, rfl⟩ := List.mem_map.mp hMem
    obtain rfl : rule.strategy = strategy := by
      simpa using (List.mem_filter.mp hRule).2
    rfl
  have hNone : (rulesOf strategy rules).map (·.strategy.mechanism) = [] ↔
      ¬∃ rule ∈ rules, rule.strategy = strategy := by
    simp [rulesOf, List.filter_eq_nil_iff]
  rw [foldl_addFound hOne]
  by_cases hSome : ∃ rule ∈ rules, rule.strategy = strategy
  · rw [if_pos hSome, if_neg (not_not.mpr hSome ∘ hNone.mp)]
  · rw [if_neg hSome, if_pos (hNone.mpr hSome)]

theorem foldl_rulesOf_new {strategy : Strategy} {found : List Mechanism}
    (h : strategy.mechanism ∉ found) (rules : List Rule) :
    ((rulesOf strategy rules).map (·.strategy.mechanism)).foldl addFound found =
      found ++ mechanismIf strategy.mechanism [strategy] rules := by
  rw [foldl_rulesOf, mechanismIf]
  simp only [List.mem_singleton]
  split
  · exact if_neg h
  · exact (List.append_nil found).symm

/-- The mechanisms of rules, in the order of the strategies that they serve. -/
theorem mechanismSequence_eq (rules : List Rule) :
    mechanismSequence rules = mechanismIf .userPools [.owner, .groups] rules ++
      mechanismIf .awsIam [.private] rules ++ mechanismIf .apiKey [.public] rules ++
      mechanismIf .none [.custom] rules := by
  let add (strategy : Strategy) (found : List Mechanism) : List Mechanism :=
    ((rulesOf strategy rules).map (·.strategy.mechanism)).foldl addFound found
  let pools := mechanismIf .userPools [.owner, .groups] rules
  let iam := mechanismIf .awsIam [.private] rules
  let key := mechanismIf .apiKey [.public] rules
  have hSequence : mechanismSequence rules =
      add .custom (add .public (add .private (add .groups (add .owner [])))) := by
    change ((sortRules rules).map (·.strategy.mechanism)).foldl addFound [] = _
    simp only [sortRules_eq, Strategy.all, List.flatMap_cons, List.flatMap_nil, List.append_nil,
      List.map_append, List.foldl_append, add]
  have hOwner : add .owner [] = mechanismIf .userPools [.owner] rules :=
    foldl_rulesOf_new List.not_mem_nil rules
  -- Owners and groups are served by one mechanism, so that the second may add nothing.
  have hGroups : add .groups (mechanismIf .userPools [.owner] rules) = pools := by
    simp only [add, pools, foldl_rulesOf, mechanismIf, List.mem_cons, List.not_mem_nil, or_false,
      and_or_left, exists_or]
    by_cases hOwner : ∃ rule ∈ rules, rule.strategy = .owner <;>
      simp [hOwner, addFound, Strategy.mechanism]
  have hPrivate : add .private pools = pools ++ iam :=
    foldl_rulesOf_new (not_mem_mechanismIf (by decide) _ rules) rules
  have hPublic : add .public (pools ++ iam) = pools ++ iam ++ key := by
    refine foldl_rulesOf_new ?_ rules
    rw [List.mem_append, not_or]
    exact ⟨not_mem_mechanismIf (by decide) _ rules, not_mem_mechanismIf (by decide) _ rules⟩
  have hCustom : add .custom (pools ++ iam ++ key) =
      pools ++ iam ++ key ++ mechanismIf .none [.custom] rules := by
    refine foldl_rulesOf_new ?_ rules
    rw [List.mem_append, List.mem_append, not_or, not_or]
    exact ⟨⟨not_mem_mechanismIf (by decide) _ rules, not_mem_mechanismIf (by decide) _ rules⟩,
      not_mem_mechanismIf (by decide) _ rules⟩
  rw [hSequence, hOwner, hGroups, hPrivate, hPublic, hCustom]

/-- The mechanisms of rules stand in one order, whatever the order of the rules. -/
theorem mechanismSequence_sublist (rules : List Rule) :
    (mechanismSequence rules).Sublist [.userPools, .awsIam, .apiKey, .none] := by
  have hOne (mechanism : Mechanism) (strategies : List Strategy) :
      (mechanismIf mechanism strategies rules).Sublist [mechanism] := by
    rw [mechanismIf]
    split
    · exact List.Sublist.refl _
    · exact List.nil_sublist _
  rw [mechanismSequence_eq]
  exact (((hOne _ _).append (hOne _ _)).append (hOne _ _)).append (hOne _ _)

theorem mem_mechanismSequence {rules : List Rule} {mechanism : Mechanism}
    (h : mechanism ∈ mechanismSequence rules) :
    mechanism ∈ [.userPools, .awsIam, .apiKey, .none] :=
  (mechanismSequence_sublist rules).subset h

/-- Whether a mechanism is there for rules depends on the strategies that occur among them. -/
theorem mechanismIf_congr {rules others : List Rule}
    (h : ∀ strategy,
      (∃ rule ∈ rules, rule.strategy = strategy) ↔ ∃ rule ∈ others, rule.strategy = strategy)
    (mechanism : Mechanism) (strategies : List Strategy) :
    mechanismIf mechanism strategies rules = mechanismIf mechanism strategies others := by
  have hOccurs (rules : List Rule) : (∃ rule ∈ rules, rule.strategy ∈ strategies) ↔
      ∃ strategy ∈ strategies, ∃ rule ∈ rules, rule.strategy = strategy := by
    constructor
    · rintro ⟨rule, hRule, hStrategy⟩
      exact ⟨rule.strategy, hStrategy, rule, hRule, rfl⟩
    · rintro ⟨strategy, hStrategy, rule, hRule, rfl⟩
      exact ⟨rule, hRule, hStrategy⟩
  simp only [mechanismIf, hOccurs, h]

/-- The candidates of rules are canonical. No mechanism comes twice, those that come have one fixed
order, and nothing but the strategies that occur among the rules decides which of them come. -/
theorem mechanismSequence_canonical (rules : List Rule) :
    (mechanismSequence rules).Nodup ∧
    mechanismSequence rules =
      (if ∃ rule ∈ rules, rule.strategy = .owner ∨ rule.strategy = .groups then [.userPools]
        else []) ++
      (if ∃ rule ∈ rules, rule.strategy = .private then [.awsIam] else []) ++
      (if ∃ rule ∈ rules, rule.strategy = .public then [.apiKey] else []) ++
      (if ∃ rule ∈ rules, rule.strategy = .custom then [.none] else []) ∧
    ∀ others : List Rule,
      (∀ strategy, (∃ rule ∈ rules, rule.strategy = strategy) ↔
        ∃ rule ∈ others, rule.strategy = strategy) →
      mechanismSequence rules = mechanismSequence others := by
  refine ⟨?_, ?_, ?_⟩
  · exact (mechanismSequence_sublist rules).nodup (by decide)
  · simp only [mechanismSequence_eq, mechanismIf, List.mem_cons, List.not_mem_nil, or_false]
  · intro others hSame
    simp only [mechanismSequence_eq, mechanismIf_congr hSame]

/-- Rules of owners and of the public, once in turn and once turned round, with other providers and
operations. -/
theorem mechanismSequence_canonical_reordered :
    let rules : List Rule := [⟨.public, "apiKey", []⟩, ⟨.groups, "", [.read]⟩, ⟨.owner, "", []⟩]
    let others : List Rule := [⟨.owner, "oidc", [.read]⟩, ⟨.groups, "userPools", []⟩,
      ⟨.owner, "", [.create, .update]⟩, ⟨.public, "", [.delete]⟩]
    (∀ strategy, (∃ rule ∈ rules, rule.strategy = strategy) ↔
      ∃ rule ∈ others, rule.strategy = strategy) ∧
    mechanismSequence rules = [.userPools, .apiKey] ∧
    mechanismSequence rules = mechanismSequence others := by
  intro rules others
  have hSame : ∀ strategy, (∃ rule ∈ rules, rule.strategy = strategy) ↔
      ∃ rule ∈ others, rule.strategy = strategy := by
    intro strategy
    cases strategy <;> decide
  obtain ⟨-, hSequence, hOthers⟩ := mechanismSequence_canonical rules
  exact ⟨hSame, hSequence, hOthers others hSame⟩

end ClientAuth

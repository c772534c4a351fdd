import ClientAuth.Authorization.Mechanism
import ClientAuth.Sorting
import ClientAuth.Validation

/-! The access rules declared on models. -/
namespace ClientAuth

/-- A rule: who may do what, and perhaps through which provider. No operations
mean all. -/
structure Rule where
  strategy : Strategy
  provider : String
  operations : List Operation
deriving DecidableEq, Repr

namespace Rule

/-- Reads a rule. -/
def ofJson : Json → Checked Rule :=
  Checked.object fun members =>
    let operation := Checked.choice .notMember Operation.ofWord?
    let operations : Json → Checked (List Operation)
      | .array items => Checked.list operation 0 items
      | _ => Checked.refuse .notList
    Checked.ap (Checked.ap
      ((Checked.required "strategy" (Checked.choice .notMember Strategy.ofWord?) members).map Rule.mk)
      (Checked.optional ["provider"] "" Checked.text members))
      (Checked.optional ["operations"] [] operations members)

/-- A rule as an object. -/
def toJson (rule : Rule) : Json :=
  .object [("strategy", .text rule.strategy.word), ("provider", .text rule.provider),
    ("operations", .array (rule.operations.map fun operation => .text operation.word))]

/-- The operations that a rule grants. -/
def granted (rule : Rule) : List Operation :=
  if rule.operations.isEmpty then Operation.all else rule.operations

/-- Whether a rule covers an operation. -/
def covers (rule : Rule) (operation : Operation) : Bool := operation ∈ rule.granted

/-- The mechanism that a rule names, or its strategy's. -/
def mechanism (rule : Rule) : Outcome Mechanism :=
  Mechanism.ofProvider rule.provider rule.strategy

theorem covers_iff {rule : Rule} {operation : Operation} :
    rule.covers operation ↔ rule.operations = [] ∨ operation ∈ rule.operations := by
  unfold covers granted
  cases h : rule.operations with
  | nil => cases operation <;> simp [Operation.all]
  | cons first rest => simp

end Rule

/-- The rules of one model. -/
structure ModelSchema where
  name : String
  rules : List Rule
deriving DecidableEq, Repr

namespace ModelSchema

/-- A text with at least one character, each of them whole. -/
def nameOfJson : Json → Checked String
  | .text value =>
      Checked.denoted (fun name => if name = "" then Checked.refuse .tooShort else .ok name) value
  | _ => Checked.refuse .notText

/-- Reads the rules of a model. -/
def ofJson : Json → Checked ModelSchema :=
  Checked.object fun members =>
    let rules : Json → Checked (List Rule)
      | .array items => Checked.list Rule.ofJson 0 items
      | _ => Checked.refuse .notList
    Checked.ap ((Checked.required "name" nameOfJson members).map ModelSchema.mk)
      (Checked.optional ["auth_rules"] [] rules members)

/-- The rules of a model as an object. -/
def toJson (schema : ModelSchema) : Json :=
  .object [("name", .text schema.name), ("auth_rules", .array (schema.rules.map Rule.toJson))]

/-- The rules that cover an operation, as declared. -/
def applicable (schema : ModelSchema) (operation : Operation) : List Rule :=
  schema.rules.filter (·.covers operation)

end ModelSchema

/-- The rules by rank. Rules of one rank keep their declared order. -/
def sortRules (rules : List Rule) : List Rule :=
  sortBy (fun x y => x.strategy.rank < y.strategy.rank) rules

/-- Whether a rule at its place comes before another: by rank, then by place. The rank is where the
strategy is listed among the ranked ones, and one that is not listed comes after them all. -/
def Rule.keyBefore (x y : Rule × Nat) : Bool :=
  let rank (rule : Rule) := Strategy.ranked.idxOf rule.strategy
  rank x.1 < rank y.1 ∨ rank x.1 = rank y.1 ∧ x.2 < y.2

/-- The rules with the places where they are declared, by rank and then by place. -/
def placedRules (rules : List Rule) : List (Rule × Nat) := sortBy Rule.keyBefore rules.zipIdx

/-- The mechanisms of rules by rank, each once. -/
def mechanismSequence (rules : List Rule) : List Mechanism :=
  ((sortRules rules).map (·.strategy.mechanism)).foldl
    (fun found mechanism => if mechanism ∈ found then found else found ++ [mechanism]) []

theorem sortRules_perm (rules : List Rule) : (sortRules rules).Perm rules :=
  sortBy_perm _ rules

end ClientAuth

import Mathlib.Data.List.Nodup
import ClientAuth.Authorization.Resolver
import ClientAuth.Proofs.Outcome
import ClientAuth.Proofs.RuleOrder

/-! Resolution through the table of candidates against the rules of the models themselves. Main
statement: `resolveAndCount_direct`, for all models with distinct names, all providers whose
session can be probed, and all requests. -/
namespace ClientAuth

namespace ResolutionTable

theorem extend_of_nodup (schemas : List ModelSchema) (table : ResolutionTable) (seen : List String)
    (hNodup : (schemas.map (·.name)).Nodup) (hSeen : ∀ schema ∈ schemas, schema.name ∉ seen) :
    extend table seen schemas = .ok (table ++ schemas.flatMap rows) := by
  induction schemas generalizing table seen with
  | nil => simp [extend]
  | cons schema schemas ih =>
      obtain ⟨hFresh, hNodup⟩ := List.nodup_cons.mp hNodup
      have hRest : ∀ other ∈ schemas, other.name ∉ schema.name :: seen := by
        intro other hOther hMem
        rcases List.mem_cons.mp hMem with hSame | hOld
        · exact hFresh (List.mem_map.mpr ⟨other, hOther, hSame⟩)
        · exact hSeen other (List.mem_cons_of_mem _ hOther) hOld
      rw [extend, if_neg (hSeen schema List.mem_cons_self), ih _ _ hNodup hRest, List.flatMap_cons,
        List.append_assoc]

theorem build_of_nodup {schemas : List ModelSchema} (h : (schemas.map (·.name)).Nodup) :
    build schemas = .ok (schemas.flatMap rows) :=
  extend_of_nodup schemas [] [] h fun _ _ => List.not_mem_nil

theorem lookup?_rows (schema : ModelSchema) (model : String) (operation : Operation) :
    lookup? (rows schema) model operation =
      if schema.name = model then some (mechanismSequence (schema.applicable operation))
      else none := by
  by_cases h : schema.name = model
  · cases operation <;> simp [lookup?, rows, Operation.all, h]
  · cases operation <;> simp [lookup?, rows, Operation.all, h]

/-- A table of models is read as its first model of a name is. -/
theorem lookup?_flatMap_rows (schemas : List ModelSchema) (model : String)
    (operation : Operation) :
    lookup? (schemas.flatMap rows) model operation =
      (schemas.find? (·.name = model)).map fun schema =>
        mechanismSequence (schema.applicable operation) := by
  induction schemas with
  | nil => rfl
  | cons schema schemas ih =>
      have hAppend : lookup? (rows schema ++ schemas.flatMap rows) model operation =
          (lookup? (rows schema) model operation).or
            (lookup? (schemas.flatMap rows) model operation) := by
        rw [lookup?, List.find?_append, Option.map_or]
        rfl
      rw [List.flatMap_cons, hAppend, lookup?_rows, ih]
      by_cases h : schema.name = model <;> simp [h]

end ResolutionTable

/-- Whether some rule of a model gives an operation by one of the strategies. -/
def ModelSchema.Grants (schema : ModelSchema) (operation : Operation)
    (strategies : List Strategy) : Prop :=
  ∃ rule ∈ schema.rules,
    (rule.operations = [] ∨ operation ∈ rule.operations) ∧ rule.strategy ∈ strategies

instance (schema : ModelSchema) (operation : Operation) (strategies : List Strategy) :
    Decidable (schema.Grants operation strategies) :=
  inferInstanceAs (Decidable (∃ rule ∈ schema.rules, _))

theorem mechanismIf_applicable (mechanism : Mechanism) (strategies : List Strategy)
    (schema : ModelSchema) (operation : Operation) :
    mechanismIf mechanism strategies (schema.applicable operation) =
      if schema.Grants operation strategies then [mechanism] else [] := by
  have hGrants : (∃ rule ∈ schema.applicable operation, rule.strategy ∈ strategies) ↔
      schema.Grants operation strategies := by
    simp only [ModelSchema.applicable, ModelSchema.Grants, List.mem_filter, Rule.covers_iff,
      and_assoc]
  simp only [mechanismIf, hGrants]

namespace Providers

/-- The session of the user pool can be probed, if there is a pool. -/
def Probing (providers : Providers) : Prop :=
  ∀ pool, providers.userPools = some pool → ∃ current, pool.hasSession = .ok current

/-- Whether there is a user pool with a session. -/
def inSession (providers : Providers) : Bool :=
  match providers.userPools with
  | some ⟨.ok current, _⟩ => current
  | _ => false

theorem isUsable_userPools {providers : Providers} (h : providers.Probing) :
    providers.isUsable .userPools = .ok providers.inSession := by
  obtain ⟨apiKey, aws, userPools, oidc⟩ := providers
  cases userPools with
  | none => rfl
  | some pool =>
      obtain ⟨hasSession, latestToken⟩ := pool
      obtain ⟨current, hCurrent⟩ := h _ rfl
      change hasSession = .ok current at hCurrent
      rw [hCurrent]
      rfl

end Providers

/-- The mechanism for an operation, read straight off the rules of a model. -/
def ModelSchema.mechanismFor (schema : ModelSchema) (providers : Providers)
    (operation : Operation) : Mechanism :=
  if schema.Grants operation [.owner, .groups] ∧ providers.inSession then .userPools
  else if schema.Grants operation [.private] ∧ providers.aws.isSome then .awsIam
  else if schema.Grants operation [.public] ∧ providers.apiKey.isSome then .apiKey
  else .none

namespace Resolver

theorem firstUsable_guarded {providers : Providers} {mechanism : Mechanism} {usable : Bool}
    (h : providers.isUsable mechanism = .ok usable) (given : Prop) [Decidable given]
    (rest : List Mechanism) :
    firstUsable providers ((if given then [mechanism] else []) ++ rest) =
      if given ∧ usable then .ok mechanism else firstUsable providers rest := by
  by_cases hGiven : given
  · cases usable <;> simp [hGiven, firstUsable, h]
  · simp [hGiven]

/-- The first usable candidate is the one that the rules tell. -/
theorem firstUsable_mechanismSequence {providers : Providers} (h : providers.Probing)
    (schema : ModelSchema) (operation : Operation) :
    firstUsable providers (mechanismSequence (schema.applicable operation)) =
      .ok (schema.mechanismFor providers operation) := by
  rw [mechanismSequence_eq, List.append_assoc, List.append_assoc]
  simp only [mechanismIf_applicable]
  have hNone : firstUsable providers (if schema.Grants operation [.custom] then [.none] else []) =
      .ok .none := by
    split
    · rfl
    · rfl
  rw [firstUsable_guarded (Providers.isUsable_userPools h), firstUsable_guarded rfl,
    firstUsable_guarded rfl, hNone, ModelSchema.mechanismFor, apply_ite Except.ok,
    apply_ite Except.ok, apply_ite Except.ok]

/-- The mechanism that the rules of some models tell for a request, if they know it. -/
def direct? (schemas : List ModelSchema) (providers : Providers) (model : String)
    (argument : OperationArgument) : Option Mechanism :=
  argument.operation?.bind fun operation =>
    (schemas.find? (·.name = model)).map (·.mechanismFor providers operation)

/-- A known request is resolved by the rules of its model; an unknown one is refused or left
without a mechanism. -/
theorem resolve_eq (schemas : List ModelSchema) (strict : Bool) {providers : Providers}
    (hProbing : providers.Probing) (model : String) (argument : OperationArgument) :
    resolve ⟨schemas.flatMap ResolutionTable.rows, strict⟩ providers model argument =
      match direct? schemas providers model argument with
      | some mechanism => .ok mechanism
      | none => if strict then .fail (.unknownModel model argument.shown) else .ok .none := by
  rw [resolve, candidates, direct?]
  cases argument.operation? with
  | none => cases strict <;> rfl
  | some operation =>
      simp only [Option.bind_some, ResolutionTable.lookup?_flatMap_rows]
      cases schemas.find? (·.name = model) with
      | none => cases strict <;> rfl
      | some schema => exact firstUsable_mechanismSequence hProbing schema operation

/-- Under distinct names a model is the one that is found by its name. -/
theorem find?_name_of_mem {schemas : List ModelSchema} (hNames : (schemas.map (·.name)).Nodup)
    {schema : ModelSchema} (hMem : schema ∈ schemas) :
    schemas.find? (·.name = schema.name) = some schema := by
  cases hFind : schemas.find? (·.name = schema.name) with
  | none => exact absurd (decide_eq_true rfl) (List.find?_eq_none.mp hFind schema hMem)
  | some other =>
      have hSame : other.name = schema.name := by
        simpa using List.find?_some hFind
      rw [List.inj_on_of_nodup_map hNames (List.mem_of_find?_eq_some hFind) hMem hSame]

theorem mechanismFor_mem (schema : ModelSchema) (providers : Providers) (operation : Operation) :
    schema.mechanismFor providers operation ∈ [.userPools, .awsIam, .apiKey, .none] := by
  rw [ModelSchema.mechanismFor]
  split
  · decide
  split
  · decide
  split
  · decide
  · decide

end Resolver
end ClientAuth

import Mathlib.Data.List.Induction
import Mathlib.Data.List.ProdSigma
import ClientAuth.Proofs.Resolution

/-! The table of candidates, for any list of models. Main statement: `build_tabulates`, by which a
table fails to be built exactly for a name that occurs again, and otherwise has one row for each
model and operation, whatever the order of the models. -/
namespace ClientAuth.ResolutionTable

variable {schemas others front : List ModelSchema} {schema : ModelSchema}
  {table : ResolutionTable} {model name : String} {operation : Operation}

/-- The first name, in the order of the models, that a model before has already. -/
def FirstRepeated (schemas : List ModelSchema) (name : String) : Prop :=
  ∃ front schema back, schemas = front ++ schema :: back ∧ (front.map (·.name)).Nodup ∧
    schema.name ∈ front.map (·.name) ∧ schema.name = name

/-- Tabulation breaks off at a name that it has seen, once it has passed models with new names. -/
theorem extend_of_seen (table : ResolutionTable) (seen : List String)
    (hNodup : (front.map (·.name)).Nodup) (hNew : ∀ other ∈ front, other.name ∉ seen)
    (hSeen : schema.name ∈ seen ∨ schema.name ∈ front.map (·.name)) (back : List ModelSchema) :
    extend table seen (front ++ schema :: back) = .error (.duplicateModel schema.name) := by
  induction front generalizing table seen with
  | nil =>
      have hOld : schema.name ∈ seen := hSeen.resolve_right List.not_mem_nil
      rw [List.nil_append, extend, if_pos hOld]
  | cons first front ih =>
      obtain ⟨hFirst, hNodup⟩ := List.nodup_cons.mp hNodup
      rw [List.cons_append, extend, if_neg (hNew first List.mem_cons_self)]
      refine ih _ _ hNodup (fun other hOther hMem => ?_) ?_
      · rcases List.mem_cons.mp hMem with hSame | hOld
        · exact hFirst (List.mem_map.mpr ⟨other, hOther, hSame⟩)
        · exact hNew other (List.mem_cons_of_mem _ hOther) hOld
      · rcases hSeen with hOld | hFront
        · exact Or.inl (List.mem_cons_of_mem _ hOld)
        · rcases List.mem_cons.mp hFront with hSame | hLater
          · exact Or.inl (hSame ▸ List.mem_cons_self)
          · exact Or.inr hLater

theorem build_of_firstRepeated (h : FirstRepeated schemas name) :
    build schemas = .error (.duplicateModel name) := by
  obtain ⟨front, schema, back, rfl, hNodup, hAgain, rfl⟩ := h
  exact extend_of_seen [] [] hNodup (fun _ _ => List.not_mem_nil) (Or.inr hAgain) back

theorem not_nodup_of_firstRepeated (h : FirstRepeated schemas name) :
    ¬(schemas.map (·.name)).Nodup := by
  obtain ⟨front, schema, back, rfl, -, hAgain, -⟩ := h
  rw [List.map_append, List.map_cons, List.nodup_append]
  rintro ⟨-, -, hApart⟩
  exact hApart _ hAgain _ List.mem_cons_self rfl

/-- Where names occur again there is a first one. -/
theorem exists_firstRepeated (h : ¬(schemas.map (·.name)).Nodup) :
    ∃ name, FirstRepeated schemas name := by
  -- On the last model: the name is found before it, or it is its own.
  induction schemas using List.reverseRec with
  | nil => exact absurd List.nodup_nil h
  | append_singleton schemas last ih =>
      by_cases hNodup : (schemas.map (·.name)).Nodup
      · refine ⟨last.name, schemas, last, [], rfl, hNodup, ?_, rfl⟩
        by_contra hNew
        rw [List.map_append, List.map_singleton, ← List.concat_eq_append,
          List.nodup_concat] at h
        exact h ⟨hNew, hNodup⟩
      · obtain ⟨name, front, schema, back, rfl, hFront⟩ := ih hNodup
        exact ⟨name, front, schema, back ++ [last], by simp, hFront⟩

/-- Either all names differ and there is a table, or there is a first one that occurs again. -/
theorem build_cases (schemas : List ModelSchema) :
    (schemas.map (·.name)).Nodup ∧ build schemas = .ok (schemas.flatMap rows) ∨
      ∃ name, FirstRepeated schemas name ∧ build schemas = .error (.duplicateModel name) := by
  by_cases hNodup : (schemas.map (·.name)).Nodup
  · exact Or.inl ⟨hNodup, build_of_nodup hNodup⟩
  · obtain ⟨name, hName⟩ := exists_firstRepeated hNodup
    exact Or.inr ⟨name, hName, build_of_firstRepeated hName⟩

theorem build_eq_error {failure : Failure} :
    build schemas = .error failure ↔
      ∃ name, FirstRepeated schemas name ∧ failure = .duplicateModel name := by
  constructor
  · intro h
    rcases build_cases schemas with ⟨-, hBuilt⟩ | ⟨name, hName, hBuilt⟩
    · cases hBuilt.symm.trans h
    · exact ⟨name, hName, (Except.error.inj (hBuilt.symm.trans h)).symm⟩
  · rintro ⟨name, hName, rfl⟩
    exact build_of_firstRepeated hName

theorem build_eq_ok :
    build schemas = .ok table ↔
      (schemas.map (·.name)).Nodup ∧ table = schemas.flatMap rows := by
  constructor
  · intro h
    rcases build_cases schemas with ⟨hNodup, hBuilt⟩ | ⟨name, -, hBuilt⟩
    · exact ⟨hNodup, (Except.ok.inj (hBuilt.symm.trans h)).symm⟩
    · cases hBuilt.symm.trans h
  · rintro ⟨hNodup, rfl⟩
    exact build_of_nodup hNodup

/-- The keys of a table are all models with all operations. -/
theorem keys_flatMap_rows (schemas : List ModelSchema) :
    (schemas.flatMap rows).map (·.1) = schemas.map (·.name) ×ˢ Operation.all := by
  have hRows (schema : ModelSchema) :
      (rows schema).map (·.1) = Operation.all.map (schema.name, ·) := by
    rw [rows, List.map_map]
    rfl
  change _ = (schemas.map (·.name)).flatMap fun name => Operation.all.map (name, ·)
  rw [List.map_flatMap, List.flatMap_map]
  exact List.flatMap_congr fun schema _ => hRows schema

theorem mem_operations (operation : Operation) : operation ∈ Operation.all := by
  cases operation <;> decide

/-- What a table has for a model comes from the one model of that name. -/
theorem lookup?_eq_some (h : build schemas = .ok table) {mechanisms : List Mechanism} :
    lookup? table model operation = some mechanisms ↔
      ∃ schema ∈ schemas, schema.name = model ∧
        mechanismSequence (schema.applicable operation) = mechanisms := by
  obtain ⟨hNodup, rfl⟩ := build_eq_ok.mp h
  rw [lookup?_flatMap_rows, Option.map_eq_some_iff]
  constructor
  · rintro ⟨schema, hFind, hSequence⟩
    have hName : schema.name = model := by
      simpa using List.find?_some hFind
    exact ⟨schema, List.mem_of_find?_eq_some hFind, hName, hSequence⟩
  · rintro ⟨schema, hMem, rfl, hSequence⟩
    exact ⟨schema, Resolver.find?_name_of_mem hNodup hMem, hSequence⟩

/-- Another order of the models makes no difference to what is looked up. -/
theorem lookup?_perm {other : ResolutionTable} (hPerm : others.Perm schemas)
    (h : build schemas = .ok table) (hOther : build others = .ok other) (model : String)
    (operation : Operation) : lookup? other model operation = lookup? table model operation := by
  refine Option.ext fun mechanisms => ?_
  simp only [lookup?_eq_some h, lookup?_eq_some hOther, hPerm.mem_iff]

/-- A table cannot be built if and only if two models share a name, and the failure tells the first
name that occurs again. A table that is built has one row for each model and operation, with the
candidates of the model's own rules that cover the operation, and is read alike for all orders of
the models. -/
theorem build_tabulates (schemas : List ModelSchema) :
    ((∃ failure, build schemas = .error failure) ↔ ¬(schemas.map (·.name)).Nodup) ∧
    (∀ failure, build schemas = .error failure →
      ∃ name, FirstRepeated schemas name ∧ failure = .duplicateModel name ∧
        failure.Is .configuration ∧ failure.details = .object [("model", .text name)]) ∧
    ∀ table, build schemas = .ok table →
      (table.map (·.1)).Nodup ∧
      (∀ model operation, (model, operation) ∈ table.map (·.1) ↔
        ∃ schema ∈ schemas, schema.name = model) ∧
      (∀ model operation mechanisms, lookup? table model operation = some mechanisms ↔
        ∃ schema ∈ schemas, schema.name = model ∧
          mechanismSequence (schema.applicable operation) = mechanisms) ∧
      ∀ others, others.Perm schemas → ∃ other, build others = .ok other ∧
        ∀ model operation, lookup? other model operation = lookup? table model operation := by
  refine ⟨⟨?_, fun hTwice => ?_⟩, ?_, ?_⟩
  · rintro ⟨failure, hBuild⟩
    obtain ⟨name, hName, -⟩ := build_eq_error.mp hBuild
    exact not_nodup_of_firstRepeated hName
  · obtain ⟨name, hName⟩ := exists_firstRepeated hTwice
    exact ⟨_, build_of_firstRepeated hName⟩
  · intro failure hBuild
    obtain ⟨name, hName, rfl⟩ := build_eq_error.mp hBuild
    exact ⟨name, hName, rfl, ⟨rfl, rfl⟩, rfl⟩
  · intro table hBuild
    obtain ⟨hNodup, hTable⟩ := build_eq_ok.mp hBuild
    have hKeys : table.map (·.1) = schemas.map (·.name) ×ˢ Operation.all := by
      rw [hTable, keys_flatMap_rows]
    refine ⟨?_, fun model operation => ?_, fun _ _ _ => lookup?_eq_some hBuild,
      fun others hPerm => ?_⟩
    · rw [hKeys]
      exact hNodup.product (by decide)
    · rw [hKeys, List.mem_product, List.mem_map, and_iff_left (mem_operations operation)]
    · have hOthers : (others.map (·.name)).Nodup := (hPerm.map _).nodup_iff.mpr hNodup
      exact ⟨_, build_of_nodup hOthers, lookup?_perm hPerm hBuild (build_of_nodup hOthers)⟩

/-- Two models in either order, and four models of which two come again. -/
theorem build_tabulates_pair :
    let note : ModelSchema := ⟨"Note", [⟨.private, "", []⟩]⟩
    let todo : ModelSchema := ⟨"Todo", [⟨.public, "", []⟩, ⟨.owner, "", [.read]⟩]⟩
    build [todo, note] = .ok (rows todo ++ rows note) ∧
      [note, todo].Perm [todo, note] ∧
      (∃ other, build [note, todo] = .ok other ∧
        lookup? other "Todo" .read = some [.userPools, .apiKey] ∧
        lookup? other "Todo" .create = some [.apiKey] ∧
        lookup? other "Note" .read = some [.awsIam]) ∧
      build [note, todo, todo, note] = .error (.duplicateModel "Todo") ∧
      FirstRepeated [note, todo, todo, note] "Todo" := by
  intro note todo
  have hBuild : build [todo, note] = .ok (rows todo ++ rows note) := rfl
  have hPerm : [note, todo].Perm [todo, note] := List.Perm.swap todo note []
  obtain ⟨-, -, hTable⟩ := build_tabulates [todo, note]
  obtain ⟨-, -, -, hOrders⟩ := hTable _ hBuild
  obtain ⟨other, hOther, hSame⟩ := hOrders _ hPerm
  have hAgain : build [note, todo, todo, note] = .error (.duplicateModel "Todo") := rfl
  obtain ⟨name, hFirst, hName, -⟩ := (build_tabulates [note, todo, todo, note]).2.1 _ hAgain
  obtain rfl := Failure.duplicateModel.inj hName
  refine ⟨hBuild, hPerm, ⟨other, hOther, ?_, ?_, ?_⟩, hAgain, hFirst⟩
  · rw [hSame]
    decide
  · rw [hSame]
    decide
  · rw [hSame]
    decide

end ClientAuth.ResolutionTable

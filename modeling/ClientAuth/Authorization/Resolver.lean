import ClientAuth.Authorization.Providers
import ClientAuth.Authorization.Rule
import ClientAuth.Metrics.Collector

/-! Which mechanism a request should use. The candidates of every model and
operation are tabulated once; a request takes the first usable one. -/
namespace ClientAuth

/-- The candidates for each model and operation. -/
abbrev ResolutionTable := List ((String × Operation) × List Mechanism)

namespace ResolutionTable

/-- The rows of one model. -/
def rows (schema : ModelSchema) : ResolutionTable :=
  Operation.all.map fun operation =>
    ((schema.name, operation), mechanismSequence (schema.applicable operation))

/-- Tabulates models. `seen` lists the names so far, and a name that occurs
again is refused. -/
def extend (table : ResolutionTable) (seen : List String) :
    List ModelSchema → Except Failure ResolutionTable
  | [] => .ok table
  | schema :: rest =>
      if schema.name ∈ seen then .error (.duplicateModel schema.name)
      else extend (table ++ rows schema) (schema.name :: seen) rest

/-- The table of all models. -/
def build (schemas : List ModelSchema) : Except Failure ResolutionTable := extend [] [] schemas

/-- The candidates for a model and an operation. -/
def lookup? (table : ResolutionTable) (model : String) (operation : Operation) :
    Option (List Mechanism) :=
  (table.find? fun row => row.1 = (model, operation)).map (·.2)

end ResolutionTable

/-- A resolver: its table, and whether unknown pairs are refused. -/
structure Resolver where
  table : ResolutionTable
  strict : Bool

namespace Resolver

/-- A resolver for models. -/
def create (schemas : List ModelSchema) (strict : Bool) : Except Failure Resolver :=
  (ResolutionTable.build schemas).map fun table => ⟨table, strict⟩

/-- The candidates for a request. An unknown pair has none, or is refused. -/
def candidates (resolver : Resolver) (model : String) (operation : OperationArgument) :
    Except Failure (List Mechanism) :=
  match operation.operation?.bind (resolver.table.lookup? model) with
  | some mechanisms => .ok mechanisms
  | none =>
      if resolver.strict then .error (.unknownModel model operation.shown) else .ok []

/-- The first usable mechanism, or none. -/
def firstUsable (providers : Providers) : List Mechanism → Outcome Mechanism
  | [] => .ok .none
  | mechanism :: rest =>
      match providers.isUsable mechanism with
      | .ok true => .ok mechanism
      | .ok false => firstUsable providers rest
      | .error interruption => .error interruption

/-- The mechanism for a request. -/
def resolve (resolver : Resolver) (providers : Providers) (model : String)
    (operation : OperationArgument) : Outcome Mechanism :=
  match resolver.candidates model operation with
  | .ok mechanisms => firstUsable providers mechanisms
  | .error cause => .fail cause

/-- The mechanism for a request, and the counters with the decision. -/
def resolveAndCount (resolver : Resolver) (providers : Providers) (metrics : Collector)
    (model : String) (operation : OperationArgument) : Outcome Mechanism × Collector :=
  match resolver.resolve providers model operation with
  | .ok mechanism =>
      (.ok mechanism, metrics.recordResolution ⟨model, operation.counted, mechanism.name⟩)
  | .error interruption => (.error interruption, metrics)

end Resolver

/-- How the mechanism of a request is chosen: always the same one, or by the
rules of the models. -/
inductive Chooser
  | always (mechanism : Mechanism)
  | byRules (resolver : Resolver)

namespace Chooser

/-- The mechanism for a request, and the counters afterwards. Only decisions by
rules are counted. -/
def choose (chooser : Chooser) (providers : Providers) (metrics : Collector) (model : String)
    (operation : OperationArgument) : Outcome Mechanism × Collector :=
  match chooser with
  | always mechanism => (.ok mechanism, metrics)
  | byRules resolver => resolver.resolveAndCount providers metrics model operation

end Chooser
end ClientAuth

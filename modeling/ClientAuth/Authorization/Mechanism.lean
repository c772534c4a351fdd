import ClientAuth.Failure
import ClientAuth.Number.Numeral

/-! Authorization mechanisms, the strategies of access rules, and the
operations that a rule can grant. -/
namespace ClientAuth

/-- The ways in which a request can be authorized. -/
inductive Mechanism
  | apiKey
  | awsIam
  | openIdConnect
  | userPools
  | none
  | default
deriving DecidableEq, Repr

/-- Who a rule lets in. -/
inductive Strategy
  | owner
  | groups
  | «private»
  | «public»
  | custom
deriving DecidableEq, Repr

/-- What a rule can let them do. -/
inductive Operation
  | create
  | update
  | delete
  | read
deriving DecidableEq, Repr

namespace Mechanism

def all : List Mechanism := [apiKey, awsIam, openIdConnect, userPools, none, default]

def name : Mechanism → String
  | apiKey => "API_KEY"
  | awsIam => "AWS_IAM"
  | openIdConnect => "OPENID_CONNECT"
  | userPools => "AMAZON_COGNITO_USER_POOLS"
  | none => "NONE"
  | default => "DEFAULT"

/-- The mechanism of a name. -/
def ofName? (name : String) : Option Mechanism := all.find? (·.name = name)

/-- The mechanism of a name, or a fault that quotes the name. -/
def ofName (name : String) : Outcome Mechanism := .orHalt (.unknownMechanism name) (ofName? name)

/-- The mechanism that a value names. Nothing but a text does, and lists and
objects cannot be looked up at all. -/
def ofValue : Json → Outcome Mechanism
  | .text name => ofName name
  | .array _ | .object _ => .halt .wrongKind
  | value => .halt (.unknownMechanism value.shown)

end Mechanism

namespace Strategy

def all : List Strategy := [owner, groups, «private», «public», custom]

/-- The word for a strategy in rules. -/
def word : Strategy → String
  | owner => "owner"
  | groups => "groups"
  | «private» => "private"
  | «public» => "public"
  | custom => "custom"

/-- The name of a strategy. -/
def name : Strategy → String
  | owner => "OWNER"
  | groups => "GROUPS"
  | «private» => "PRIVATE"
  | «public» => "PUBLIC"
  | custom => "CUSTOM"

def ofWord? (word : String) : Option Strategy := all.find? (·.word = word)

/-- The mechanism that serves a strategy unless a rule names another. -/
def mechanism : Strategy → Mechanism
  | owner => .userPools
  | groups => .userPools
  | «private» => .awsIam
  | «public» => .apiKey
  | custom => .none

/-- The rank of a strategy, the most specific first. -/
def rank : Strategy → Nat
  | owner => 0
  | groups => 1
  | «private» => 2
  | «public» => 3
  | custom => 4

/-- The strategies with a rank of their own. -/
def ranked : List Strategy := [owner, groups, «private», «public»]

end Strategy

namespace Mechanism

/-- The mechanism that a rule's provider name stands for. Without a name it is
the strategy's. -/
def ofProvider (provider : String) (strategy : Strategy) : Outcome Mechanism :=
  match provider with
  | "userPools" => .ok userPools
  | "oidc" => .ok openIdConnect
  | "iam" => .ok awsIam
  | "apiKey" => .ok apiKey
  | "" => .ok strategy.mechanism
  | other => .halt (.unknownMechanism other)

/-- The mechanism for the provider that a value names. -/
def ofProviderValue (provider : Json) (strategy : Strategy) : Outcome Mechanism :=
  match provider with
  | .text name => ofProvider name strategy
  | value => .halt (.unknownMechanism value.shown)

end Mechanism

namespace Operation

def all : List Operation := [create, update, delete, read]

/-- The word for an operation in rules. -/
def word : Operation → String
  | create => "create"
  | update => "update"
  | delete => "delete"
  | read => "read"

/-- The name of an operation. -/
def name : Operation → String
  | create => "CREATE"
  | update => "UPDATE"
  | delete => "DELETE"
  | read => "READ"

def ofWord? (word : String) : Option Operation := all.find? (·.word = word)

def ofName? (name : String) : Option Operation := all.find? (·.name = name)

/-- The operation that a caller's text means. Gaps around it and the case of
its letters do not matter; no letter outside ASCII folds onto its words. -/
def ofText? (text : String) : Option Operation :=
  ofWord? (String.ofList ((Text.trim Text.isGap text.toList).map Numeral.lower))

end Operation

/-- An operation as a caller gives it: a member, or any other value. -/
inductive OperationArgument
  | member (operation : Operation)
  | raw (value : Json)

namespace OperationArgument

/-- The operation that is meant, if one is. -/
def operation? : OperationArgument → Option Operation
  | member operation => some operation
  | raw value => Operation.ofText? value.shown

/-- The text that stands for the argument in messages. -/
def shown : OperationArgument → String
  | member operation => "ModelOperation." ++ operation.name
  | raw value => value.shown

/-- The text under which the argument is counted. -/
def counted : OperationArgument → String
  | member operation => operation.word
  | raw value => value.shown

end OperationArgument

theorem Mechanism.ofName?_name (m : Mechanism) : Mechanism.ofName? m.name = some m := by
  cases m <;> decide

theorem Strategy.ofWord?_word (s : Strategy) : Strategy.ofWord? s.word = some s := by
  cases s <;> decide

theorem Operation.ofWord?_word (o : Operation) : Operation.ofWord? o.word = some o := by
  cases o <;> decide

end ClientAuth

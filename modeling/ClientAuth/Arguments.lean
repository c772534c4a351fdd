import ClientAuth.Failure

/-! Arguments given by position and by name, and reports made from them. -/
namespace ClientAuth

/-- The values that are given to parameters, in their order and by name. -/
structure Arguments where
  positional : List Json
  named : List (String × Json)

namespace Arguments

/-- Gives each value to its parameter. There is no binding if values are left
over, if a name is not that of a parameter, or if a parameter is given twice. -/
def bind? (parameters : List String) (arguments : Arguments) : Option (List (String × Json)) :=
  let free := parameters.drop arguments.positional.length
  if arguments.positional.length ≤ parameters.length &&
      arguments.named.all (·.1 ∈ free) then
    some (parameters.zip arguments.positional ++ arguments.named)
  else none

end Arguments

namespace Kind

/-- The parameters of a family's reports. -/
def parameters : Kind → List String
  | general => ["error", "message", "details"]
  | unsupportedChallenge => ["challenge_name"]
  | _ => ["message", "details"]

/-- The family of a name. -/
def ofName? (name : String) : Option Kind :=
  [general, protocol, unsupportedChallenge, transport, configuration].find? (·.name = name)

end Kind

/-- The report of a family that is made from arguments. Only a report of no
special family has a message of its own accord. -/
def Report.ofArguments (kind : Kind) (arguments : Arguments) : Outcome Report := do
  let values ← Outcome.orHalt .badArguments (arguments.bind? kind.parameters)
  let value? (name : String) : Option Json := Json.lookup? name values
  let details := (value? "details").getD .null
  match kind with
  | .general =>
      return .general ((value? "error").getD (.text Kind.general.code))
        ((value? "message").getD (.text defaultMessage)) details
  | .unsupportedChallenge =>
      return .unsupportedChallenge (← Outcome.orHalt .badArguments (value? "challenge_name"))
  | kind => return .plain kind (← Outcome.orHalt .badArguments (value? "message")) details

end ClientAuth

import ClientAuth.Exchange.Call

/-! The service through a vendor's client library, which takes keyword
arguments and answers with decoded data. -/
namespace ClientAuth.Sdk

/-- A call of the client library. -/
inductive Invocation
  | initiateAuth (flow clientId : String) (parameters : Parameters)
  | respondToAuthChallenge (challenge clientId : String) (responses : Parameters)
      (session : Option String)

namespace Invocation

/-- The invocation for a call. An empty session is no session. -/
def ofCall (clientId : String) : Call → Invocation
  | .initiate parameters => initiateAuth srpFlow clientId parameters
  | .respond answer =>
      respondToAuthChallenge answer.challenge clientId answer.responses
        (answer.session.filter (· ≠ ""))

/-- The name of the function that is called. -/
def function : Invocation → String
  | initiateAuth .. => "initiate_auth"
  | respondToAuthChallenge .. => "respond_to_auth_challenge"

/-- The keyword arguments. -/
def arguments : Invocation → List (String × Json)
  | initiateAuth flow clientId parameters =>
      [("AuthFlow", .text flow), ("ClientId", .text clientId),
        ("AuthParameters", Parameters.toJson parameters)]
  | respondToAuthChallenge challenge clientId responses none =>
      [("ChallengeName", .text challenge), ("ClientId", .text clientId),
        ("ChallengeResponses", Parameters.toJson responses)]
  | respondToAuthChallenge challenge clientId responses (some session) =>
      [("ChallengeName", .text challenge), ("ClientId", .text clientId),
        ("ChallengeResponses", Parameters.toJson responses), ("Session", .text session)]

end Invocation

/-- A refusal by the service: the members of its error, those of its metadata,
and the operation that was asked for. -/
structure Refusal where
  error : List (String × Json)
  metadata : List (String × Json)
  operation : String

namespace Refusal

/-- The members of a part of a response. A part that is missing has none. -/
def part (response : List (String × Json)) (name : String) :
    Except Fault (List (String × Json)) :=
  match (Json.lookup? name response).getD (.object []) with
  | .object members => .ok members
  | value => .error (.noMembers value.kindWord)

/-- The name of the part that is looked at first. -/
def metadataName : String := "ResponseMetadata"

/-- The refusal in a response. The response and its parts have to be objects. A
list or a text in which the name of the metadata is found is asked for them in
vain. -/
def ofResponse (response : Json) (operation : String) : Except Fault Refusal :=
  match response with
  | .object members => do
      let metadata ← part members metadataName
      let error ← part members "Error"
      return ⟨error, metadata, operation⟩
  | .text content =>
      if Text.occurs metadataName.toList content.toList then .error (.noKeys true)
      else .error (.noMembers response.kindWord)
  | .array items =>
      if items.any fun item => item.text? = some metadataName then .error (.noKeys false)
      else .error (.noMembers response.kindWord)
  | value => .error (.noElements value.kindWord)

/-- How many retries were made, if the response says that no more are. -/
def retryNote (refusal : Refusal) : String :=
  if ((Json.lookup? "MaxAttemptsReached" refusal.metadata).getD .null).isVacuous then ""
  else
    match Json.lookup? "RetryAttempts" refusal.metadata with
    | some attempts => " (reached max retries: " ++ attempts.shown ++ ")"
    | none => ""

/-- The text of a refusal that has no message of its own. -/
def text (refusal : Refusal) : String :=
  let field (name : String) : String :=
    ((Json.lookup? name refusal.error).getD (.text "Unknown")).shown
  "An error occurred (" ++ field "Code" ++ ") when calling the " ++ refusal.operation ++
    " operation" ++ refusal.retryNote ++ ": " ++ field "Message"

end Refusal

/-- What the client library does: it returns data, reports a refusal by the
service, breaks down on the way to it, or meets trouble of another kind. -/
inductive Exchange
  | returned (data : Json)
  | refused (refusal : Refusal)
  | broken (text : String)
  | trouble (cause : Trouble)

/-- The first value unless it says nothing. -/
def orElse (value : Option Json) (other : Json) : Json :=
  match value with
  | some value => if value.isVacuous then other else value
  | none => other

/-- What a call ends with. -/
def receive (clientId : String) (call : Call) : Exchange → Answer
  | .returned data => call.read data
  | .refused refusal =>
      .error (.failure (.clientRejected (Invocation.ofCall clientId call).function
        (orElse (Json.lookup? "Code" refusal.error) (.text "ClientError"))
        (orElse (Json.lookup? "Message" refusal.error) (.text refusal.text))))
  | .broken text =>
      .error (.failure (.requestFailed (Invocation.ofCall clientId call).function text))
  | .trouble cause => .error cause

end ClientAuth.Sdk

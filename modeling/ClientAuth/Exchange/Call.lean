import ClientAuth.Exchange.Reply

/-! The two calls of a sign in, and the service that answers them. -/
namespace ClientAuth

/-- The challenge that this client answers. -/
def passwordVerifier : String := "PASSWORD_VERIFIER"

/-- The sign-in flow that this client starts. -/
def srpFlow : String := "USER_SRP_AUTH"

/-- The answer to a challenge. -/
structure ChallengeAnswer where
  challenge : String
  responses : Parameters
  session : Option String
deriving DecidableEq, Repr

/-- A call to the identity service. -/
inductive Call
  | initiate (parameters : Parameters)
  | respond (answer : ChallengeAnswer)
deriving DecidableEq, Repr

namespace Call

/-- The operation that a call asks for. -/
def operation : Call → String
  | initiate _ => "InitiateAuth"
  | respond _ => "RespondToAuthChallenge"

end Call

/-- How a call ends without a reply. -/
inductive Trouble
  | failure (cause : Failure)
  | cancelled
  | fault (cause : Fault)

/-- What a call ends with. -/
abbrev Answer := Except Trouble Reply

/-- An identity service. Its reply to the first call decides how it will meet
the answer to its challenge. -/
structure Service where
  clientId : String
  initiate : Parameters → Answer × (ChallengeAnswer → Answer)

/-- The trouble of an unmet expectation. -/
def Trouble.ofFailure {α : Type} : Except Failure α → Except Trouble α
  | .ok value => .ok value
  | .error cause => .error (.failure cause)

/-- Reads the reply to a call from decoded data. -/
def Call.read (call : Call) (data : Json) : Answer :=
  Trouble.ofFailure (Reply.parse call.operation data)

end ClientAuth

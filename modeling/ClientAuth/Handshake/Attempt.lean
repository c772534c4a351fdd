import ClientAuth.Exchange.Call
import ClientAuth.Srp.Session

/-! One sign in by the SRP protocol: two calls, a challenge between them, and
tokens at the end. Everything that an attempt does is kept in its record. -/
namespace ClientAuth

/-- How far an attempt has come. -/
inductive Stage
  | initiated
  | challengeReceived
  | verified
  | complete
  | failed
deriving DecidableEq, Repr

/-- The word for a stage. -/
def Stage.word : Stage → String
  | initiated => "initiated"
  | challengeReceived => "challenge_received"
  | verified => "verified"
  | complete => "complete"
  | failed => "failed"

/-- What an attempt has done so far: its stages, its calls, and the tokens that
it has offered to the sink. -/
structure Record where
  stages : List Stage
  calls : List Call
  offered : List Tokens
deriving DecidableEq, Repr

namespace Record

def start : Record := ⟨[.initiated], [], []⟩

def reach (record : Record) (stage : Stage) : Record :=
  { record with stages := record.stages ++ [stage] }

def call (record : Record) (call : Call) : Record :=
  { record with calls := record.calls ++ [call] }

def offer (record : Record) (tokens : Tokens) : Record :=
  { record with offered := record.offered ++ [tokens] }

end Record

/-- The owner of the tokens: takes them, or ends the attempt. -/
abbrev Sink := Tokens → Outcome Unit

/-- A sink that takes everything. -/
def Sink.accepting : Sink := fun _ => .ok ()

/-- Who signs in, with what, and what the clock says when it is asked. A clock
that shows no moment ends the attempt there. -/
structure Login where
  username : String
  password : String
  clientSecret : Option String
  now : Outcome Moment

/-- The parameters that a challenge must have, in the order in which missing
ones are listed. -/
def challengeParameters : List String :=
  ["SALT", "SRP_B", "SECRET_BLOCK", "USER_ID_FOR_SRP", "USERNAME"]

/-- The entry that proves the client secret. Without a secret there is none. -/
def secretEntry (clientId : String) (clientSecret : Option String) (username : String) :
    Outcome Parameters :=
  match clientSecret.filter (· ≠ "") with
  | some secret => do return [("SECRET_HASH", ← Srp.secretHash username clientId secret)]
  | none => return []

/-- A challenge with everything that an answer needs. -/
structure Challenge where
  salt : Int
  serverValue : Int
  secretBlock : String
  userId : String
  username : String
deriving DecidableEq, Repr

/-- The challenge in a reply. -/
def Challenge.ofReply (reply : Reply) : Outcome Challenge := do
  let missing := challengeParameters.filter fun name => (reply.parameter? name).isNone
  if !missing.isEmpty then .fail (.parametersMissing missing)
  else
    let value (name : String) : String := (reply.parameter? name).getD ""
    let salt ← Outcome.orFail .parameterNotHex (Hex.toInt? (value "SALT"))
    let serverValue ← Outcome.orFail .parameterNotHex (Hex.toInt? (value "SRP_B"))
    return ⟨salt, serverValue, value "SECRET_BLOCK", value "USER_ID_FOR_SRP", value "USERNAME"⟩

/-- The responses to a challenge. The password enters the signature only. -/
def Challenge.respond (client : Srp.Client) (clientId : String) (login : Login)
    (challenge : Challenge) : Outcome Parameters := do
  let timestamp ← Srp.timestamp (← login.now)
  let key ← client.deriveKey challenge.userId login.password challenge.serverValue
    (.value challenge.salt)
  let signature ← client.sign challenge.userId key timestamp challenge.secretBlock
  let entry ← secretEntry clientId login.clientSecret challenge.username
  return [("USERNAME", challenge.username),
    ("PASSWORD_CLAIM_SECRET_BLOCK", challenge.secretBlock),
    ("PASSWORD_CLAIM_SIGNATURE", signature), ("TIMESTAMP", timestamp)] ++ entry

/-- A call's answer as a step of the attempt. Trouble that is no failure of its
own becomes one. -/
def settle : Answer → Outcome Reply
  | .ok reply => .ok reply
  | .error (.failure cause) => .fail cause
  | .error .cancelled => .error .cancelled
  | .error (.fault cause) => .fail (.serviceCallFailed (cause.message?.getD "") cause.name)

/-- Offers tokens to the sink, if there are any with an access token. -/
def offerTokens (sink : Sink) (tokens : Option Tokens) (record : Record) :
    Outcome Unit × Record :=
  match tokens.filter (·.usableToken?.isSome) with
  | some tokens => (sink tokens, record.offer tokens)
  | none => (.fail .noTokens, record)

/-- Ends an attempt that has come to its tokens. -/
def conclude (username : String) : Outcome Unit × Record → Outcome SignInResult × Record
  | (.ok (), record) => (.ok (.signedIn username), record.reach .complete)
  | (.error interruption, record) => (.error interruption, record.reach .failed)

/-- Ends an attempt early. -/
def abandon (interruption : Interruption) (record : Record) : Outcome SignInResult × Record :=
  (.error interruption, record.reach .failed)

/-- The last part of an attempt: the reply to the answered challenge. Here a
reply without tokens may name another challenge. -/
def acceptTokens (sink : Sink) (username : String) (reply : Reply) (record : Record) :
    Outcome SignInResult × Record :=
  match reply.tokens with
  | some tokens => conclude username (offerTokens sink (some tokens) record)
  | none =>
      match reply.challengeName.filter (· ≠ "") with
      | some name => abandon (.failure (.challengeNotSupported (some name))) record
      | none => abandon (.failure .noTokens) record

/-- The middle part of an attempt: a password challenge is answered. -/
def answerChallenge (service : Service) (sink : Sink) (client : Srp.Client) (login : Login)
    (respond : ChallengeAnswer → Answer) (reply : Reply) (record : Record) :
    Outcome SignInResult × Record :=
  match Challenge.ofReply reply with
  | .error interruption => abandon interruption record
  | .ok challenge =>
      match challenge.respond client service.clientId login with
      | .error interruption => abandon interruption record
      | .ok responses =>
          let answer : ChallengeAnswer := ⟨passwordVerifier, responses, reply.session⟩
          let record := (record.reach .verified).call (.respond answer)
          match settle (respond answer) with
          | .error interruption => abandon interruption record
          | .ok reply => acceptTokens sink challenge.username reply record

/-- The parameters of the first call. -/
def openingParameters (client : Srp.Client) (clientId : String) (login : Login) :
    Outcome Parameters := do
  let shared ← client.publicText
  let entry ← secretEntry clientId login.clientSecret login.username
  return [("USERNAME", login.username), ("SRP_A", shared)] ++ entry

/-- A whole attempt of a client. -/
def attempt (service : Service) (sink : Sink) (client : Srp.Client) (login : Login) :
    Outcome SignInResult × Record :=
  match openingParameters client service.clientId login with
  | .error interruption => abandon interruption .start
  | .ok parameters =>
      let record := Record.start.call (.initiate parameters)
      let (answer, respond) := service.initiate parameters
      match settle answer with
      | .error interruption => abandon interruption record
      | .ok reply =>
          if !reply.hasChallenge then
            conclude login.username (offerTokens sink reply.tokens record)
          else if reply.challengeName ≠ some passwordVerifier then
            abandon (.failure (.challengeNotSupported reply.challengeName)) record
          else
            answerChallenge service sink client login respond reply
              (record.reach .challengeReceived)

end ClientAuth

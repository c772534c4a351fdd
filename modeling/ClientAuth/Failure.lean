import ClientAuth.Fault
import ClientAuth.Json.Writer

/-! Why an operation ends without an answer. A failure is reported to the
caller with a code, a message and details, while a fault has no report. -/
namespace ClientAuth

/-- The families of reported failures. -/
inductive Kind
  | general
  | protocol
  | unsupportedChallenge
  | transport
  | configuration
deriving DecidableEq, Repr

/-- The code that every failure of a family carries, unless it names one
itself. -/
def Kind.code : Kind → String
  | .general => "auth_error"
  | .protocol => "protocol_error"
  | .unsupportedChallenge => "unsupported_challenge"
  | .transport => "transport_error"
  | .configuration => "configuration_error"

/-- The name of a family. -/
def Kind.name : Kind → String
  | .general => "AuthError"
  | .protocol => "ProtocolError"
  | .unsupportedChallenge => "UnsupportedChallengeError"
  | .transport => "TransportError"
  | .configuration => "ConfigurationError"

/-- A failure as the caller sees it. A service may put any value into its code,
message and details. -/
structure Report where
  kind : Kind
  code : Json
  message : Json
  details : Json
  challengeName : Json

namespace Report

/-- The message of a failure that does not say more. -/
def defaultMessage : String := "Sign in failed"

/-- Details that say nothing are no details. -/
def cleanDetails (details : Json) : Json :=
  if details.isVacuous then .object [] else details

/-- A report with a code of its own. -/
def general (code message details : Json) : Report :=
  ⟨.general, code, message, cleanDetails details, .null⟩

/-- A report under its family's code. -/
def plain (kind : Kind) (message details : Json) : Report :=
  ⟨kind, .text kind.code, message, cleanDetails details, .null⟩

/-- The report of a challenge that this client does not answer. -/
def unsupportedChallenge (name : Json) : Report :=
  ⟨.unsupportedChallenge, .text Kind.unsupportedChallenge.code,
    .text ("Unsupported challenge: " ++ name.shown), .object [("challenge_name", name)], name⟩

/-- The report as a response object. Empty details are left out. -/
def toObject (report : Report) : Json :=
  .object ([("error", report.code), ("message", report.message)] ++
    if report.details.isVacuous then [] else [("details", report.details)])

end Report

/-- Why a sign in or a resolution fails. -/
inductive Failure
  | invalidPoolId (poolId : String)
  | ephemeralDiscarded
  | zeroServerValue
  | zeroScrambling
  | secretBlockNotBase64
  | handshakeReused
  | noTokens
  | challengeNotSupported (name : Option String)
  | parametersMissing (names : List String)
  | parameterNotHex
  | serviceCallFailed (text cause : String)
  | notSignedIn
  | unknownModel (model operation : String)
  | duplicateModel (model : String)
  | noUserPoolProvider
  | noTokenProvider
  | noApiKey
  | noAwsCredentials
  | unknownTransport (name : String)
  | malformedReply (operation : String) (complaints : Nat)
  | replyNotJson (operation : String) (status : Nat)
  | requestFailed (operation text : String)
  | serverFailed (operation : String) (status : Nat) (code : String) (message : Json)
  | rejected (operation : String) (status : Nat) (code : String) (message : Json)
  | clientRejected (operation : String) (code message : Json)
  | reported (report : Report)

namespace Failure

/-- How each failure is reported. -/
def report : Failure → Report
  | invalidPoolId poolId =>
      .plain .configuration (.text ("Invalid user pool id: " ++ poolId))
        (.object [("expected", .text "<region>_<poolName>")])
  | ephemeralDiscarded => .plain .protocol (.text "Ephemeral value already discarded") .null
  | zeroServerValue =>
      .plain .protocol (.text "Invalid server public value: B mod N is zero") .null
  | zeroScrambling =>
      .plain .protocol (.text "Invalid server public value: scrambling parameter is zero") .null
  | secretBlockNotBase64 => .plain .protocol (.text "SECRET_BLOCK is not valid base64") .null
  | handshakeReused =>
      .general (.text "handshake_reused") (.text "An SRP handshake can only be run once") .null
  | noTokens =>
      .plain .protocol (.text "Identity service returned neither a challenge nor tokens") .null
  | challengeNotSupported name => .unsupportedChallenge ((name.map Json.text).getD .null)
  | parametersMissing names =>
      .plain .protocol (.text ("Challenge parameter missing: " ++ ", ".intercalate names))
        (.object [("missing", .array (names.map .text))])
  | parameterNotHex => .plain .protocol (.text "SALT or SRP_B is not a hex number") .null
  | serviceCallFailed text cause =>
      .plain .transport (.text ("Identity service call failed: " ++ text))
        (.object [("cause", .text cause)])
  | notSignedIn =>
      .general (.text "not_signed_in")
        (.text "No signed-in user; sign in before using user pool authorization") .null
  | unknownModel model operation =>
      .plain .configuration
        (.text ("No auth rules known for " ++ model ++ " " ++ operation))
        (.object [("model", .text model), ("operation", .text operation)])
  | duplicateModel model =>
      .plain .configuration (.text ("Duplicate auth rules for model " ++ model))
        (.object [("model", .text model)])
  | noUserPoolProvider =>
      .plain .configuration
        (.text ("Attempting to use AMAZON_COGNITO_USER_POOLS authorization " ++
          "without a user pool provider.")) .null
  | noTokenProvider =>
      .plain .configuration
        (.text "Attempting to use OPENID_CONNECT authorization without an OIDC provider.") .null
  | noApiKey =>
      .plain .configuration
        (.text ("Attempting to use API_KEY authorization without an API key provider " ++
          "or a configured API key.")) .null
  | noAwsCredentials =>
      .plain .configuration
        (.text "Attempting to use AWS_IAM authorization without AWS credentials.")
        (.object [("hint",
          .text "Configure aws_credentials on the providers or the default AWS credential chain")])
  | unknownTransport name =>
      .plain .configuration (.text ("Unknown identity transport: " ++ name)) .null
  | malformedReply operation complaints =>
      .plain .protocol (.text ("Malformed " ++ operation ++ " response"))
        (.object [("operation", .text operation), ("errors", .int complaints)])
  | replyNotJson operation status =>
      .plain .protocol (.text (operation ++ " response is not valid JSON"))
        (.object [("operation", .text operation), ("status_code", .int status)])
  | requestFailed operation text =>
      .plain .transport (.text (operation ++ " request failed: " ++ text))
        (.object [("operation", .text operation)])
  | serverFailed operation status code message =>
      .plain .transport (.text (operation ++ " failed: " ++ message.shown))
        (.object [("operation", .text operation), ("status_code", .int status),
          ("type", .text code)])
  | rejected operation status code message =>
      .general (.text code) message
        (.object [("operation", .text operation), ("status_code", .int status)])
  | clientRejected operation code message =>
      .general code message (.object [("operation", .text operation)])
  | reported report => report

/-- The family of a failure. -/
def kind (failure : Failure) : Kind := failure.report.kind

/-- The code of a failure. -/
def code (failure : Failure) : Json := failure.report.code

/-- The message of a failure. -/
def message (failure : Failure) : Json := failure.report.message

/-- The details of a failure. -/
def details (failure : Failure) : Json := failure.report.details

end Failure

/-- How an operation ends early. -/
inductive Interruption
  | failure (cause : Failure)
  | fault (cause : Fault)
  | cancelled

/-- The result of an operation that may end early. -/
abbrev Outcome (α : Type) := Except Interruption α

namespace Outcome

/-- Ends with a failure. -/
def fail {α : Type} (cause : Failure) : Outcome α := .error (.failure cause)

/-- Ends with a fault. -/
def halt {α : Type} (cause : Fault) : Outcome α := .error (.fault cause)

/-- Takes a value that is there and ends with a fault otherwise. -/
def orHalt {α : Type} (cause : Fault) : Option α → Outcome α
  | some value => .ok value
  | none => .error (.fault cause)

/-- The UTF-8 form of a text. Halves of characters have none. -/
def utf8 (text : String) : Outcome Bytes := orHalt (.notUnicode text) (Bytes.ofText? text)

/-- Takes a value that is there and ends with a failure otherwise. -/
def orFail {α : Type} (cause : Failure) : Option α → Outcome α
  | some value => .ok value
  | none => .error (.failure cause)

end Outcome
end ClientAuth

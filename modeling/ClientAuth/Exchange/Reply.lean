import ClientAuth.Failure
import ClientAuth.Text.Quoted
import ClientAuth.Validation

/-! What the identity service sends back: a challenge or tokens. Fields may be
spelled as the service spells them or in the library's own way; the service's
spelling decides where both are present. -/
namespace ClientAuth

/-- The tokens of one sign in. -/
structure Tokens where
  accessToken : Option String
  idToken : Option String
  refreshToken : Option String
  expiresIn : Option Int
  tokenType : Option String
deriving DecidableEq, Repr

namespace Tokens

/-- Reads tokens. -/
def ofJson : Json → Checked Tokens :=
  Checked.object fun members =>
    let text (names : List String) : Checked (Option String) :=
      Checked.optional names none (Checked.nullable Checked.text) members
    Checked.ap (Checked.ap (Checked.ap (Checked.ap
      ((text ["AccessToken", "access_token"]).map Tokens.mk)
      (text ["IdToken", "id_token"]))
      (text ["RefreshToken", "refresh_token"]))
      (Checked.optional ["ExpiresIn", "expires_in"] none (Checked.nullable Checked.int) members))
      (text ["TokenType", "token_type"])

/-- Tokens as an object. -/
def toJson (tokens : Tokens) : Json :=
  .object [("access_token", .ofText? tokens.accessToken), ("id_token", .ofText? tokens.idToken),
    ("refresh_token", .ofText? tokens.refreshToken),
    ("expires_in", (tokens.expiresIn.map Json.int).getD .null),
    ("token_type", .ofText? tokens.tokenType)]

/-- The access token, unless it is absent or empty. -/
def usableToken? (tokens : Tokens) : Option String :=
  tokens.accessToken.filter (· ≠ "")

/-- The text that stands for tokens in messages. The tokens themselves stay out
of it. -/
def summary (tokens : Tokens) : String :=
  "AuthenticationResult(token_type=" ++ (tokens.tokenType.map Text.quoted).getD "None" ++
    ", expires_in=" ++ (tokens.expiresIn.map toString).getD "None" ++ ")"

end Tokens

/-- Named texts, as they go with a challenge or an answer. -/
abbrev Parameters := List (String × String)

/-- Named texts as an object. -/
def Parameters.toJson (parameters : Parameters) : Json :=
  .object (parameters.map fun (name, value) => (name, .text value))

/-- A reply of the service. -/
structure Reply where
  challengeName : Option String
  parameters : Parameters
  session : Option String
  tokens : Option Tokens
deriving DecidableEq, Repr

namespace Reply

/-- The values of a map of texts. -/
def textMap : Json → Checked Parameters
  | .object members => Checked.entries Checked.text members
  | _ => Checked.refuse .notMap

/-- Reads a reply. -/
def ofJson : Json → Checked Reply :=
  Checked.object fun members =>
    let text (names : List String) : Checked (Option String) :=
      Checked.optional names none (Checked.nullable Checked.text) members
    Checked.ap (Checked.ap (Checked.ap
      ((text ["ChallengeName", "challenge_name"]).map Reply.mk)
      (Checked.optional ["ChallengeParameters", "challenge_parameters"] [] textMap members))
      (text ["Session", "session"]))
      (Checked.optional ["AuthenticationResult", "authentication_result"] none
        (Checked.nullable Tokens.ofJson) members)

/-- A reply as an object. -/
def toJson (reply : Reply) : Json :=
  .object [("challenge_name", .ofText? reply.challengeName),
    ("challenge_parameters", Parameters.toJson reply.parameters),
    ("session", .ofText? reply.session),
    ("authentication_result", (reply.tokens.map Tokens.toJson).getD .null)]

/-- Reads the reply to an operation. All complaints together are one failure. -/
def parse (operation : String) (data : Json) : Except Failure Reply :=
  match ofJson data with
  | .ok reply => .ok reply
  | .error complaints => .error (.malformedReply operation complaints.length)

/-- Whether the service asks for more: it names a challenge or gives parameters
for one. -/
def hasChallenge (reply : Reply) : Bool :=
  reply.challengeName.any (· ≠ "") || !reply.parameters.isEmpty

/-- A challenge parameter that is present and not empty. -/
def parameter? (reply : Reply) (name : String) : Option String :=
  (Json.lookup? name reply.parameters).filter (· ≠ "")

end Reply

/-- What a completed sign in gives to the caller. -/
structure SignInResult where
  isSignedIn : Bool
  nextStep : String
  username : Option String
deriving DecidableEq, Repr

namespace SignInResult

/-- Reads a sign-in result. -/
def ofJson : Json → Checked SignInResult :=
  Checked.object fun members =>
    Checked.ap (Checked.ap
      ((Checked.required "is_signed_in" Checked.bool members).map SignInResult.mk)
      (Checked.optional ["next_step"] "DONE" Checked.text members))
      (Checked.optional ["username"] none (Checked.nullable Checked.text) members)

/-- A sign-in result as an object. -/
def toJson (result : SignInResult) : Json :=
  .object [("is_signed_in", .bool result.isSignedIn), ("next_step", .text result.nextStep),
    ("username", .ofText? result.username)]

/-- The result for a user whose sign in is done. -/
def signedIn (username : String) : SignInResult := ⟨true, "DONE", some username⟩

end SignInResult
end ClientAuth

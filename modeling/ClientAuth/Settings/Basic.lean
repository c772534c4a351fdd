import ClientAuth.Failure
import ClientAuth.Validation

/-! The settings of the library. -/
namespace ClientAuth

/-- All settings. -/
structure Settings where
  projectName : String
  logLevel : String
  region : String
  poolId : String
  clientId : String
  clientSecret : Option String
  transport : String
  endpointUrl : Option String
  timeout : Binary64
  apiKey : Option String
  defaultMechanism : String
  serviceName : String
  strict : Bool
deriving DecidableEq, Repr

namespace Settings

/-- The names under which settings are given, in the order in which they are
checked. -/
def names : List String :=
  ["PROJECT_NAME", "LOG_LEVEL", "AWS_REGION", "USER_POOL_ID", "USER_POOL_CLIENT_ID",
   "USER_POOL_CLIENT_SECRET", "IDENTITY_TRANSPORT", "IDENTITY_ENDPOINT_URL", "HTTP_TIMEOUT",
   "API_KEY", "DEFAULT_AUTHORIZATION_TYPE", "APPSYNC_SERVICE_NAME",
   "STRICT_AUTH_MODE_RESOLUTION"]

/-- Ten seconds. -/
def defaultTimeout : Binary64 := Binary64.ofRatio false 10 1

/-- A transport that the library knows. -/
def knownTransport? (name : String) : Option String :=
  if name = "http" ∨ name = "boto3" then some name else none

/-- Reads and checks settings. What is not given has its default. -/
def ofMembers (members : List (String × Json)) : Checked Settings :=
  let text (name default : String) : Checked String :=
    Checked.optional [name] default Checked.text members
  let optionalText (name : String) : Checked (Option String) :=
    Checked.optional [name] none (Checked.nullable Checked.text) members
  Checked.ap (Checked.ap (Checked.ap (Checked.ap (Checked.ap (Checked.ap (Checked.ap (Checked.ap
    (Checked.ap (Checked.ap (Checked.ap (Checked.ap
      ((text "PROJECT_NAME" "appauth").map Settings.mk)
      (text "LOG_LEVEL" "INFO"))
      (text "AWS_REGION" "us-east-1"))
      (text "USER_POOL_ID" "us-east-1_example"))
      (text "USER_POOL_CLIENT_ID" ""))
      (optionalText "USER_POOL_CLIENT_SECRET"))
      (Checked.optional ["IDENTITY_TRANSPORT"] "http"
        (Checked.choice .notLiteral knownTransport?) members))
      (optionalText "IDENTITY_ENDPOINT_URL"))
      (Checked.optional ["HTTP_TIMEOUT"] defaultTimeout Checked.float members))
      (optionalText "API_KEY"))
      (text "DEFAULT_AUTHORIZATION_TYPE" "API_KEY"))
      (text "APPSYNC_SERVICE_NAME" "appsync"))
      (Checked.optional ["STRICT_AUTH_MODE_RESOLUTION"] false Checked.bool members)

/-- All settings by name. -/
def toMembers (settings : Settings) : List (String × Json) :=
  [("PROJECT_NAME", .text settings.projectName), ("LOG_LEVEL", .text settings.logLevel),
   ("AWS_REGION", .text settings.region), ("USER_POOL_ID", .text settings.poolId),
   ("USER_POOL_CLIENT_ID", .text settings.clientId),
   ("USER_POOL_CLIENT_SECRET", .ofText? settings.clientSecret),
   ("IDENTITY_TRANSPORT", .text settings.transport),
   ("IDENTITY_ENDPOINT_URL", .ofText? settings.endpointUrl),
   ("HTTP_TIMEOUT", .float settings.timeout), ("API_KEY", .ofText? settings.apiKey),
   ("DEFAULT_AUTHORIZATION_TYPE", .text settings.defaultMechanism),
   ("APPSYNC_SERVICE_NAME", .text settings.serviceName),
   ("STRICT_AUTH_MODE_RESOLUTION", .bool settings.strict)]

/-- The endpoint of the identity service. -/
def identityEndpoint (settings : Settings) : String :=
  match settings.endpointUrl.filter (· ≠ "") with
  | some url => url
  | none => "https://cognito-idp." ++ settings.region ++ ".amazonaws.com/"

end Settings
end ClientAuth

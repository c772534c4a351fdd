import ClientAuth.Exchange.Endpoint
import ClientAuth.Settings.Basic

/-! Which transport the settings choose, and what it is built with. Settings
need not have been checked, so that any of them may be any value. -/
namespace ClientAuth

/-- The settings that matter to a transport. -/
structure TransportSettings where
  transport : Json
  clientId : Json
  region : Json
  endpointUrl : Json
  timeout : Json

namespace TransportSettings

/-- What matters of checked settings. -/
def ofSettings (settings : Settings) : TransportSettings :=
  ⟨.text settings.transport, .text settings.clientId, .text settings.region,
    .ofText? settings.endpointUrl, .float settings.timeout⟩

/-- What matters of settings that are taken as they are given. -/
def unchecked (members : List (String × Json)) : TransportSettings :=
  let setting (name : String) (default : Json) : Json := (Json.lookup? name members).getD default
  ⟨setting "IDENTITY_TRANSPORT" (.text "http"), setting "USER_POOL_CLIENT_ID" (.text ""),
    setting "AWS_REGION" (.text "us-east-1"), setting "IDENTITY_ENDPOINT_URL" .null,
    setting "HTTP_TIMEOUT" (.float Settings.defaultTimeout)⟩

end TransportSettings

/-- What a transport is built with. The client library may know a region under
another name than the settings. -/
inductive TransportPlan
  | http (clientId endpoint timeout : Json)
  | sdk (clientId region timeout : Json) (clientRegion endpoint : String)

namespace TransportPlan

/-- A transport over HTTP. Nothing of it is checked before it is used. -/
def overHttp (settings : TransportSettings) : TransportPlan :=
  let endpoint :=
    if settings.endpointUrl.isVacuous then
      Json.text ("https://cognito-idp." ++ settings.region.shown ++ ".amazonaws.com/")
    else settings.endpointUrl
  http settings.clientId endpoint settings.timeout

/-- A transport through the client library, which checks the region first, then
the endpoint, and at last the time limit. -/
def overSdk (settings : TransportSettings) : Outcome TransportPlan :=
  match settings.region with
  | .text region =>
      let chars := region.toList
      if !Endpoint.isRegion chars then .halt .invalidRegion
      else do
        let endpoint ←
          match settings.endpointUrl with
          | .null => pure (Endpoint.ofRegion chars)
          | .text url => pure url
          | _ => .halt .wrongKind
        if !Endpoint.isValid endpoint then .halt .invalidEndpoint
        else
          Endpoint.checkTimeout settings.timeout
          return sdk settings.clientId settings.region settings.timeout
            (String.ofList (Endpoint.plainRegion chars)) endpoint
  | .null => .halt .noRegion
  | _ => .halt .wrongKind

/-- The transport that settings name, in letters of either case. -/
def ofSettings (settings : TransportSettings) : Outcome TransportPlan :=
  match settings.transport with
  | .text name =>
      let name := Text.lower name
      if name = "http" then .ok (overHttp settings)
      else if name = "boto3" then overSdk settings
      else .fail (.unknownTransport name)
  | _ => .halt .notText

end TransportPlan
end ClientAuth

import ClientAuth.Exchange.Http
import ClientAuth.Exchange.Sdk
import ClientAuth.Settings.Basic

/-! The transports that carry calls, and what each takes from the settings. -/
namespace ClientAuth

/-- A transport over HTTP. -/
structure HttpTransport where
  clientId : String
  endpoint : String
deriving DecidableEq, Repr

/-- A transport through a vendor's client library. -/
structure SdkTransport where
  clientId : String
  region : String
deriving DecidableEq, Repr

/-- A text that is given and not empty, or another one. -/
def given (value : Option String) (other : String) : String :=
  (value.filter (· ≠ "")).getD other

/-- A transport over HTTP. What is not given comes from the settings. -/
def HttpTransport.create (clientId endpoint : Option String) (settings : Settings) :
    HttpTransport :=
  ⟨given clientId settings.clientId, given endpoint settings.identityEndpoint⟩

/-- A transport through the client library. What is not given comes from the
settings. -/
def SdkTransport.create (clientId region : Option String) (settings : Settings) : SdkTransport :=
  ⟨given clientId settings.clientId, given region settings.region⟩

end ClientAuth

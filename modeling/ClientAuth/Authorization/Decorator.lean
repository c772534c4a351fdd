import ClientAuth.Authorization.Providers

/-! Decorators put a mechanism's credential into a request. -/
namespace ClientAuth

/-- What is done to a request. A token and a configured key are fixed when the
decorator is made; a provider's key is read when the request is decorated. -/
inductive Decorator
  | nothing
  | token (value : String)
  | providedKey
  | configuredKey (value : String)
  | signature (credentials : AwsCredentials) (scope : Scope)
deriving DecidableEq, Repr

namespace Decorator

/-- The header that carries a key. -/
def keyHeader : String := "x-api-key"

/-- A request with one header set. Its value is written in UTF-8, unless the
encoding is fixed. -/
def withHeader (name value : String) (request : ApiRequest) : Outcome ApiRequest :=
  let encoding := request.encoding.getD .utf8
  if encoding.holds value then .ok { request with headers := request.headers.set name value }
  else .halt (encoding.fault value)

/-- Decorates a request. -/
def decorate (decorator : Decorator) (providers : Providers) (now : Binary64)
    (request : ApiRequest) : Outcome ApiRequest :=
  match decorator with
  | nothing => .ok request
  | token value => withHeader "authorization" value request
  | providedKey => withHeader keyHeader (providers.apiKey.getD "") request
  | configuredKey value => withHeader keyHeader value request
  | signature credentials scope => Signature.apply credentials scope now request

end Decorator

/-- What decorators are made with: the mechanism for requests that ask for
none, a configured key, and where signatures are valid. -/
structure DecoratorFactory where
  mechanism : Mechanism
  apiKey : Option String
  scope : Scope
deriving DecidableEq, Repr

namespace DecoratorFactory

/-- A factory. What is not given comes from the settings; an empty region or
service is not given, an empty key is. -/
def create (mechanism : Option Mechanism) (region apiKey service : Option String)
    (settings : Settings) : Outcome DecoratorFactory := do
  let mechanism ←
    match mechanism with
    | some mechanism => pure mechanism
    | none => Mechanism.ofName settings.defaultMechanism
  return ⟨mechanism, apiKey.or settings.apiKey,
    ⟨(region.filter (· ≠ "")).getD settings.region,
      (service.filter (· ≠ "")).getD settings.serviceName⟩⟩

/-- The decorator of a mechanism. The provider behind it must be there; in
place of missing credentials those of the surroundings are taken, if there are
any. -/
def decoratorFor (factory : DecoratorFactory) (providers : Providers)
    (surrounding : Outcome (Option AwsCredentials)) (mechanism : Mechanism) : Outcome Decorator :=
  match mechanism with
  | .userPools =>
      match providers.userPools with
      | some pool => pool.latestToken.map .token
      | none => .fail .noUserPoolProvider
  | .openIdConnect =>
      match providers.oidc with
      | some token => .ok (.token token)
      | none => .fail .noTokenProvider
  | .apiKey =>
      match providers.apiKey with
      | some _ => .ok .providedKey
      | none =>
          match factory.apiKey.filter (· ≠ "") with
          | some key => .ok (.configuredKey key)
          | none => .fail .noApiKey
  | .awsIam =>
      match providers.aws with
      | some credentials => .ok (.signature credentials factory.scope)
      | none => do
          match ← surrounding with
          | some credentials => return .signature credentials factory.scope
          | none => .fail .noAwsCredentials
  | .none => .ok .nothing
  | .default => .ok .nothing

/-- The decorator of a request that may ask for a mechanism. -/
def decoratorForRequest (factory : DecoratorFactory) (providers : Providers)
    (surrounding : Outcome (Option AwsCredentials)) (mechanism : Option Mechanism) :
    Outcome Decorator :=
  factory.decoratorFor providers surrounding (mechanism.getD factory.mechanism)

end DecoratorFactory

/-- The credentials in an environment. An access key needs a secret key beside
it; of two names for the session token the older one comes first. -/
def AwsCredentials.ofEnvironment (environment : List (String × String)) :
    Outcome (Option AwsCredentials) :=
  let setting (name : String) : Option String := Json.lookup? name environment
  match (setting "AWS_ACCESS_KEY_ID").filter (· ≠ "") with
  | none => .ok none
  | some accessKey =>
      match (setting "AWS_SECRET_ACCESS_KEY").filter (· ≠ "") with
      | none => .halt .partialCredentials
      | some secretKey =>
          .ok (some ⟨accessKey, secretKey,
            (setting "AWS_SECURITY_TOKEN").or (setting "AWS_SESSION_TOKEN")⟩)

end ClientAuth

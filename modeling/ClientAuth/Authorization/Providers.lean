import ClientAuth.Api.Signature
import ClientAuth.Authorization.Mechanism
import ClientAuth.Credentials.Store
import ClientAuth.Settings.Basic

/-! The providers that are configured for an API, as they answer at one
instant. A provider being there is what makes its mechanism usable; of user
pools a current session is asked too. -/
namespace ClientAuth

/-- A provider of user-pool tokens: whether there is a session, and its token. -/
structure PoolProvider where
  hasSession : Outcome Bool
  latestToken : Outcome String

namespace PoolProvider

/-- A provider that reads the store of a sign in. -/
def ofStore (store : Store) (now : Binary64) : PoolProvider :=
  ⟨store.hasSession now, store.latestToken now⟩

/-- A provider with an answer of its own. -/
def standing (hasSession : Bool) (token : String) : PoolProvider := ⟨.ok hasSession, .ok token⟩

end PoolProvider

/-- The providers of an API. Any of them may be missing. -/
structure Providers where
  apiKey : Option String
  aws : Option AwsCredentials
  userPools : Option PoolProvider
  oidc : Option String

namespace Providers

/-- The providers that settings and an optional store give. An empty key is no
key. -/
def ofSettings (settings : Settings) (store : Option (Store × Binary64))
    (aws : Option AwsCredentials) : Providers :=
  ⟨settings.apiKey.filter (· ≠ ""), aws,
    store.map fun (store, now) => PoolProvider.ofStore store now, none⟩

/-- Whether the provider behind a mechanism is available. -/
def isUsable (providers : Providers) : Mechanism → Outcome Bool
  | .userPools =>
      match providers.userPools with
      | some pool => pool.hasSession
      | none => .ok false
  | .awsIam => .ok providers.aws.isSome
  | .apiKey => .ok providers.apiKey.isSome
  | .openIdConnect => .ok providers.oidc.isSome
  | .none => .ok false
  | .default => .ok false

end Providers
end ClientAuth

import ClientAuth.Credentials.IdToken
import ClientAuth.Exchange.Reply

/-! The tokens of the latest sign in, and whether they still make a session. -/
namespace ClientAuth

/-- Tokens and the time at which they were stored. -/
structure Holding where
  tokens : Tokens
  storedAt : Binary64
deriving DecidableEq, Repr

/-- A store holds the tokens of one sign in, or none. -/
structure Store where
  held : Option Holding
deriving DecidableEq, Repr

namespace Store

def empty : Store := ⟨none⟩

/-- Keeps new tokens in place of the old ones. -/
def put (tokens : Tokens) (now : Binary64) : Store := ⟨some ⟨tokens, now⟩⟩

/-- The tokens that are visible. -/
def tokens? (store : Store) : Option Tokens := store.held.map (·.tokens)

def accessToken? (store : Store) : Option String := store.tokens?.bind (·.accessToken)

/-- The user of the stored identity token, if it can be read. -/
def user? (store : Store) : Outcome (Option IdToken.User) :=
  match (store.tokens?.bind (·.idToken)).filter (· ≠ "") with
  | none => .ok none
  | some token =>
      match IdToken.claims token with
      | .ok claims => .ok (some (.ofClaims claims))
      | .error .malformed => .ok none
      | .error (.tooDeep inObject) => .halt (.tooDeep inObject)

/-- Whether tokens are still valid by the service's own count of seconds. -/
def withinLifetime (holding : Holding) (now : Binary64) : Outcome Bool :=
  match holding.tokens.expiresIn with
  | none => .ok true
  | some seconds =>
      match Binary64.ofInt? seconds with
      | some lifetime => .ok (now.lt (holding.storedAt.add lifetime))
      | none => .halt .beyondDouble

/-- Whether there is a session. It needs an access token. The expiry claim of
the identity token decides if there is one, else the lifetime of the tokens. -/
def hasSession (store : Store) (now : Binary64) : Outcome Bool :=
  match store.held with
  | none => .ok false
  | some holding =>
      if holding.tokens.usableToken?.isNone then .ok false
      else
        match store.user? with
        | .error interruption => .error interruption
        | .ok none => withinLifetime holding now
        | .ok (some user) =>
            match user.expiry with
            | .null => withinLifetime holding now
            | claim =>
                match IdToken.Expiry.ofJson claim with
                | .moment time => .ok (now.lt time)
                | .unusable => .ok false
                | .beyondDouble => .halt .beyondDouble

/-- The access token of the session. -/
def latestToken (store : Store) (now : Binary64) : Outcome String := do
  if ← store.hasSession now then Outcome.orFail .notSignedIn store.accessToken?
  else .fail .notSignedIn

@[simp] theorem tokens?_put (tokens : Tokens) (now : Binary64) :
    (put tokens now).tokens? = some tokens := rfl

@[simp] theorem tokens?_empty : empty.tokens? = none := rfl

end Store
end ClientAuth

import ClientAuth.Base64
import ClientAuth.Calendar.Stamp
import ClientAuth.Srp.Ephemeral
import ClientAuth.Srp.Padding

/-! The client's side of one exchange: the session key shared with the service
and the claim of the password that is signed with it. -/
namespace ClientAuth.Srp

/-- The name part of a pool id `<region>_<name>`. The first underscore divides
them, and neither is empty. -/
def poolName (poolId : String) : Outcome String :=
  let chars := poolId.toList
  let region := chars.takeWhile (· ≠ '_')
  let name := (chars.dropWhile (· ≠ '_')).drop 1
  if region.isEmpty || name.isEmpty then .fail (.invalidPoolId poolId)
  else .ok (String.ofList name)

/-- The scrambling parameter: the digest of both padded public values. -/
def scrambling (client server : Int) : Outcome Nat := do
  return (← hexDigest ((← padInt client) ++ (← padInt server))).toNat

/-- The digest of the pool name, the user id and the password. -/
def identityDigest (pool userId password : String) : Outcome Bytes := do
  return Sha256.digest (← Outcome.utf8 (pool ++ userId ++ ":" ++ password))

/-- The private key that a salt and a password give. -/
def passwordKey (pool userId password : String) (salt : Int) : Outcome Nat := do
  let identity ← identityDigest pool userId password
  return (← hexDigest ((← padInt salt) ++ Hex.encode identity)).toNat

/-- The secret that both sides compute, from the client's side. The difference
is reduced only after it is taken, and the exponent is not reduced. -/
def sharedSecret (secret scramble key : Nat) (server : Int) : Nat :=
  let base := (server - (multiplier * Modular.power modulus generator key : Nat)) % modulus
  Modular.power modulus base.toNat (secret + scramble * key)

/-- The 16-byte session key of a shared secret, salted with the scrambling
parameter. -/
def sessionKey (scramble shared : Nat) : Outcome Bytes := do
  let material ← hexBytes (← padInt shared)
  let salt ← hexBytes (← padInt scramble)
  return Hkdf.derive 16 keyPurpose salt material

/-- A salt: an integer, or a numeral that is read when it is needed. -/
inductive Salt
  | value (salt : Int)
  | numeral (text : String)

/-- The integer that a salt denotes. -/
def Salt.toInt : Salt → Outcome Int
  | value salt => .ok salt
  | numeral text => .orHalt .notHex (Hex.toInt? text)

/-- The client of one exchange. Its key pair is forgotten when the exchange
ends. -/
structure Client where
  pool : String
  pair : Option Ephemeral
deriving DecidableEq, Repr

namespace Client

/-- A client of a pool, with the random draws that it leaves. The pool id is
checked before anything is drawn. -/
def create (poolId : String) (entropy : List Bytes) : Outcome Client × List Bytes :=
  match poolName poolId with
  | .error interruption => (.error interruption, entropy)
  | .ok pool =>
      match drawPair entropy with
      | (.ok pair, rest) => (.ok ⟨pool, some pair⟩, rest)
      | (.error interruption, rest) => (.error interruption, rest)

/-- A client of a pool whose key pair comes from a source of random bytes, and
the source afterwards. -/
def createFrom (poolId : String) (source : RandomSource) : Outcome Client × RandomSource :=
  match poolName poolId with
  | .error interruption => (.error interruption, source)
  | .ok pool =>
      match source.drawPair with
      | (.ok pair, next) => (.ok ⟨pool, some pair⟩, next)
      | (.error interruption, next) => (.error interruption, next)

/-- The client without its key pair. -/
def clear (client : Client) : Client := { client with pair := none }

/-- The key pair, while it is kept. -/
def ephemeral (client : Client) : Outcome Ephemeral :=
  .orFail .ephemeralDiscarded client.pair

/-- The public value as it is sent. -/
def publicText (client : Client) : Outcome String := do
  return Hex.ofNat (← client.ephemeral).shared

/-- The session key for a server's public value. A server value that is zero in
the group, or a scrambling parameter of zero, is refused. -/
def deriveKey (client : Client) (userId password : String) (server : Int) (salt : Salt) :
    Outcome Bytes := do
  let pair ← client.ephemeral
  if server % modulus = 0 then .fail .zeroServerValue
  else
    let scramble ← scrambling pair.shared server
    if scramble = 0 then .fail .zeroScrambling
    else
      let key ← passwordKey client.pool userId password (← salt.toInt)
      sessionKey scramble (sharedSecret pair.secret scramble key server)

/-- The signature of a challenge: the tag of the pool name, the user id, the
decoded secret block and the timestamp. -/
def sign (client : Client) (userId : String) (key : Bytes) (timestamp secretBlock : String) :
    Outcome String := do
  let block ← Outcome.orFail .secretBlockNotBase64 (Base64.decode? secretBlock)
  let pool ← Outcome.utf8 client.pool
  let user ← Outcome.utf8 userId
  return Base64.encode (Hmac.tag key (pool ++ user ++ block ++ (← Outcome.utf8 timestamp)))

end Client

/-- The challenge timestamp of a moment, if its second lies in the years 1 to
9999 of UTC. -/
def timestamp (now : Moment) : Outcome String := do
  return Stamp.challenge (← Outcome.orHalt .outsideCalendar (CivilTime.ofInstant? now.instant))

/-- The proof of a client secret that accompanies a user name. -/
def secretHash (username clientId clientSecret : String) : Outcome String := do
  let key ← Outcome.utf8 clientSecret
  return Base64.encode (Hmac.tag key (← Outcome.utf8 (username ++ clientId)))

end ClientAuth.Srp

import ClientAuth.Handshake.Attempt

/-! A handshake object. It can make one attempt; if the attempt cannot even
begin, it stays fresh. -/
namespace ClientAuth

/-- A handshake with a pool, and the stages that it has been through. -/
structure Handshake where
  poolId : String
  clientSecret : Option String
  history : List Stage
deriving DecidableEq, Repr

/-- What one run gives: its outcome, the record of what it did, the random
draws that it leaves, the handshake afterwards, and the client that it made, as
it is left. -/
structure Run where
  outcome : Outcome SignInResult
  record : Record
  entropy : List Bytes
  handshake : Handshake
  client : Option Srp.Client

namespace Handshake

/-- A handshake that has not been run. -/
def fresh (poolId : String) (clientSecret : Option String) : Handshake :=
  ⟨poolId, clientSecret, []⟩

/-- The last stage, if there is any. -/
def state? (handshake : Handshake) : Option Stage := handshake.history.getLast?

/-- A run that ends before its attempt begins. -/
def notBegun (handshake : Handshake) (interruption : Interruption) (entropy : List Bytes) : Run :=
  ⟨.error interruption, ⟨[], [], []⟩, entropy, handshake, none⟩

/-- Runs a handshake. A handshake with a history refuses to run again. The
client's key pair is forgotten whatever the outcome. -/
def run (handshake : Handshake) (service : Service) (sink : Sink) (now : Outcome Moment)
    (entropy : List Bytes) (username password : String) : Run :=
  if !handshake.history.isEmpty then
    handshake.notBegun (.failure .handshakeReused) entropy
  else
    match Srp.Client.create handshake.poolId entropy with
    | (.error interruption, rest) => handshake.notBegun interruption rest
    | (.ok client, rest) =>
        let (outcome, record) :=
          attempt service sink client ⟨username, password, handshake.clientSecret, now⟩
        ⟨outcome, record, rest, { handshake with history := record.stages }, some client.clear⟩

end Handshake
end ClientAuth

import ClientAuth.Handshake.Run
import ClientAuth.Metrics.Collector
import ClientAuth.Settings.Basic

/-! Signing in with settings, and the account that is kept of it. -/
namespace ClientAuth

/-- The readings of a monotonic clock. The last one repeats for ever. -/
structure Readings where
  next : List Binary64
deriving DecidableEq, Repr

/-- One reading. A clock without any stands at zero. -/
def Readings.take (readings : Readings) : Binary64 × Readings :=
  match readings.next with
  | [] => (Binary64.zero false, readings)
  | [last] => (last, readings)
  | first :: rest => (first, ⟨rest⟩)

/-- What changes from one sign in to the next. -/
structure SignInState where
  entropy : List Bytes
  readings : Readings
  metrics : Collector
deriving DecidableEq, Repr

namespace SignIn

/-- Counts a finished attempt. A code that cannot be counted breaks the counting
off after the attempt and its duration are counted. -/
def account (outcome : Outcome SignInResult) (duration : Binary64) (metrics : Collector) :
    Outcome SignInResult × Collector :=
  match outcome with
  | .ok result => (.ok result, metrics.recordSignIn (.text "success") duration none)
  | .error .cancelled =>
      (.error .cancelled, metrics.recordSignIn (.text "cancelled") duration none)
  | .error (.failure cause) =>
      match Label.ofCode cause.code with
      | .ok code => (.fail cause, metrics.recordSignIn (.text "failure") duration code)
      | .error interruption =>
          (.error interruption, metrics.recordSignIn (.text "failure") duration none)
  | .error (.fault cause) => (.halt cause, metrics)

/-- Whether an outcome is counted: faults are not. -/
def isCounted : Outcome SignInResult → Bool
  | .error (.fault _) => false
  | _ => true

/-- Signs in with a new handshake. The duration is measured only if the attempt
is counted. -/
def signIn (settings : Settings) (service : Service) (sink : Sink) (now : Outcome Moment)
    (username password : String) (state : SignInState) : Run × SignInState :=
  let (started, readings) := state.readings.take
  let run := (Handshake.fresh settings.poolId settings.clientSecret).run service sink now
    state.entropy username password
  if isCounted run.outcome then
    let (finished, readings) := readings.take
    let (outcome, metrics) := account run.outcome (finished.sub started) state.metrics
    ({ run with outcome := outcome }, ⟨run.entropy, readings, metrics⟩)
  else (run, ⟨run.entropy, readings, state.metrics⟩)

/-- The name of a sign in that runs in the background. -/
def taskName (username : String) : String := "sign-in:" ++ username

end SignIn
end ClientAuth

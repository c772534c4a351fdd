import ClientAuth.Exchange.Transport
import ClientAuth.Proofs.Outcome

/-! The service as each transport shows it, by what comes back for each call. Main statement:
`Http.coded_of_answer`, whatever a service answers over HTTP, a failure that comes of it has a
code. -/
namespace ClientAuth

/-- The service behind a transport over HTTP. What comes back for the second call may depend on
the first. -/
def HttpTransport.service (transport : HttpTransport) (first : Parameters → Http.Exchange)
    (second : Parameters → ChallengeAnswer → Http.Exchange) (room : Nat := Json.depthLimit) :
    Service :=
  let meet (call : Call) (exchange : Http.Exchange) : Answer :=
    Http.answer transport.endpoint transport.clientId call exchange room
  ⟨transport.clientId, fun parameters => (meet (.initiate parameters) (first parameters),
    fun answer => meet (.respond answer) (second parameters answer))⟩

/-- The service behind a transport through the client library. -/
def SdkTransport.service (transport : SdkTransport) (first : Parameters → Sdk.Exchange)
    (second : Parameters → ChallengeAnswer → Sdk.Exchange) : Service :=
  let meet := Sdk.receive transport.clientId
  ⟨transport.clientId, fun parameters => (meet (.initiate parameters) (first parameters),
    fun answer => meet (.respond answer) (second parameters answer))⟩

/-- A failure carries a code that says something. -/
def Failure.Coded (failure : Failure) : Prop := ∃ code, failure.code = .text code ∧ code ≠ ""

theorem Failure.Is.coded {failure : Failure} {kind : Kind} (h : failure.Is kind) :
    failure.Coded :=
  ⟨kind.code, h.named, by cases kind <;> decide⟩

theorem Trouble.ofFailure_eq_error {α : Type} {result : Except Failure α} {trouble : Trouble} :
    ofFailure result = .error trouble ↔
      ∃ failure, trouble = .failure failure ∧ result = .error failure := by
  cases result with
  | ok value => simp [ofFailure]
  | error failure => simp [ofFailure, eq_comm]

/-- A reply that cannot be read is a failure of the protocol. -/
theorem Reply.is_protocol_of_parse {operation : String} {data : Json} {failure : Failure}
    (h : parse operation data = .error failure) : failure.Is .protocol := by
  rw [parse] at h
  split at h
  next => nomatch h
  next =>
    cases h
    exact ⟨rfl, rfl⟩

namespace Http

/-- A refusal has a code even if its body names no type. -/
theorem errorCode_ne_empty (status : Nat) (content : Option Json) :
    errorCode status content ≠ "" := by
  rw [errorCode.eq_def]
  extract_lets named code
  split
  next =>
    intro hEmpty
    have hText := congrArg String.toList hEmpty
    simp at hText
  next hNamed => exact hNamed

theorem coded_of_classify {call : Call} {status : Nat} {phrase : String} {content : Option Json}
    {failure : Failure} (h : classify call status phrase content = .error failure) :
    failure.Coded := by
  rw [classify.eq_def] at h
  split at h
  next =>
    split at h
    next data => exact (Reply.is_protocol_of_parse h).coded
    next =>
      cases h
      exact Failure.Is.coded (⟨rfl, rfl⟩ : Failure.Is _ .protocol)
  next =>
    split at h
    next =>
      cases h
      exact Failure.Is.coded (⟨rfl, rfl⟩ : Failure.Is _ .transport)
    next =>
      cases h
      exact ⟨_, rfl, errorCode_ne_empty status content⟩

theorem coded_of_receive {room : Nat} {call : Call} {exchange : Exchange} {failure : Failure}
    (hExchange : ∀ cause, exchange ≠ .trouble (.failure cause))
    (h : receive room call exchange = .error (.failure failure)) : failure.Coded := by
  cases exchange with
  | response status body phrase =>
      rw [receive] at h
      split at h
      next data =>
        obtain ⟨cause, hCause, hClassify⟩ := Trouble.ofFailure_eq_error.mp h
        cases hCause
        exact coded_of_classify hClassify
      next =>
        obtain ⟨cause, hCause, hClassify⟩ := Trouble.ofFailure_eq_error.mp h
        cases hCause
        exact coded_of_classify hClassify
      next => nomatch h
  | broken text =>
      cases h
      exact Failure.Is.coded (⟨rfl, rfl⟩ : Failure.Is _ .transport)
  | trouble cause =>
      cases h
      exact absurd rfl (hExchange failure)

/-- Whatever comes back for a call, a failure that comes of it has a code, unless the failure
itself came back. -/
theorem coded_of_answer {endpoint clientId : String} {call : Call} {exchange : Exchange}
    {room : Nat} {failure : Failure} (hExchange : ∀ cause, exchange ≠ .trouble (.failure cause))
    (h : answer endpoint clientId call exchange room = .error (.failure failure)) :
    failure.Coded := by
  rw [answer.eq_def] at h
  split at h
  next => nomatch h
  next =>
    split at h
    next => exact coded_of_receive hExchange h
    next => nomatch h
  next => exact coded_of_receive hExchange h

end Http
end ClientAuth

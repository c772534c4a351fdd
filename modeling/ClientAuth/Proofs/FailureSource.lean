import ClientAuth.Proofs.Ending

/-! Where the failures of a run come from. Main statement: `Handshake.run_failure_source`: with any
service, sink and clock, a failure is one of the library's own, with the code of its family, or
one of theirs, passed on as it is. -/
namespace ClientAuth

/-- A service raises a failure when it is called in some way. -/
def Service.Raises (service : Service) (failure : Failure) : Prop :=
  ∃ parameters, (service.initiate parameters).1 = .error (.failure failure) ∨
    ∃ answer, (service.initiate parameters).2 answer = .error (.failure failure)

/-- A part that is given to a run raises a failure: the service, the sink or the clock. -/
inductive Raised (service : Service) (sink : Sink) (now : Outcome Moment) (failure : Failure) :
    Prop
  | service (hService : service.Raises failure)
  | sink {tokens : Tokens} (hSink : sink tokens = .fail failure)
  | clock (hClock : now = .fail failure)

/-- A clock either shows a time, breaks the stamp off, or has a failure of its own. -/
theorem timestamp_cases (now : Outcome Moment) :
    ShowsTime now ∨ ∃ interruption, (now >>= Srp.timestamp) = .error interruption ∧
      ((∃ fault, interruption = .fault fault) ∨ now = .error interruption) := by
  cases now with
  | error interruption => exact Or.inr ⟨interruption, rfl, Or.inr rfl⟩
  | ok moment =>
      cases hTime : CivilTime.ofInstant? moment.instant with
      | some time => exact Or.inl ⟨moment, rfl, by rw [hTime]; rfl⟩
      | none =>
          refine Or.inr ⟨.fault .outsideCalendar, ?_, Or.inl ⟨_, rfl⟩⟩
          rw [Outcome.ok_bind, Srp.timestamp, hTime]
          rfl

theorem Challenge.failure_of_respond {challenge : Challenge} {pool clientId : String}
    {pair : Srp.Ephemeral} {login : Login} {failure : Failure}
    (h : challenge.respond ⟨pool, some pair⟩ clientId login = .fail failure) :
    failure.Is .protocol ∨ login.now = .fail failure := by
  rcases timestamp_cases login.now with hTime | ⟨interruption, hStamp, hCause⟩
  · rcases respond_error hTime h with ⟨-, fault, -, hFault⟩ | ⟨-, -, other, hOther, hKind⟩
    · nomatch hFault
    · cases hOther
      exact Or.inl hKind
  · have hRespond : challenge.respond ⟨pool, some pair⟩ clientId login = .error interruption := by
      rw [respond, ← bind_assoc, hStamp]
      rfl
    rw [hRespond] at h
    cases h
    rcases hCause with ⟨fault, hFault⟩ | hNow
    · nomatch hFault
    · exact Or.inr hNow

theorem settle_eq_fail {answer : Answer} {failure : Failure}
    (h : settle answer = .fail failure) :
    failure.Is .transport ∨ answer = .error (.failure failure) := by
  rcases answer with (cause | _ | cause) | reply
  · cases h
    exact Or.inr rfl
  · nomatch h
  · cases h
    exact Or.inl ⟨rfl, rfl⟩
  · nomatch h

section

variable {service : Service} {sink : Sink} {now : Outcome Moment} {failure : Failure}

theorem Landing.failure_source {username : String} {reply : Reply} {stage : Stage}
    {offered : List Tokens} (h : Landing sink username reply (.fail failure) stage offered) :
    (∃ kind, failure.Is kind) ∨ Raised service sink now failure := by
  cases h with
  | lacking hNone => exact Or.inl ⟨_, Failure.noTokens_is⟩
  | refused hCarries hSink => exact Or.inr (.sink hSink)

/-- The failure of an attempt, by the way through it. -/
theorem Course.failure_source {pool : String} {pair : Srp.Ephemeral} {login : Login}
    {record : Record} (h : Course service sink ⟨pool, some pair⟩ login (.fail failure) record) :
    (∃ kind, failure.Is kind) ∨ Raised service sink login.now failure := by
  cases h with
  | unopened hOpening =>
      obtain ⟨-, fault, -, hFault⟩ := not_provesSecret_of_opening hOpening
      nomatch hFault
  | firstUnmet hOpening hAnswer =>
      rcases settle_eq_fail hAnswer with hKind | hRaised
      · exact Or.inl ⟨_, hKind⟩
      · exact Or.inr (.service ⟨_, Or.inl hRaised⟩)
  | direct hOpened hNone hLanding => exact hLanding.failure_source
  | unsupported hOpened hChallenge hName => exact Or.inl ⟨_, Failure.challengeNotSupported_is _⟩
  | unread hOpened hName hRead =>
      obtain ⟨-, cause, hCause, hKind⟩ := Challenge.not_in_of_ofReply hRead
      cases hCause
      exact Or.inl ⟨_, hKind⟩
  | unanswered hOpened hName hRead hRespond =>
      rcases Challenge.failure_of_respond hRespond with hKind | hNow
      · exact Or.inl ⟨_, hKind⟩
      · exact Or.inr (.clock hNow)
  | @secondUnmet parameters reply respond challenge answer interruption hOpened hAnswered hAnswer =>
      rcases settle_eq_fail hAnswer with hKind | hRaised
      · exact Or.inl ⟨_, hKind⟩
      · refine Or.inr (.service ⟨parameters, Or.inr ⟨answer, ?_⟩⟩)
        rw [hOpened.met]
        exact hRaised
  | challengedAgain hOpened hAnswered hSecond hTokens hName =>
      exact Or.inl ⟨_, Failure.challengeNotSupported_is _⟩
  | concluded hOpened hAnswered hSecond hFinal hLanding => exact hLanding.failure_source

end

namespace Srp

theorem failure_of_drawPair {entropy rest : List Bytes} {interruption : Interruption}
    (h : drawPair entropy = (.error interruption, rest)) : interruption = .fault .noEntropy := by
  induction entropy with
  | nil =>
      cases h
      rfl
  | cons draw entropy ih =>
      rw [drawPair] at h
      split at h
      next =>
        split at h
        next => exact ih h
        next => cases h
      next => exact ih h

/-- A client that cannot be made fails for the id of its pool. -/
theorem Client.failure_of_create {poolId : String} {entropy rest : List Bytes} {failure : Failure}
    (h : create poolId entropy = (.fail failure, rest)) : failure.Is .configuration := by
  rw [create] at h
  split at h
  next hPool =>
    cases h
    rw [poolName] at hPool
    split at hPool
    next =>
      cases hPool
      exact ⟨rfl, rfl⟩
    next => cases hPool
  next =>
    split at h
    next => cases h
    next hDraw =>
      cases h
      cases failure_of_drawPair hDraw

end Srp

/-- The failure of a fresh handshake's run is the library's own, or comes from the service, the
sink or the clock. -/
theorem Handshake.run_failure_source {poolId : String} {clientSecret : Option String}
    {service : Service} {sink : Sink} {now : Outcome Moment} {entropy : List Bytes}
    {username password : String} {failure : Failure}
    (h : ((fresh poolId clientSecret).run service sink now entropy username password).outcome =
      .fail failure) : (∃ kind, failure.Is kind) ∨ Raised service sink now failure := by
  cases hCreate : Srp.Client.create (fresh poolId clientSecret).poolId entropy with
  | mk client rest =>
      cases client with
      | error interruption =>
          have hRun : (fresh poolId clientSecret).run service sink now entropy username password =
              (fresh poolId clientSecret).notBegun interruption rest := by
            rw [run, hCreate]
            rfl
          rw [hRun] at h
          cases h
          exact Or.inl ⟨_, Srp.Client.failure_of_create hCreate⟩
      | ok client =>
          rw [run_of_create rfl hCreate] at h
          obtain ⟨pool, pair, rfl⟩ := Srp.Client.exists_pair_of_create hCreate
          have hCourse := course_attempt service sink ⟨pool, some pair⟩
            ⟨username, password, clientSecret, now⟩
          rw [show (attempt service sink ⟨pool, some pair⟩
            ⟨username, password, clientSecret, now⟩).1 = .fail failure from h] at hCourse
          exact hCourse.failure_source

end ClientAuth

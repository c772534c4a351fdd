import Mathlib.Data.List.Forall2
import ClientAuth.Proofs.Course

/-! One attempt against two services. Main statement: `Handshake.run_matches`, by which the runs
take the same way and end alike as soon as the answers to the calls that are made match. -/
namespace ClientAuth

/-- Failures of one family, with one code and one message. What they say in detail may differ. -/
structure Failure.Alike (first second : Failure) : Prop where
  kind : first.kind = second.kind
  code : first.code = second.code
  message : first.message = second.message

/-- Answers to a call that are the same but for the details of a failure. -/
inductive AnswersMatch : Answer → Answer → Prop
  | same (answer : Answer) : AnswersMatch answer answer
  | failed {first second : Failure} (h : first.Alike second) :
      AnswersMatch (.error (.failure first)) (.error (.failure second))

/-- Outcomes that are the same but for the details of a failure. -/
inductive Outcome.Matches {α : Type} : Outcome α → Outcome α → Prop
  | same (outcome : Outcome α) : Matches outcome outcome
  | failed {first second : Failure} (h : first.Alike second) :
      Matches (.fail first) (.fail second)

theorem AnswersMatch.settle {first second : Answer} (h : AnswersMatch first second) :
    (settle first).Matches (ClientAuth.settle second) := by
  cases h with
  | same => exact .same _
  | failed h => exact .failed h

theorem AnswersMatch.eq_ok {answer : Answer} {reply : Reply} (h : AnswersMatch (.ok reply) answer) :
    answer = .ok reply := by
  cases h with
  | same => rfl

/-- What matches an interruption is one, and either both are settled answers that failed alike or
they are the same. -/
theorem Outcome.Matches.error {α β : Type} {interruption : Interruption} {outcome : Outcome α}
    (h : Matches (.error interruption) outcome) :
    ∃ other, outcome = .error other ∧
      Matches (.error interruption : Outcome β) (.error other) := by
  cases h with
  | same => exact ⟨interruption, rfl, .same _⟩
  | failed h => exact ⟨_, rfl, .failed h⟩

section

variable {sink : Sink} {client : Srp.Client} {login : Login} {outcome : Outcome SignInResult}
  {record : Record}

/-- A call that comes to no reply matches another that does not either. -/
theorem AnswersMatch.settle_error {first second : Answer} {interruption : Interruption}
    (h : AnswersMatch first second) (hFirst : ClientAuth.settle first = .error interruption) :
    ∃ other, ClientAuth.settle second = .error other ∧
      Outcome.Matches (.error interruption : Outcome SignInResult) (.error other) := by
  have hSettled := h.settle
  rw [hFirst] at hSettled
  exact hSettled.error

theorem Opened.mirror {first second : Service} {parameters : Parameters} {reply : Reply}
    {respond : ChallengeAnswer → Answer}
    (h : Opened first client login parameters reply respond)
    (hClient : first.clientId = second.clientId)
    (hMet : AnswersMatch (first.initiate parameters).1 (second.initiate parameters).1) :
    Opened second client login parameters reply (second.initiate parameters).2 := by
  rw [h.met] at hMet
  exact ⟨hClient ▸ h.opening, Prod.ext hMet.eq_ok rfl⟩

/-- A reply to the second call is matched by the same reply. -/
theorem Opened.eq_ok {service : Service} {parameters : Parameters} {reply second : Reply}
    {respond : ChallengeAnswer → Answer} {answer : ChallengeAnswer} {other : Answer}
    (h : Opened service client login parameters reply respond)
    (hSecond : respond answer = .ok second)
    (hMatch : AnswersMatch ((service.initiate parameters).2 answer) other) :
    other = .ok second := by
  have hRespond : (service.initiate parameters).2 answer = .ok second := by
    rw [h.met]
    exact hSecond
  rw [hRespond] at hMatch
  exact hMatch.eq_ok

theorem Answered.mirror {first second : Service} {reply : Reply} {challenge : Challenge}
    {answer : ChallengeAnswer} (h : Answered first client login reply challenge answer)
    (hClient : first.clientId = second.clientId) :
    Answered second client login reply challenge answer :=
  ⟨h.name, h.read, hClient ▸ h.claim, h.sent⟩

/-- A way that is open against one service is open against another whose answers match, and it ends
alike there. -/
theorem Course.mirror {first second : Service}
    (h : Course first sink client login outcome record) (hClient : first.clientId = second.clientId)
    (hAnswers : List.Forall₂ AnswersMatch (first.answers record.calls)
      (second.answers record.calls)) :
    ∃ other, outcome.Matches other ∧ Course second sink client login other record := by
  cases h with
  | unopened hOpening => exact ⟨_, .same _, .unopened (hClient ▸ hOpening)⟩
  | firstUnmet hOpening hAnswer =>
      obtain ⟨hMet, -⟩ := List.forall₂_cons.mp hAnswers
      obtain ⟨other, hOther, hMatches⟩ := hMet.settle_error hAnswer
      exact ⟨_, hMatches, .firstUnmet (hClient ▸ hOpening) hOther⟩
  | direct hOpened hNone hLanding =>
      obtain ⟨hMet, -⟩ := List.forall₂_cons.mp hAnswers
      exact ⟨_, .same _, .direct (hOpened.mirror hClient hMet) hNone hLanding⟩
  | unsupported hOpened hChallenge hName =>
      obtain ⟨hMet, -⟩ := List.forall₂_cons.mp hAnswers
      exact ⟨_, .same _, .unsupported (hOpened.mirror hClient hMet) hChallenge hName⟩
  | unread hOpened hName hRead =>
      obtain ⟨hMet, -⟩ := List.forall₂_cons.mp hAnswers
      exact ⟨_, .same _, .unread (hOpened.mirror hClient hMet) hName hRead⟩
  | unanswered hOpened hName hRead hRespond =>
      obtain ⟨hMet, -⟩ := List.forall₂_cons.mp hAnswers
      exact ⟨_, .same _,
        .unanswered (hOpened.mirror hClient hMet) hName hRead (hClient ▸ hRespond)⟩
  | secondUnmet hOpened hAnswered hAnswer =>
      obtain ⟨hMet, hRest⟩ := List.forall₂_cons.mp hAnswers
      obtain ⟨hSecond, -⟩ := List.forall₂_cons.mp hRest
      rw [hOpened.met] at hSecond
      obtain ⟨other, hOther, hMatches⟩ := hSecond.settle_error hAnswer
      exact ⟨_, hMatches,
        .secondUnmet (hOpened.mirror hClient hMet) (hAnswered.mirror hClient) hOther⟩
  | challengedAgain hOpened hAnswered hSecond hTokens hName =>
      obtain ⟨hMet, hRest⟩ := List.forall₂_cons.mp hAnswers
      obtain ⟨hReplies, -⟩ := List.forall₂_cons.mp hRest
      exact ⟨_, .same _, .challengedAgain (hOpened.mirror hClient hMet)
        (hAnswered.mirror hClient) (hOpened.eq_ok hSecond hReplies) hTokens hName⟩
  | concluded hOpened hAnswered hSecond hFinal hLanding =>
      obtain ⟨hMet, hRest⟩ := List.forall₂_cons.mp hAnswers
      obtain ⟨hReplies, -⟩ := List.forall₂_cons.mp hRest
      exact ⟨_, .same _, .concluded (hOpened.mirror hClient hMet)
        (hAnswered.mirror hClient) (hOpened.eq_ok hSecond hReplies) hFinal hLanding⟩

/-- Two attempts against services whose answers match are the same and end alike. -/
theorem attempt_matches {first second : Service} (sink : Sink) (client : Srp.Client)
    (login : Login) (hClient : first.clientId = second.clientId)
    (hAnswers : List.Forall₂ AnswersMatch
      (first.answers (attempt first sink client login).2.calls)
      (second.answers (attempt first sink client login).2.calls)) :
    (attempt first sink client login).1.Matches (attempt second sink client login).1 ∧
      (attempt second sink client login).2 = (attempt first sink client login).2 := by
  obtain ⟨other, hMatches, hCourse⟩ := (course_attempt first sink client login).mirror hClient
    hAnswers
  rw [hCourse.attempt_eq]
  exact ⟨hMatches, rfl⟩

end

/-- Runs that are the same but for the details of a failure. -/
structure Run.Matches (first second : Run) : Prop where
  outcome : first.outcome.Matches second.outcome
  record : second.record = first.record
  handshake : second.handshake = first.handshake
  entropy : second.entropy = first.entropy
  client : second.client = first.client

/-- A handshake runs alike against two services whose answers to the calls that it makes match. -/
theorem Handshake.run_matches {first second : Service} (handshake : Handshake) (sink : Sink)
    (now : Outcome Moment) (entropy : List Bytes) (username password : String)
    (hClient : first.clientId = second.clientId)
    (hAnswers :
      let calls := (handshake.run first sink now entropy username password).record.calls
      List.Forall₂ AnswersMatch (first.answers calls) (second.answers calls)) :
    (handshake.run first sink now entropy username password).Matches
      (handshake.run second sink now entropy username password) := by
  by_cases hHistory : handshake.history = []
  · cases hCreate : Srp.Client.create handshake.poolId entropy with
    | mk client rest =>
        cases client with
        | error interruption =>
            have hRun (service : Service) :
                handshake.run service sink now entropy username password =
                  handshake.notBegun interruption rest := by
              rw [run, hHistory, hCreate]
              rfl
            rw [hRun first, hRun second]
            exact ⟨.same _, rfl, rfl, rfl, rfl⟩
        | ok client =>
            rw [run_of_create hHistory hCreate] at hAnswers
            rw [run_of_create hHistory hCreate, run_of_create hHistory hCreate]
            obtain ⟨hOutcome, hRecord⟩ := attempt_matches sink client _ hClient hAnswers
            exact ⟨hOutcome, hRecord, by dsimp only; rw [hRecord], rfl, rfl⟩
  · rw [run_of_history hHistory, run_of_history hHistory]
    exact ⟨.same _, rfl, rfl, rfl, rfl⟩

end ClientAuth

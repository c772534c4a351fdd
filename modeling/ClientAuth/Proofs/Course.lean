import ClientAuth.Handshake.Run
import ClientAuth.Proofs.ChallengeResponse
import ClientAuth.Proofs.EphemeralDraw

/-! All that an attempt can do, said once. `Course` lists the ways through an
attempt with the outcome and the record of each, `course_attempt` shows that
there are no others, and `Course.attempt_eq` that only one of them is open, for
every service, every sink and every client. Properties of attempts are read off
the ways. -/
namespace ClientAuth

/-- A reply carries tokens with an access token that is not empty. -/
def Reply.Carries (reply : Reply) (tokens : Tokens) : Prop :=
  reply.tokens = some tokens ∧ ∃ access, tokens.accessToken = some access ∧ access ≠ ""

theorem Tokens.isSome_usableToken? (tokens : Tokens) :
    tokens.usableToken?.isSome = true ↔
      ∃ access, tokens.accessToken = some access ∧ access ≠ "" := by
  rw [usableToken?]
  cases tokens.accessToken with
  | none => simp
  | some access => by_cases h : access = "" <;> simp [Option.filter, h]

theorem Reply.Carries.unique {reply : Reply} {tokens other : Tokens} (h : reply.Carries tokens)
    (hOther : reply.Carries other) : tokens = other :=
  Option.some.inj (h.1.symm.trans hOther.1)

/-- Tokens are offered exactly if a reply carries them. -/
theorem offerTokens_cases (sink : Sink) (reply : Reply) (record : Record) :
    (∃ tokens, reply.Carries tokens ∧
        offerTokens sink reply.tokens record = (sink tokens, record.offer tokens)) ∨
      ((¬∃ tokens, reply.Carries tokens) ∧
        offerTokens sink reply.tokens record = (.fail .noTokens, record)) := by
  rw [offerTokens]
  cases hTokens : reply.tokens with
  | none =>
      refine Or.inr ⟨?_, rfl⟩
      rintro ⟨tokens, hSome, -⟩
      rw [hTokens] at hSome
      nomatch hSome
  | some tokens =>
      by_cases hUsable : tokens.usableToken?.isSome = true
      · refine Or.inl ⟨tokens, ⟨hTokens, tokens.isSome_usableToken?.mp hUsable⟩, ?_⟩
        rw [Option.filter, if_pos hUsable]
      · refine Or.inr ⟨?_, ?_⟩
        · rintro ⟨other, hOther, hAccess⟩
          obtain rfl : tokens = other := Option.some.inj (hTokens.symm.trans hOther)
          exact hUsable (tokens.isSome_usableToken?.mpr hAccess)
        · rw [Option.filter, if_neg hUsable]

/-- How an attempt ends that has come to its last reply: there are no tokens in it,
the sink refuses them, or the sink takes them. -/
inductive Landing (sink : Sink) (username : String) (reply : Reply) :
    Outcome SignInResult → Stage → List Tokens → Prop
  | lacking (hNone : ¬∃ tokens, reply.Carries tokens) :
      Landing sink username reply (.fail .noTokens) .failed []
  | refused {tokens : Tokens} {interruption : Interruption} (hCarries : reply.Carries tokens)
      (hSink : sink tokens = .error interruption) :
      Landing sink username reply (.error interruption) .failed [tokens]
  | accepted {tokens : Tokens} (hCarries : reply.Carries tokens) (hSink : sink tokens = .ok ()) :
      Landing sink username reply (.ok (.signedIn username)) .complete [tokens]

theorem landing_conclude (sink : Sink) (username : String) (reply : Reply) (stages : List Stage)
    (calls : List Call) :
    ∃ outcome stage offered,
      conclude username (offerTokens sink reply.tokens ⟨stages, calls, []⟩) =
        (outcome, ⟨stages ++ [stage], calls, offered⟩) ∧
      Landing sink username reply outcome stage offered := by
  rcases offerTokens_cases sink reply ⟨stages, calls, []⟩ with
    ⟨tokens, hCarries, hOffer⟩ | ⟨hNone, hOffer⟩
  · rw [hOffer]
    cases hSink : sink tokens with
    | error interruption => exact ⟨_, _, _, rfl, .refused hCarries hSink⟩
    | ok taken => exact ⟨_, _, _, rfl, .accepted hCarries hSink⟩
  · rw [hOffer]
    exact ⟨_, _, _, rfl, .lacking hNone⟩

/-- The first call is made and met with a reply. -/
structure Opened (service : Service) (client : Srp.Client) (login : Login)
    (parameters : Parameters) (reply : Reply) (respond : ChallengeAnswer → Answer) : Prop where
  opening : openingParameters client service.clientId login = .ok parameters
  met : service.initiate parameters = (.ok reply, respond)

/-- The reply holds a password challenge, which is answered. -/
structure Answered (service : Service) (client : Srp.Client) (login : Login) (reply : Reply)
    (challenge : Challenge) (answer : ChallengeAnswer) : Prop where
  name : reply.challengeName = some passwordVerifier
  read : Challenge.ofReply reply = .ok challenge
  claim : challenge.respond client service.clientId login = .ok answer.responses
  sent : answer = ⟨passwordVerifier, answer.responses, reply.session⟩

/-- The ways through an attempt. Each is named for where it ends. -/
inductive Course (service : Service) (sink : Sink) (client : Srp.Client) (login : Login) :
    Outcome SignInResult → Record → Prop
  | unopened {interruption : Interruption}
      (hOpening : openingParameters client service.clientId login = .error interruption) :
      Course service sink client login (.error interruption) ⟨[.initiated, .failed], [], []⟩
  | firstUnmet {parameters : Parameters} {interruption : Interruption}
      (hOpening : openingParameters client service.clientId login = .ok parameters)
      (hAnswer : settle (service.initiate parameters).1 = .error interruption) :
      Course service sink client login (.error interruption)
        ⟨[.initiated, .failed], [.initiate parameters], []⟩
  | direct {parameters : Parameters} {reply : Reply} {respond : ChallengeAnswer → Answer}
      {outcome : Outcome SignInResult} {stage : Stage} {offered : List Tokens}
      (hOpened : Opened service client login parameters reply respond)
      (hNone : reply.hasChallenge = false)
      (hLanding : Landing sink login.username reply outcome stage offered) :
      Course service sink client login outcome
        ⟨[.initiated, stage], [.initiate parameters], offered⟩
  | unsupported {parameters : Parameters} {reply : Reply} {respond : ChallengeAnswer → Answer}
      (hOpened : Opened service client login parameters reply respond)
      (hChallenge : reply.hasChallenge = true)
      (hName : reply.challengeName ≠ some passwordVerifier) :
      Course service sink client login (.fail (.challengeNotSupported reply.challengeName))
        ⟨[.initiated, .failed], [.initiate parameters], []⟩
  | unread {parameters : Parameters} {reply : Reply} {respond : ChallengeAnswer → Answer}
      {interruption : Interruption}
      (hOpened : Opened service client login parameters reply respond)
      (hName : reply.challengeName = some passwordVerifier)
      (hRead : Challenge.ofReply reply = .error interruption) :
      Course service sink client login (.error interruption)
        ⟨[.initiated, .challengeReceived, .failed], [.initiate parameters], []⟩
  | unanswered {parameters : Parameters} {reply : Reply} {respond : ChallengeAnswer → Answer}
      {challenge : Challenge} {interruption : Interruption}
      (hOpened : Opened service client login parameters reply respond)
      (hName : reply.challengeName = some passwordVerifier)
      (hRead : Challenge.ofReply reply = .ok challenge)
      (hRespond : challenge.respond client service.clientId login = .error interruption) :
      Course service sink client login (.error interruption)
        ⟨[.initiated, .challengeReceived, .failed], [.initiate parameters], []⟩
  | secondUnmet {parameters : Parameters} {reply : Reply} {respond : ChallengeAnswer → Answer}
      {challenge : Challenge} {answer : ChallengeAnswer} {interruption : Interruption}
      (hOpened : Opened service client login parameters reply respond)
      (hAnswered : Answered service client login reply challenge answer)
      (hAnswer : settle (respond answer) = .error interruption) :
      Course service sink client login (.error interruption)
        ⟨[.initiated, .challengeReceived, .verified, .failed],
          [.initiate parameters, .respond answer], []⟩
  | challengedAgain {parameters : Parameters} {reply second : Reply}
      {respond : ChallengeAnswer → Answer} {challenge : Challenge} {answer : ChallengeAnswer}
      (hOpened : Opened service client login parameters reply respond)
      (hAnswered : Answered service client login reply challenge answer)
      (hSecond : respond answer = .ok second) (hTokens : second.tokens = none)
      (hName : second.challengeName.any (· ≠ "") = true) :
      Course service sink client login (.fail (.challengeNotSupported second.challengeName))
        ⟨[.initiated, .challengeReceived, .verified, .failed],
          [.initiate parameters, .respond answer], []⟩
  | concluded {parameters : Parameters} {reply second : Reply}
      {respond : ChallengeAnswer → Answer} {challenge : Challenge} {answer : ChallengeAnswer}
      {outcome : Outcome SignInResult} {stage : Stage} {offered : List Tokens}
      (hOpened : Opened service client login parameters reply respond)
      (hAnswered : Answered service client login reply challenge answer)
      (hSecond : respond answer = .ok second)
      (hFinal : second.tokens = none → second.challengeName.any (· ≠ "") = false)
      (hLanding : Landing sink challenge.username second outcome stage offered) :
      Course service sink client login outcome
        ⟨[.initiated, .challengeReceived, .verified, stage],
          [.initiate parameters, .respond answer], offered⟩

/-- Only a reply is settled as one. -/
theorem settle_eq_ok {answer : Answer} {reply : Reply} :
    settle answer = .ok reply ↔ answer = .ok reply := by
  unfold settle
  split <;> simp [Outcome.fail]

theorem Reply.hasChallenge_of_name {reply : Reply}
    (h : reply.challengeName = some passwordVerifier) : reply.hasChallenge = true := by
  rw [hasChallenge, h]
  rfl

theorem Reply.name_ne_of_hasChallenge {reply : Reply} (h : reply.hasChallenge = false) :
    reply.challengeName ≠ some passwordVerifier := by
  intro hName
  rw [hasChallenge_of_name hName] at h
  nomatch h

/-- The last part of an attempt whose challenge is answered. -/
theorem course_acceptTokens {service : Service} {sink : Sink} {client : Srp.Client} {login : Login}
    {parameters : Parameters} {reply second : Reply} {respond : ChallengeAnswer → Answer}
    {challenge : Challenge} {answer : ChallengeAnswer}
    (hOpened : Opened service client login parameters reply respond)
    (hAnswered : Answered service client login reply challenge answer)
    (hSecond : respond answer = .ok second) :
    let ending := acceptTokens sink challenge.username second
      ⟨[.initiated, .challengeReceived, .verified], [.initiate parameters, .respond answer], []⟩
    Course service sink client login ending.1 ending.2 := by
  obtain ⟨outcome, stage, offered, hConclude, hLanding⟩ := landing_conclude sink challenge.username
    second [.initiated, .challengeReceived, .verified] [.initiate parameters, .respond answer]
  dsimp only
  rw [acceptTokens]
  cases hTokens : second.tokens with
  | some tokens =>
      rw [hTokens] at hConclude
      dsimp only
      rw [hConclude]
      refine .concluded hOpened hAnswered hSecond ?_ hLanding
      intro hNone
      rw [hTokens] at hNone
      nomatch hNone
  | none =>
      cases hName : second.challengeName.filter (· ≠ "") with
      | some name =>
          obtain ⟨hSome, hFull⟩ := Option.filter_eq_some_iff.mp hName
          have hAny : second.challengeName.any (· ≠ "") = true := by
            rw [hSome]
            exact hFull
          have hCourse : Course service sink client login _ _ :=
            .challengedAgain hOpened hAnswered hSecond hTokens hAny
          rw [hSome] at hCourse
          exact hCourse
      | none =>
          have hAny : second.challengeName.any (· ≠ "") = false := by
            cases hSome : second.challengeName with
            | none => rfl
            | some name => simpa [hSome, Option.filter] using hName
          have hNone : ¬∃ tokens, second.Carries tokens := by
            rintro ⟨tokens, hCarries, -⟩
            rw [hTokens] at hCarries
            nomatch hCarries
          exact .concluded hOpened hAnswered hSecond (fun _ => hAny) (.lacking hNone)

/-- The middle part of an attempt that is challenged for the password. -/
theorem course_answerChallenge {service : Service} {sink : Sink} {client : Srp.Client}
    {login : Login} {parameters : Parameters} {reply : Reply} {respond : ChallengeAnswer → Answer}
    (hOpened : Opened service client login parameters reply respond)
    (hName : reply.challengeName = some passwordVerifier) :
    let ending := answerChallenge service sink client login respond reply
      ⟨[.initiated, .challengeReceived], [.initiate parameters], []⟩
    Course service sink client login ending.1 ending.2 := by
  dsimp only
  rw [answerChallenge]
  cases hRead : Challenge.ofReply reply with
  | error interruption => exact .unread hOpened hName hRead
  | ok challenge =>
      dsimp only
      cases hRespond : challenge.respond client service.clientId login with
      | error interruption => exact .unanswered hOpened hName hRead hRespond
      | ok responses =>
          have hAnswered : Answered service client login reply challenge
              ⟨passwordVerifier, responses, reply.session⟩ := ⟨hName, hRead, hRespond, rfl⟩
          dsimp only
          cases hSecond : settle (respond ⟨passwordVerifier, responses, reply.session⟩) with
          | error interruption => exact .secondUnmet hOpened hAnswered hSecond
          | ok second => exact course_acceptTokens hOpened hAnswered (settle_eq_ok.mp hSecond)

/-- Every attempt takes one of the ways. -/
theorem course_attempt (service : Service) (sink : Sink) (client : Srp.Client) (login : Login) :
    Course service sink client login (attempt service sink client login).1
      (attempt service sink client login).2 := by
  rw [attempt]
  cases hOpening : openingParameters client service.clientId login with
  | error interruption => exact .unopened hOpening
  | ok parameters =>
      dsimp only
      cases hFirst : settle (service.initiate parameters).1 with
      | error interruption => exact .firstUnmet hOpening hFirst
      | ok reply =>
          have hOpened : Opened service client login parameters reply
              (service.initiate parameters).2 :=
            ⟨hOpening, Prod.ext (settle_eq_ok.mp hFirst) rfl⟩
          dsimp only
          split
          next hNone =>
            have hNone : reply.hasChallenge = false := by
              simpa using hNone
            obtain ⟨outcome, stage, offered, hConclude, hLanding⟩ :=
              landing_conclude sink login.username reply [.initiated] [.initiate parameters]
            have hRecord : Record.start.call (.initiate parameters) =
              ⟨[.initiated], [.initiate parameters], []⟩ := rfl
            rw [hRecord, hConclude]
            exact .direct hOpened hNone hLanding
          next hChallenge =>
            have hChallenge : reply.hasChallenge = true := by
              simpa using hChallenge
            split
            next hName => exact .unsupported hOpened hChallenge hName
            next hName => exact course_answerChallenge hOpened (Decidable.not_not.mp hName)

section

variable {sink : Sink} {client : Srp.Client} {login : Login} {outcome : Outcome SignInResult}
  {record : Record}

/-- An attempt that has come to its last reply ends as it lands. -/
theorem Landing.conclude_eq {username : String} {reply : Reply} {stage : Stage}
    {offered : List Tokens} (h : Landing sink username reply outcome stage offered)
    (stages : List Stage) (calls : List Call) :
    conclude username (offerTokens sink reply.tokens ⟨stages, calls, []⟩) =
      (outcome, ⟨stages ++ [stage], calls, offered⟩) := by
  rcases offerTokens_cases sink reply ⟨stages, calls, []⟩ with
    ⟨tokens, hCarries, hOffer⟩ | ⟨hNone, hOffer⟩
  · rw [hOffer]
    cases h with
    | lacking hLacking => exact absurd ⟨tokens, hCarries⟩ hLacking
    | refused hOwn hSink =>
        obtain rfl := hCarries.unique hOwn
        rw [hSink]
        rfl
    | accepted hOwn hSink =>
        obtain rfl := hCarries.unique hOwn
        rw [hSink]
        rfl
  · rw [hOffer]
    cases h with
    | lacking hLacking => rfl
    | refused hOwn hSink => exact absurd ⟨_, hOwn⟩ hNone
    | accepted hOwn hSink => exact absurd ⟨_, hOwn⟩ hNone

/-- A last reply that names no further challenge is concluded. -/
theorem acceptTokens_of_final (sink : Sink) (username : String) {reply : Reply} {record : Record}
    (h : reply.tokens = none → reply.challengeName.any (· ≠ "") = false) :
    acceptTokens sink username reply record =
      conclude username (offerTokens sink reply.tokens record) := by
  rw [acceptTokens]
  cases hTokens : reply.tokens with
  | some tokens => rfl
  | none =>
      have hNone : reply.challengeName.filter (· ≠ "") = none := by
        cases hName : reply.challengeName with
        | none => rfl
        | some name => simpa [hName, Option.filter] using h hTokens
      dsimp only
      rw [hNone]
      rfl

/-- An attempt whose first call is met goes on with the reply. -/
theorem Opened.attempt_eq {service : Service} {parameters : Parameters} {reply : Reply}
    {respond : ChallengeAnswer → Answer}
    (h : Opened service client login parameters reply respond) :
    attempt service sink client login =
      if !reply.hasChallenge then
        conclude login.username
          (offerTokens sink reply.tokens ⟨[.initiated], [.initiate parameters], []⟩)
      else if reply.challengeName ≠ some passwordVerifier then
        abandon (.failure (.challengeNotSupported reply.challengeName))
          ⟨[.initiated], [.initiate parameters], []⟩
      else
        answerChallenge service sink client login respond reply
          ⟨[.initiated, .challengeReceived], [.initiate parameters], []⟩ := by
  rw [attempt, h.opening]
  simp only [h.met, settle]
  rfl

/-- An attempt that is challenged for the password goes on with the challenge. -/
theorem Opened.attempt_of_name {service : Service} {parameters : Parameters} {reply : Reply}
    {respond : ChallengeAnswer → Answer}
    (h : Opened service client login parameters reply respond)
    (hName : reply.challengeName = some passwordVerifier) :
    attempt service sink client login =
      answerChallenge service sink client login respond reply
        ⟨[.initiated, .challengeReceived], [.initiate parameters], []⟩ := by
  rw [h.attempt_eq, Reply.hasChallenge_of_name hName, if_neg (by decide),
    if_neg (not_not_intro hName)]

/-- An attempt whose challenge is answered goes on with what the answer is met with. -/
theorem Opened.attempt_of_answered {service : Service} {parameters : Parameters} {reply : Reply}
    {respond : ChallengeAnswer → Answer} {challenge : Challenge} {answer : ChallengeAnswer}
    (h : Opened service client login parameters reply respond)
    (hAnswered : Answered service client login reply challenge answer) :
    let record : Record :=
      ⟨[.initiated, .challengeReceived, .verified], [.initiate parameters, .respond answer], []⟩
    attempt service sink client login =
      match settle (respond answer) with
      | .error interruption => abandon interruption record
      | .ok second => acceptTokens sink challenge.username second record := by
  intro record
  rw [h.attempt_of_name hAnswered.name, answerChallenge, hAnswered.read]
  dsimp only
  rw [hAnswered.claim]
  dsimp only
  rw [← hAnswered.sent]
  rfl

/-- Of the ways through an attempt only one is open: the attempt takes it. -/
theorem Course.attempt_eq {service : Service}
    (h : Course service sink client login outcome record) :
    attempt service sink client login = (outcome, record) := by
  cases h with
  | unopened hOpening =>
      rw [attempt, hOpening]
      rfl
  | firstUnmet hOpening hAnswer =>
      rw [attempt, hOpening]
      dsimp only
      rw [hAnswer]
      rfl
  | direct hOpened hNone hLanding =>
      rw [hOpened.attempt_eq, hNone]
      exact hLanding.conclude_eq [.initiated] _
  | unsupported hOpened hChallenge hName =>
      rw [hOpened.attempt_eq, hChallenge, if_neg (by decide), if_pos hName]
      rfl
  | unread hOpened hName hRead =>
      rw [hOpened.attempt_of_name hName, answerChallenge, hRead]
      rfl
  | unanswered hOpened hName hRead hRespond =>
      rw [hOpened.attempt_of_name hName, answerChallenge, hRead]
      dsimp only
      rw [hRespond]
      rfl
  | secondUnmet hOpened hAnswered hAnswer =>
      rw [hOpened.attempt_of_answered hAnswered, hAnswer]
      rfl
  | @challengedAgain parameters reply second respond challenge answer hOpened hAnswered hSecond
      hTokens hName =>
      rw [hOpened.attempt_of_answered hAnswered, hSecond, settle]
      dsimp only
      rw [acceptTokens, hTokens]
      dsimp only
      cases hSome : second.challengeName with
      | none =>
          rw [hSome] at hName
          cases hName
      | some name =>
          have hKept : (some name).filter (· ≠ "") = some name := by
            simpa [hSome, Option.filter] using hName
          rw [hKept]
          rfl
  | @concluded parameters reply second respond challenge answer outcome stage offered hOpened
      hAnswered hSecond hFinal hLanding =>
      rw [hOpened.attempt_of_answered hAnswered, hSecond, settle]
      dsimp only
      rw [acceptTokens_of_final sink challenge.username hFinal]
      exact hLanding.conclude_eq _ _

end

/-- What the service gives to the calls of an attempt. -/
def Service.answers (service : Service) : List Call → List Answer
  | [.initiate parameters] => [(service.initiate parameters).1]
  | [.initiate parameters, .respond answer] =>
      [(service.initiate parameters).1, (service.initiate parameters).2 answer]
  | _ => []

/-- A service that meets the first call and the answer to its challenge with replies. -/
def Service.replying (clientId : String) (first second : Reply) : Service :=
  ⟨clientId, fun _ => (.ok first, fun _ => .ok second)⟩

theorem Service.answers_replying (clientId : String) (first second : Reply) (calls : List Call) :
    (replying clientId first second).answers calls <+: [.ok first, .ok second] := by
  unfold answers
  split <;> simp [replying]

namespace Handshake

/-- A fresh handshake whose client can be made makes one attempt, and forgets the key
pair. -/
theorem run_of_create {handshake : Handshake} {client : Srp.Client} {entropy rest : List Bytes}
    (hFresh : handshake.history = [])
    (hCreate : Srp.Client.create handshake.poolId entropy = (.ok client, rest))
    (service : Service) (sink : Sink) (now : Outcome Moment) (username password : String) :
    handshake.run service sink now entropy username password =
      let ending := attempt service sink client ⟨username, password, handshake.clientSecret, now⟩
      ⟨ending.1, ending.2, rest, { handshake with history := ending.2.stages },
        some client.clear⟩ := by
  rw [run, hFresh, hCreate]
  rfl

/-- The way that the run of a fresh handshake takes, once a private value is drawn for a
pool with a name. -/
theorem course_run {poolId pool : String} {clientSecret : Option String}
    {entropy rest : List Bytes} {secret : Nat} (hPool : Srp.poolName poolId = .ok pool)
    (hDraw : Srp.drawPrivate entropy = (.ok secret, rest)) (service : Service) (sink : Sink)
    (now : Outcome Moment) (username password : String) :
    let run := (fresh poolId clientSecret).run service sink now entropy username password
    Course service sink ⟨pool, some ⟨secret, Srp.publicValue secret⟩⟩
      ⟨username, password, clientSecret, now⟩ run.outcome run.record := by
  have hCreate : Srp.Client.create (fresh poolId clientSecret).poolId entropy = _ :=
    Srp.Client.create_of_draw hPool hDraw
  dsimp only
  rw [run_of_create rfl hCreate]
  exact course_attempt service sink _ _

/-- The run takes the way that is open. -/
theorem run_of_course {poolId pool : String} {clientSecret : Option String}
    {entropy rest : List Bytes} {secret : Nat} {service : Service} {sink : Sink}
    {now : Outcome Moment} {username password : String} {outcome : Outcome SignInResult}
    {record : Record} (hPool : Srp.poolName poolId = .ok pool)
    (hDraw : Srp.drawPrivate entropy = (.ok secret, rest))
    (h : Course service sink ⟨pool, some ⟨secret, Srp.publicValue secret⟩⟩
      ⟨username, password, clientSecret, now⟩ outcome record) :
    let run := (fresh poolId clientSecret).run service sink now entropy username password
    run.outcome = outcome ∧ run.record = record ∧ run.handshake.history = record.stages := by
  have hCreate : Srp.Client.create (fresh poolId clientSecret).poolId entropy = _ :=
    Srp.Client.create_of_draw hPool hDraw
  have hAttempt : attempt service sink _
      ⟨username, password, (fresh poolId clientSecret).clientSecret, now⟩ = _ := h.attempt_eq
  dsimp only
  rw [run_of_create rfl hCreate, hAttempt]
  exact ⟨rfl, rfl, rfl⟩

/-- A handshake with a history refuses to run, and nothing happens. -/
theorem run_of_history {handshake : Handshake} (h : handshake.history ≠ []) (service : Service)
    (sink : Sink) (now : Outcome Moment) (entropy : List Bytes) (username password : String) :
    handshake.run service sink now entropy username password =
      handshake.notBegun (.failure .handshakeReused) entropy := by
  rw [run, if_pos (by simpa using h)]

end Handshake
end ClientAuth

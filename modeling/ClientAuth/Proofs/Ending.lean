import ClientAuth.Proofs.Course

/-! How attempts end, told by what the service answered. Main statement:
`Course.ending`, for every login and every service, a clock in range and a sink that
takes everything. Which tokens are handed over is not part of it. -/
namespace ClientAuth

/-- The first answer poses the password challenge. -/
structure Posed (answers : List Answer) (reply : Reply) : Prop where
  first : answers.head? = some (.ok reply)
  name : reply.challengeName = some passwordVerifier

/-- The first call cannot be made, or the challenge that it is met with breaks the
answer off. -/
def BreaksOff (shared : Nat) (pool clientId : String) (login : Login) (answers : List Answer) :
    Prop :=
  ¬ProvesSecret clientId login.clientSecret login.username ∨
    ∃ (reply : Reply) (challenge : Challenge), Posed answers reply ∧ challenge.In reply ∧
      challenge.Breaks shared pool clientId login

/-- The ends of an attempt by what the service answered: it breaks off, a call comes to
no reply, it is refused by the client, or it is completed. -/
inductive Ending (shared : Nat) (pool clientId : String) (login : Login) (answers : List Answer) :
    Outcome SignInResult → Prop
  | broken {fault : Fault} (hBreaks : BreaksOff shared pool clientId login answers)
      (hReplies : ∀ trouble, .error trouble ∉ answers) :
      Ending shared pool clientId login answers (.halt fault)
  | unmet {trouble : Trouble} {interruption : Interruption}
      (hBreaks : ¬BreaksOff shared pool clientId login answers)
      (hTrouble : ∀ other, .error other ∈ answers ↔ other = trouble)
      (hSettle : settle (.error trouble) = .error interruption)
      (hSound : ∀ reply, Posed answers reply → ∃ challenge : Challenge,
        challenge.In reply ∧ challenge.Sound shared) :
      Ending shared pool clientId login answers (.error interruption)
  | refused {failure : Failure} {kind : Kind}
      (hBreaks : ¬BreaksOff shared pool clientId login answers)
      (hReplies : ∀ trouble, .error trouble ∉ answers) (hKind : failure.Is kind)
      (hSound : ∀ reply, Posed answers reply → failure.Is .protocol ∨ ∃ challenge : Challenge,
        challenge.In reply ∧ challenge.Sound shared) :
      Ending shared pool clientId login answers (.fail failure)
  | completed {result : SignInResult} (hBreaks : ¬BreaksOff shared pool clientId login answers)
      (hReplies : ∀ trouble, .error trouble ∉ answers)
      (hSound : ∀ reply, Posed answers reply → ∃ challenge : Challenge,
        challenge.In reply ∧ challenge.Sound shared) :
      Ending shared pool clientId login answers (.ok result)

section

variable {shared : Nat} {pool clientId : String} {login : Login}

theorem not_breaksOff_of_not_posed {answers : List Answer}
    (hProves : ProvesSecret clientId login.clientSecret login.username)
    (hPosed : ∀ reply, ¬Posed answers reply) :
    ¬BreaksOff shared pool clientId login answers := by
  rintro (hUnproved | ⟨reply, challenge, hReply, -⟩)
  · exact hUnproved hProves
  · exact hPosed reply hReply

theorem Posed.reply_eq {reply other : Reply} {answers : List Answer}
    (h : Posed (.ok reply :: answers) other) : other = reply := by
  have hHead := h.first
  simp only [List.head?_cons, Option.some.injEq, Except.ok.injEq] at hHead
  exact hHead.symm

/-- Only the one challenge in the first reply decides. -/
theorem breaksOff_iff_of_in {reply : Reply} {challenge : Challenge} {answers : List Answer}
    (hProves : ProvesSecret clientId login.clientSecret login.username)
    (hName : reply.challengeName = some passwordVerifier) (hIn : challenge.In reply) :
    BreaksOff shared pool clientId login (.ok reply :: answers) ↔
      challenge.Breaks shared pool clientId login := by
  constructor
  · rintro (hUnproved | ⟨other, found, hPosed, hFound, hBreaks⟩)
    · exact absurd hProves hUnproved
    · obtain rfl := hPosed.reply_eq
      exact hIn.unique hFound ▸ hBreaks
  · intro hBreaks
    exact Or.inr ⟨reply, challenge, ⟨rfl, hName⟩, hIn, hBreaks⟩

end

/-- A landing in a sink that takes everything is a failure of its own or complete. -/
theorem Landing.cases {sink : Sink} {username : String} {reply : Reply}
    {outcome : Outcome SignInResult} {stage : Stage} {offered : List Tokens}
    (hSink : ∀ tokens, sink tokens = .ok ())
    (h : Landing sink username reply outcome stage offered) :
    outcome = .fail .noTokens ∨ outcome = .ok (.signedIn username) := by
  cases h with
  | lacking hNone => exact Or.inl rfl
  | refused hCarries hRefused =>
      rw [hSink] at hRefused
      nomatch hRefused
  | accepted hCarries hTaken => exact Or.inr rfl

theorem Failure.noTokens_is : Failure.noTokens.Is .protocol := ⟨rfl, rfl⟩

theorem Failure.challengeNotSupported_is (name : Option String) :
    (Failure.challengeNotSupported name).Is .unsupportedChallenge := ⟨rfl, rfl⟩

section

variable {service : Service} {pool : String} {pair : Srp.Ephemeral} {login : Login}
  {parameters : Parameters} {reply : Reply} {respond : ChallengeAnswer → Answer}

theorem Opened.answers_first {client : Srp.Client}
    (h : Opened service client login parameters reply respond) :
    service.answers [.initiate parameters] = [.ok reply] := by
  rw [Service.answers, h.met]

theorem Opened.answers_both {client : Srp.Client}
    (h : Opened service client login parameters reply respond) (answer : ChallengeAnswer) :
    service.answers [.initiate parameters, .respond answer] = [.ok reply, respond answer] := by
  rw [Service.answers, h.met]

/-- A challenge that is answered breaks nothing off. -/
theorem Answered.not_breaksOff {challenge : Challenge} {answer : ChallengeAnswer}
    {answers : List Answer}
    (hOpened : Opened service ⟨pool, some pair⟩ login parameters reply respond)
    (hAnswered : Answered service ⟨pool, some pair⟩ login reply challenge answer)
    (hClock : ShowsTime login.now) :
    ¬BreaksOff pair.shared pool service.clientId login (.ok reply :: answers) := by
  obtain ⟨hSound, hEncodable⟩ := Challenge.sound_of_respond hClock hAnswered.claim
  rw [breaksOff_iff_of_in (provesSecret_of_opening hOpened.opening) hAnswered.name
    (Challenge.in_of_ofReply hAnswered.read), hSound.breaks_iff]
  exact not_not_intro hEncodable

theorem Answered.sound {challenge : Challenge} {answer : ChallengeAnswer} {answers : List Answer}
    (hAnswered : Answered service ⟨pool, some pair⟩ login reply challenge answer)
    (hClock : ShowsTime login.now) {other : Reply} (hPosed : Posed (.ok reply :: answers) other) :
    ∃ challenge : Challenge, challenge.In other ∧ challenge.Sound pair.shared := by
  obtain rfl := hPosed.reply_eq
  exact ⟨challenge, Challenge.in_of_ofReply hAnswered.read,
    (Challenge.sound_of_respond hClock hAnswered.claim).1⟩

end

/-- The end of each way through an attempt. -/
theorem Course.ending {service : Service} {sink : Sink} {pool : String} {pair : Srp.Ephemeral}
    {login : Login} {outcome : Outcome SignInResult} {record : Record}
    (h : Course service sink ⟨pool, some pair⟩ login outcome record)
    (hClock : ShowsTime login.now) (hSink : ∀ tokens, sink tokens = .ok ()) :
    Ending pair.shared pool service.clientId login (service.answers record.calls) outcome := by
  cases h with
  | unopened hOpening =>
      obtain ⟨hProves, fault, -, rfl⟩ := not_provesSecret_of_opening hOpening
      exact .broken (.inl hProves) nofun
  | @firstUnmet parameters interruption hOpening hAnswer =>
      cases hFirst : (service.initiate parameters).1 with
      | ok reply =>
          rw [hFirst] at hAnswer
          nomatch hAnswer
      | error trouble =>
          have hAnswers : service.answers [.initiate parameters] = [.error trouble] := by
            rw [Service.answers, hFirst]
          have hPosed : ∀ reply, ¬Posed [.error trouble] reply :=
            fun reply hReply => nomatch hReply.first
          dsimp only
          rw [hAnswers]
          refine .unmet (not_breaksOff_of_not_posed (provesSecret_of_opening hOpening) hPosed)
            ?_ (hFirst ▸ hAnswer) fun reply hReply => absurd hReply (hPosed reply)
          intro other
          simp
  | @direct parameters reply respond outcome stage offered hOpened hNone hLanding =>
      have hPosed : ∀ other, ¬Posed [.ok reply] other :=
        fun other hOther => reply.name_ne_of_hasChallenge hNone (hOther.reply_eq ▸ hOther.name)
      have hBreaks : ¬BreaksOff pair.shared pool service.clientId login [.ok reply] :=
        not_breaksOff_of_not_posed (provesSecret_of_opening hOpened.opening) hPosed
      dsimp only
      rw [hOpened.answers_first]
      rcases hLanding.cases hSink with rfl | rfl
      · exact .refused hBreaks (by simp) Failure.noTokens_is
          fun other hOther => absurd hOther (hPosed other)
      · exact .completed hBreaks (by simp) fun other hOther => absurd hOther (hPosed other)
  | @unsupported parameters reply respond hOpened hChallenge hName =>
      have hPosed : ∀ other, ¬Posed [.ok reply] other :=
        fun other hOther => hName (hOther.reply_eq ▸ hOther.name)
      dsimp only
      rw [hOpened.answers_first]
      exact .refused
        (not_breaksOff_of_not_posed (provesSecret_of_opening hOpened.opening) hPosed) (by simp)
        (Failure.challengeNotSupported_is _) fun other hOther => absurd hOther (hPosed other)
  | @unread parameters reply respond interruption hOpened hName hRead =>
      obtain ⟨hNone, failure, rfl, hKind⟩ := Challenge.not_in_of_ofReply hRead
      dsimp only
      rw [hOpened.answers_first]
      refine .refused ?_ (by simp) hKind fun other hOther => Or.inl hKind
      rintro (hUnproved | ⟨other, challenge, hPosed, hIn, -⟩)
      · exact hUnproved (provesSecret_of_opening hOpened.opening)
      · exact hNone ⟨challenge, hPosed.reply_eq ▸ hIn⟩
  | @unanswered parameters reply respond challenge interruption hOpened hName hRead hRespond =>
      have hIff : BreaksOff pair.shared pool service.clientId login [.ok reply] ↔
          challenge.Breaks pair.shared pool service.clientId login :=
        breaksOff_iff_of_in (provesSecret_of_opening hOpened.opening) hName
          (Challenge.in_of_ofReply hRead)
      dsimp only
      rw [hOpened.answers_first]
      rcases Challenge.respond_error hClock hRespond with
        ⟨hBreaks, fault, -, rfl⟩ | ⟨-, hBreaks, failure, rfl, hKind⟩
      · exact .broken (hIff.mpr hBreaks) (by simp)
      · exact .refused (mt hIff.mp hBreaks) (by simp) hKind fun other hOther => Or.inl hKind
  | @secondUnmet parameters reply respond challenge answer interruption hOpened hAnswered hAnswer =>
      cases hSecond : respond answer with
      | ok second =>
          rw [hSecond] at hAnswer
          nomatch hAnswer
      | error trouble =>
          dsimp only
          rw [hOpened.answers_both, hSecond]
          refine .unmet (hAnswered.not_breaksOff hOpened hClock) ?_ (hSecond ▸ hAnswer)
            fun other hOther => hAnswered.sound hClock hOther
          intro other
          simp
  | challengedAgain hOpened hAnswered hSecond hTokens hName =>
      dsimp only
      rw [hOpened.answers_both, hSecond]
      exact .refused (hAnswered.not_breaksOff hOpened hClock) (by simp)
        (Failure.challengeNotSupported_is _) fun other hOther =>
          Or.inr (hAnswered.sound hClock hOther)
  | concluded hOpened hAnswered hSecond hFinal hLanding =>
      dsimp only
      rw [hOpened.answers_both, hSecond]
      rcases hLanding.cases hSink with rfl | rfl
      · exact .refused (hAnswered.not_breaksOff hOpened hClock) (by simp) Failure.noTokens_is
          fun other hOther => Or.inr (hAnswered.sound hClock hOther)
      · exact .completed (hAnswered.not_breaksOff hOpened hClock) (by simp)
          fun other hOther => hAnswered.sound hClock hOther

namespace Ending

variable {shared : Nat} {pool clientId : String} {login : Login} {answers : List Answer}
  {outcome : Outcome SignInResult}

theorem fault_iff (h : Ending shared pool clientId login answers outcome) :
    (∃ fault, outcome = .halt fault) ↔ BreaksOff shared pool clientId login answers := by
  cases h with
  | @broken fault hBreaks hReplies => exact iff_of_true ⟨fault, rfl⟩ hBreaks
  | @unmet trouble interruption hBreaks hTrouble hSettle hSound =>
      refine iff_of_false ?_ hBreaks
      rintro ⟨fault, hFault⟩
      cases hFault
      rcases trouble with failure | _ | cause <;> nomatch hSettle
  | refused hBreaks hReplies hKind hSound => exact iff_of_false (by simp) hBreaks
  | completed hBreaks hReplies hSound => exact iff_of_false nofun hBreaks

theorem cancelled_iff (h : Ending shared pool clientId login answers outcome) :
    outcome = .error .cancelled ↔ .error .cancelled ∈ answers := by
  cases h with
  | broken hBreaks hReplies => exact iff_of_false nofun (hReplies _)
  | @unmet trouble interruption hBreaks hTrouble hSettle hSound =>
      rw [hTrouble]
      rcases trouble with failure | _ | cause <;> cases hSettle <;> simp
  | refused hBreaks hReplies hKind hSound => exact iff_of_false nofun (hReplies _)
  | completed hBreaks hReplies hSound => exact iff_of_false nofun (hReplies _)

/-- A failure of the service is passed on as it is. -/
theorem eq_fail_of_failure (h : Ending shared pool clientId login answers outcome)
    {cause : Failure} (hMem : .error (.failure cause) ∈ answers) : outcome = .fail cause := by
  cases h with
  | broken hBreaks hReplies => exact absurd hMem (hReplies _)
  | unmet hBreaks hTrouble hSettle hSound =>
      obtain rfl := (hTrouble _).mp hMem
      cases hSettle
      rfl
  | refused hBreaks hReplies hKind hSound => exact absurd hMem (hReplies _)
  | completed hBreaks hReplies hSound => exact absurd hMem (hReplies _)

theorem transport_of_fault (h : Ending shared pool clientId login answers outcome)
    {cause : Fault} (hMem : .error (.fault cause) ∈ answers) :
    ∃ failure : Failure, outcome = .fail failure ∧ failure.Is .transport := by
  cases h with
  | broken hBreaks hReplies => exact absurd hMem (hReplies _)
  | unmet hBreaks hTrouble hSettle hSound =>
      obtain rfl := (hTrouble _).mp hMem
      cases hSettle
      exact ⟨_, rfl, rfl, rfl⟩
  | refused hBreaks hReplies hKind hSound => exact absurd hMem (hReplies _)
  | completed hBreaks hReplies hSound => exact absurd hMem (hReplies _)

/-- A challenge that cannot be used is refused with a report, unless it breaks the
answer off. -/
theorem protocol_of_unsound (h : Ending shared pool clientId login answers outcome)
    {reply : Reply} (hPosed : Posed answers reply)
    (hUnsound : ¬∃ challenge : Challenge, challenge.In reply ∧ challenge.Sound shared)
    (hWhole : ¬BreaksOff shared pool clientId login answers) :
    ∃ failure : Failure, outcome = .fail failure ∧ failure.Is .protocol := by
  cases h with
  | broken hBreaks hReplies => exact absurd hBreaks hWhole
  | unmet hBreaks hTrouble hSettle hSound => exact absurd (hSound reply hPosed) hUnsound
  | @refused failure kind hBreaks hReplies hKind hSound =>
      exact ⟨failure, rfl, (hSound reply hPosed).resolve_right hUnsound⟩
  | completed hBreaks hReplies hSound => exact absurd (hSound reply hPosed) hUnsound

/-- A failure is one of the service or carries the code of its family. -/
theorem failure_cases (h : Ending shared pool clientId login answers outcome)
    {failure : Failure} (hFail : outcome = .fail failure) :
    .error (.failure failure) ∈ answers ∨ ∃ kind, failure.Is kind := by
  cases h with
  | broken hBreaks hReplies => nomatch hFail
  | @unmet trouble interruption hBreaks hTrouble hSettle hSound =>
      cases hFail
      rcases trouble with cause | _ | cause
      · cases hSettle
        exact Or.inl ((hTrouble _).mpr rfl)
      · nomatch hSettle
      · cases hSettle
        exact Or.inr ⟨.transport, rfl, rfl⟩
  | @refused other kind hBreaks hReplies hKind hSound =>
      cases hFail
      exact Or.inr ⟨kind, hKind⟩
  | completed hBreaks hReplies hSound => nomatch hFail

end Ending
end ClientAuth

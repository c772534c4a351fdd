import ClientAuth.Proofs.Ending

/-! Which pairs of replies sign a user in. Main statement: `Handshake.run_accepts`,
exact in both directions for every two replies of the service, a clock in range and a
sink that takes everything. -/
namespace ClientAuth

section

variable (shared : Nat) (pool clientId : String) (login : Login)

/-- The first reply poses a password challenge that is sound, and all that enters the
answer has a UTF-8 form. -/
structure Answerable (first : Reply) (challenge : Challenge) : Prop where
  name : first.challengeName = some passwordVerifier
  parameters : challenge.In first
  sound : challenge.Sound shared
  encodable : challenge.Encodable pool clientId login

/-- The replies that sign a user in, with the name and the tokens that come of them. -/
inductive Accepted (first second : Reply) : String → Tokens → Prop
  | direct {tokens : Tokens} (hNone : first.hasChallenge = false)
      (hCarries : first.Carries tokens) : Accepted first second login.username tokens
  | answered {challenge : Challenge} {tokens : Tokens}
      (hAnswerable : Answerable shared pool clientId login first challenge)
      (hCarries : second.Carries tokens) : Accepted first second challenge.username tokens

/-- The replies that pose a challenge which this client does not answer. -/
def Unsupported (first second : Reply) : Prop :=
  (first.hasChallenge = true ∧ first.challengeName ≠ some passwordVerifier) ∨
    (∃ challenge, Answerable shared pool clientId login first challenge) ∧
      second.tokens = none ∧ second.challengeName.any (· ≠ "") = true

/-- A text without a UTF-8 form stands where its bytes are needed: in the proof of the secret that
the first call carries, or in the answer to a sound password challenge. -/
def Unwritable (first : Reply) : Prop :=
  ¬ProvesSecret clientId login.clientSecret login.username ∨
    ∃ challenge : Challenge, first.challengeName = some passwordVerifier ∧ challenge.In first ∧
      challenge.Sound shared ∧ ¬challenge.Encodable pool clientId login

/-- What comes of two replies, together with the tokens that are offered. -/
inductive Verdict (first second : Reply) : Outcome SignInResult → List Tokens → Prop
  | unproved {fault : Fault}
      (hUnproved : ¬ProvesSecret clientId login.clientSecret login.username)
      (hLacks : fault.LacksForm) : Verdict first second (.halt fault) []
  | accepted {name : String} {tokens : Tokens}
      (hProves : ProvesSecret clientId login.clientSecret login.username)
      (hAccepted : Accepted shared pool clientId login first second name tokens) :
      Verdict first second (.ok (.signedIn name)) [tokens]
  | unsupported {failure : Failure}
      (hProves : ProvesSecret clientId login.clientSecret login.username)
      (hUnsupported : Unsupported shared pool clientId login first second)
      (hKind : failure.Is .unsupportedChallenge) : Verdict first second (.fail failure) []
  | refused {failure : Failure} (hKind : failure.Is .protocol)
      (hAccepted : ∀ name tokens, ¬Accepted shared pool clientId login first second name tokens)
      (hUnsupported : ¬Unsupported shared pool clientId login first second)
      (hWritable : ¬Unwritable shared pool clientId login first) :
      Verdict first second (.fail failure) []
  | broken {fault : Fault}
      (hAccepted : ∀ name tokens, ¬Accepted shared pool clientId login first second name tokens)
      (hUnsupported : ¬Unsupported shared pool clientId login first second)
      (hLacks : Unwritable shared pool clientId login first → fault.LacksForm) :
      Verdict first second (.halt fault) []

end

variable {shared : Nat} {pool clientId : String} {login : Login} {first second : Reply}

/-- Two replies sign at most one user in, with one set of tokens. -/
theorem Accepted.unique {name other : String} {tokens others : Tokens}
    (h : Accepted shared pool clientId login first second name tokens)
    (hOther : Accepted shared pool clientId login first second other others) :
    name = other ∧ tokens = others := by
  cases h with
  | direct hNone hCarries =>
      cases hOther with
      | direct hSame hOthers => exact ⟨rfl, hCarries.unique hOthers⟩
      | answered hAnswerable hOthers =>
          exact absurd hAnswerable.name (first.name_ne_of_hasChallenge hNone)
  | answered hAnswerable hCarries =>
      cases hOther with
      | direct hNone hOthers =>
          exact absurd hAnswerable.name (first.name_ne_of_hasChallenge hNone)
      | answered hSame hOthers =>
          rw [hAnswerable.parameters.unique hSame.parameters]
          exact ⟨rfl, hCarries.unique hOthers⟩

theorem not_accepted_of_unsupported (h : Unsupported shared pool clientId login first second)
    (name : String) (tokens : Tokens) :
    ¬Accepted shared pool clientId login first second name tokens := by
  intro hAccepted
  cases hAccepted with
  | direct hNone hCarries =>
      rcases h with ⟨hChallenge, -⟩ | ⟨⟨challenge, hAnswerable⟩, -⟩
      · rw [hNone] at hChallenge
        nomatch hChallenge
      · exact absurd hAnswerable.name (first.name_ne_of_hasChallenge hNone)
  | answered hAnswerable hCarries =>
      rcases h with ⟨-, hName⟩ | ⟨-, hTokens, -⟩
      · exact hName hAnswerable.name
      · rw [hCarries.1] at hTokens
        nomatch hTokens

/-- A reply without a challenge and without tokens comes to nothing. -/
theorem unaccepted_of_direct (hNone : first.hasChallenge = false)
    (hLacking : ¬∃ tokens, first.Carries tokens) :
    (∀ name tokens, ¬Accepted shared pool clientId login first second name tokens) ∧
      ¬Unsupported shared pool clientId login first second := by
  have hUnanswerable : ∀ challenge,
      ¬Answerable shared pool clientId login first challenge := by
    intro challenge hAnswerable
    exact absurd hAnswerable.name (first.name_ne_of_hasChallenge hNone)
  refine ⟨fun name tokens hAccepted => ?_, ?_⟩
  · cases hAccepted with
    | direct hSame hCarries => exact hLacking ⟨tokens, hCarries⟩
    | answered hAnswerable hCarries => exact hUnanswerable _ hAnswerable
  · rintro (⟨hChallenge, -⟩ | ⟨⟨challenge, hAnswerable⟩, -⟩)
    · rw [hNone] at hChallenge
      nomatch hChallenge
    · exact hUnanswerable challenge hAnswerable

/-- An answered challenge comes to nothing without tokens and without another one. -/
theorem unaccepted_of_lacking {challenge : Challenge}
    (hAnswerable : Answerable shared pool clientId login first challenge)
    (hFinal : second.tokens = none → second.challengeName.any (· ≠ "") = false)
    (hLacking : ¬∃ tokens, second.Carries tokens) :
    (∀ name tokens, ¬Accepted shared pool clientId login first second name tokens) ∧
      ¬Unsupported shared pool clientId login first second := by
  refine ⟨fun name tokens hAccepted => ?_, ?_⟩
  · cases hAccepted with
    | direct hNone hCarries =>
        exact absurd hAnswerable.name (first.name_ne_of_hasChallenge hNone)
    | answered hSame hCarries => exact hLacking ⟨tokens, hCarries⟩
  · rintro (⟨-, hName⟩ | ⟨-, hTokens, hName⟩)
    · exact hName hAnswerable.name
    · rw [hFinal hTokens] at hName
      nomatch hName

/-- A password challenge that cannot be answered comes to nothing. -/
theorem unaccepted_of_not_answerable (hName : first.challengeName = some passwordVerifier)
    (hNone : ¬∃ challenge, Answerable shared pool clientId login first challenge) :
    (∀ name tokens, ¬Accepted shared pool clientId login first second name tokens) ∧
      ¬Unsupported shared pool clientId login first second := by
  refine ⟨fun name tokens hAccepted => ?_, ?_⟩
  · cases hAccepted with
    | direct hDirect hCarries =>
        exact absurd hName (first.name_ne_of_hasChallenge hDirect)
    | @answered challenge tokens hAnswerable hCarries => exact hNone ⟨challenge, hAnswerable⟩
  · rintro (⟨-, hOther⟩ | ⟨hAnswerable, -⟩)
    · exact hOther hName
    · exact hNone hAnswerable

theorem not_answerable_of_in {challenge : Challenge} (hIn : challenge.In first)
    (hNot : ¬(challenge.Sound shared ∧ challenge.Encodable pool clientId login)) :
    ¬∃ other, Answerable shared pool clientId login first other := by
  rintro ⟨other, hAnswerable⟩
  obtain rfl := hIn.unique hAnswerable.parameters
  exact hNot ⟨hAnswerable.sound, hAnswerable.encodable⟩

theorem Answered.answerable {service : Service} {pair : Srp.Ephemeral} {challenge : Challenge}
    {answer : ChallengeAnswer}
    (h : Answered service ⟨pool, some pair⟩ login first challenge answer)
    (hClock : ShowsTime login.now) :
    Answerable pair.shared pool service.clientId login first challenge := by
  obtain ⟨hSound, hEncodable⟩ := Challenge.sound_of_respond hClock h.claim
  exact ⟨h.name, Challenge.in_of_ofReply h.read, hSound, hEncodable⟩

/-- Where no password challenge is posed, only the first proof of the secret can be unwritable. -/
theorem not_unwritable_of_name (hProves : ProvesSecret clientId login.clientSecret login.username)
    (hName : first.challengeName ≠ some passwordVerifier) :
    ¬Unwritable shared pool clientId login first := by
  rintro (hUnproved | ⟨challenge, hSame, -⟩)
  · exact hUnproved hProves
  · exact hName hSame

/-- The one challenge of a reply decides whether something is unwritable. -/
theorem unwritable_iff_of_in {challenge : Challenge}
    (hProves : ProvesSecret clientId login.clientSecret login.username)
    (hName : first.challengeName = some passwordVerifier) (hIn : challenge.In first) :
    Unwritable shared pool clientId login first ↔
      challenge.Sound shared ∧ ¬challenge.Encodable pool clientId login := by
  constructor
  · rintro (hUnproved | ⟨other, -, hOther, hBoth⟩)
    · exact absurd hProves hUnproved
    · exact hIn.unique hOther ▸ hBoth
  · intro hBoth
    exact Or.inr ⟨challenge, hName, hIn, hBoth⟩

theorem Answerable.not_unwritable {challenge : Challenge}
    (h : Answerable shared pool clientId login first challenge)
    (hProves : ProvesSecret clientId login.clientSecret login.username) :
    ¬Unwritable shared pool clientId login first := by
  rw [unwritable_iff_of_in hProves h.name h.parameters]
  exact fun hBoth => hBoth.2 h.encodable

theorem Accepted.not_unwritable {name : String} {tokens : Tokens}
    (h : Accepted shared pool clientId login first second name tokens)
    (hProves : ProvesSecret clientId login.clientSecret login.username) :
    ¬Unwritable shared pool clientId login first := by
  cases h with
  | direct hNone hCarries =>
      exact not_unwritable_of_name hProves (first.name_ne_of_hasChallenge hNone)
  | answered hAnswerable hCarries => exact hAnswerable.not_unwritable hProves

theorem Unsupported.not_unwritable (h : Unsupported shared pool clientId login first second)
    (hProves : ProvesSecret clientId login.clientSecret login.username) :
    ¬Unwritable shared pool clientId login first := by
  rcases h with ⟨-, hName⟩ | ⟨⟨challenge, hAnswerable⟩, -⟩
  · exact not_unwritable_of_name hProves hName
  · exact hAnswerable.not_unwritable hProves

section Replies

variable {service : Service} {client : Srp.Client} {parameters : Parameters} {reply : Reply}
  {respond : ChallengeAnswer → Answer}

/-- The reply that the first call is met with is the first of the two. -/
theorem Opened.reply_eq_first (h : Opened service client login parameters reply respond)
    (hReplies : service.answers [.initiate parameters] <+: [.ok first, .ok second]) :
    reply = first := by
  simpa [h.answers_first] using hReplies

/-- The replies that both calls are met with are the two. -/
theorem Opened.replies_eq (h : Opened service client login parameters reply respond)
    {answer : ChallengeAnswer}
    (hReplies : service.answers [.initiate parameters, .respond answer] <+:
      [.ok first, .ok second]) :
    reply = first ∧ respond answer = .ok second := by
  simpa [h.answers_both] using hReplies

end Replies

/-- What comes of each way through an attempt whose calls are met with two replies. -/
theorem Course.verdict {service : Service} {sink : Sink} {pair : Srp.Ephemeral}
    {outcome : Outcome SignInResult} {record : Record}
    (h : Course service sink ⟨pool, some pair⟩ login outcome record)
    (hClock : ShowsTime login.now) (hSink : ∀ tokens, sink tokens = .ok ())
    (hReplies : service.answers record.calls <+: [.ok first, .ok second]) :
    Verdict pair.shared pool service.clientId login first second outcome record.offered := by
  cases h with
  | unopened hOpening =>
      obtain ⟨hProves, fault, hLacks, rfl⟩ := not_provesSecret_of_opening hOpening
      exact .unproved hProves hLacks
  | @firstUnmet parameters interruption hOpening hAnswer =>
      have hFirst : (service.initiate parameters).1 = .ok first := by
        simpa [Service.answers] using hReplies
      rw [hFirst] at hAnswer
      cases hAnswer
  | @direct parameters reply respond outcome stage offered hOpened hNone hLanding =>
      obtain rfl := hOpened.reply_eq_first hReplies
      have hProves := provesSecret_of_opening hOpened.opening
      cases hLanding with
      | lacking hLacking =>
          obtain ⟨hAccepted, hUnsupported⟩ := unaccepted_of_direct hNone hLacking
          exact .refused Failure.noTokens_is hAccepted hUnsupported
            (not_unwritable_of_name hProves (reply.name_ne_of_hasChallenge hNone))
      | refused hCarries hRefused =>
          rw [hSink] at hRefused
          cases hRefused
      | accepted hCarries hTaken => exact .accepted hProves (.direct hNone hCarries)
  | @unsupported parameters reply respond hOpened hChallenge hName =>
      obtain rfl := hOpened.reply_eq_first hReplies
      exact .unsupported (provesSecret_of_opening hOpened.opening) (.inl ⟨hChallenge, hName⟩)
        (Failure.challengeNotSupported_is _)
  | @unread parameters reply respond interruption hOpened hName hRead =>
      obtain rfl := hOpened.reply_eq_first hReplies
      obtain ⟨hNone, failure, rfl, hKind⟩ := Challenge.not_in_of_ofReply hRead
      have hUnanswerable : ¬∃ challenge,
          Answerable pair.shared pool service.clientId login reply challenge := by
        rintro ⟨challenge, hAnswerable⟩
        exact hNone ⟨challenge, hAnswerable.parameters⟩
      obtain ⟨hAccepted, hUnsupported⟩ := unaccepted_of_not_answerable hName hUnanswerable
      refine .refused hKind hAccepted hUnsupported ?_
      rintro (hUnproved | ⟨challenge, -, hIn, -⟩)
      · exact hUnproved (provesSecret_of_opening hOpened.opening)
      · exact hNone ⟨challenge, hIn⟩
  | @unanswered parameters reply respond challenge interruption hOpened hName hRead hRespond =>
      obtain rfl := hOpened.reply_eq_first hReplies
      have hIn := Challenge.in_of_ofReply hRead
      have hUnwritable : Unwritable pair.shared pool service.clientId login reply ↔ _ :=
        unwritable_iff_of_in (provesSecret_of_opening hOpened.opening) hName hIn
      rcases Challenge.respond_error hClock hRespond with
        ⟨hBreaks, fault, hLacks, rfl⟩ | ⟨hSound, -, failure, rfl, hKind⟩
      · obtain ⟨hAccepted, hUnsupported⟩ := unaccepted_of_not_answerable hName
          (not_answerable_of_in hIn fun hBoth => hBoth.1.breaks_iff.mp hBreaks hBoth.2)
        exact .broken hAccepted hUnsupported fun hHalf => hLacks (hUnwritable.mp hHalf).1
      · obtain ⟨hAccepted, hUnsupported⟩ := unaccepted_of_not_answerable hName
          (not_answerable_of_in hIn fun hBoth => hSound hBoth.1)
        exact .refused hKind hAccepted hUnsupported fun hHalf => hSound (hUnwritable.mp hHalf).1
  | @secondUnmet parameters reply respond challenge answer interruption hOpened hAnswered hAnswer =>
      obtain ⟨rfl, hSecond⟩ := hOpened.replies_eq hReplies
      rw [hSecond] at hAnswer
      cases hAnswer
  | @challengedAgain parameters reply last respond challenge answer hOpened hAnswered hSecond
      hTokens hName =>
      obtain ⟨rfl, hLast⟩ := hOpened.replies_eq hReplies
      obtain rfl := Except.ok.inj (hSecond.symm.trans hLast)
      have hAnswerable := hAnswered.answerable hClock
      exact .unsupported (provesSecret_of_opening hOpened.opening)
        (.inr ⟨⟨challenge, hAnswerable⟩, hTokens, hName⟩) (Failure.challengeNotSupported_is _)
  | @concluded parameters reply last respond challenge answer outcome stage offered hOpened
      hAnswered hSecond hFinal hLanding =>
      obtain ⟨rfl, hLast⟩ := hOpened.replies_eq hReplies
      obtain rfl := Except.ok.inj (hSecond.symm.trans hLast)
      have hAnswerable := hAnswered.answerable hClock
      cases hLanding with
      | lacking hLacking =>
          obtain ⟨hAccepted, hUnsupported⟩ := unaccepted_of_lacking hAnswerable hFinal hLacking
          exact .refused Failure.noTokens_is hAccepted hUnsupported
            (hAnswerable.not_unwritable (provesSecret_of_opening hOpened.opening))
      | refused hCarries hRefused =>
          rw [hSink] at hRefused
          cases hRefused
      | accepted hCarries hTaken =>
          exact .accepted (provesSecret_of_opening hOpened.opening) (.answered hAnswerable hCarries)

namespace Verdict

variable {outcome : Outcome SignInResult} {offered : List Tokens}

theorem completes_iff (h : Verdict shared pool clientId login first second outcome offered) :
    (∃ result, outcome = .ok result) ↔
      ProvesSecret clientId login.clientSecret login.username ∧
        ∃ name tokens, Accepted shared pool clientId login first second name tokens := by
  cases h with
  | unproved hUnproved hLacks => exact iff_of_false nofun fun hBoth => hUnproved hBoth.1
  | accepted hProves hAccepted => exact iff_of_true ⟨_, rfl⟩ ⟨hProves, _, _, hAccepted⟩
  | unsupported hProves hUnsupported hKind =>
      refine iff_of_false nofun ?_
      rintro ⟨-, name, tokens, hAccepted⟩
      exact not_accepted_of_unsupported hUnsupported name tokens hAccepted
  | refused hKind hAccepted hUnsupported hWritable =>
      exact iff_of_false nofun fun ⟨_, name, tokens, hSome⟩ => hAccepted name tokens hSome
  | broken hAccepted hUnsupported hLacks =>
      exact iff_of_false nofun fun ⟨_, name, tokens, hSome⟩ => hAccepted name tokens hSome

theorem eq_of_accepted (h : Verdict shared pool clientId login first second outcome offered)
    {name : String} {tokens : Tokens}
    (hProves : ProvesSecret clientId login.clientSecret login.username)
    (hSome : Accepted shared pool clientId login first second name tokens) :
    outcome = .ok (.signedIn name) ∧ offered = [tokens] := by
  cases h with
  | unproved hUnproved hLacks => exact absurd hProves hUnproved
  | accepted hSame hAccepted =>
      obtain ⟨rfl, rfl⟩ := hAccepted.unique hSome
      exact ⟨rfl, rfl⟩
  | unsupported hSame hUnsupported hKind =>
      exact absurd hSome (not_accepted_of_unsupported hUnsupported name tokens)
  | refused hKind hAccepted hUnsupported hWritable => exact absurd hSome (hAccepted name tokens)
  | broken hAccepted hUnsupported hLacks => exact absurd hSome (hAccepted name tokens)

theorem unsupported_iff (h : Verdict shared pool clientId login first second outcome offered) :
    (∃ failure : Failure, outcome = .fail failure ∧ failure.Is .unsupportedChallenge) ↔
      ProvesSecret clientId login.clientSecret login.username ∧
        Unsupported shared pool clientId login first second := by
  cases h with
  | unproved hUnproved hLacks => exact iff_of_false nofun fun hBoth => hUnproved hBoth.1
  | accepted hProves hAccepted =>
      exact iff_of_false nofun fun hBoth => not_accepted_of_unsupported hBoth.2 _ _ hAccepted
  | @unsupported failure hProves hUnsupported hKind =>
      exact iff_of_true ⟨failure, rfl, hKind⟩ ⟨hProves, hUnsupported⟩
  | @refused failure hKind hAccepted hUnsupported hWritable =>
      refine iff_of_false ?_ fun hBoth => hUnsupported hBoth.2
      rintro ⟨other, hOther, hSame⟩
      cases hOther
      exact absurd (hKind.family.symm.trans hSame.family) (by decide)
  | broken hAccepted hUnsupported hLacks =>
      exact iff_of_false nofun fun hBoth => hUnsupported hBoth.2

theorem failure_cases (h : Verdict shared pool clientId login first second outcome offered)
    {failure : Failure} (hFail : outcome = .fail failure) :
    failure.Is .protocol ∨ failure.Is .unsupportedChallenge := by
  cases h with
  | unproved hUnproved hLacks => nomatch hFail
  | accepted hProves hAccepted => nomatch hFail
  | unsupported hProves hUnsupported hKind =>
      cases hFail
      exact Or.inr hKind
  | refused hKind hAccepted hUnsupported hWritable =>
      cases hFail
      exact Or.inl hKind
  | broken hAccepted hUnsupported hLacks => nomatch hFail

theorem ne_cancelled (h : Verdict shared pool clientId login first second outcome offered) :
    outcome ≠ .error .cancelled := by
  cases h <;> nofun

theorem halt_of_unwritable (h : Verdict shared pool clientId login first second outcome offered)
    (hUnwritable : Unwritable shared pool clientId login first) :
    ∃ text, Text.isWhole text = false ∧ outcome = .halt (.notUnicode text) := by
  cases h with
  | unproved hUnproved hLacks =>
      obtain ⟨text, hHalf, rfl⟩ := hLacks
      exact ⟨text, hHalf, rfl⟩
  | accepted hProves hAccepted => exact absurd hUnwritable (hAccepted.not_unwritable hProves)
  | unsupported hProves hUnsupported hKind =>
      exact absurd hUnwritable (hUnsupported.not_unwritable hProves)
  | refused hKind hAccepted hUnsupported hWritable => exact absurd hUnwritable hWritable
  | broken hAccepted hUnsupported hLacks =>
      obtain ⟨text, hHalf, rfl⟩ := hLacks hUnwritable
      exact ⟨text, hHalf, rfl⟩

end Verdict

/-- A run that is met with two replies is completed exactly if they are accepted, for the
name and with the tokens that come of them. It fails with an unsupported challenge exactly
if they pose one, and all its other failures are failures of the protocol. All this needs
a secret that can be proved. A text without a UTF-8 form where its bytes are needed ends the
run by the fault that names it. -/
theorem Handshake.run_accepts {poolId pool : String} {clientSecret : Option String}
    {entropy rest : List Bytes} {secret : Nat} {now : Outcome Moment} {sink : Sink}
    (hPool : Srp.poolName poolId = .ok pool) (hDraw : Srp.drawPrivate entropy = (.ok secret, rest))
    (hClock : ShowsTime now) (hSink : ∀ tokens, sink tokens = .ok ()) (service : Service)
    (username password : String) (first second : Reply) :
    let run := (fresh poolId clientSecret).run service sink now entropy username password
    let shared := Srp.publicValue secret
    let login : Login := ⟨username, password, clientSecret, now⟩
    let answers := service.answers run.record.calls
    let proves := ProvesSecret service.clientId clientSecret username
    answers <+: [.ok first, .ok second] →
    ((∃ result, run.outcome = .ok result) ↔
        proves ∧ ∃ name tokens,
          Accepted shared pool service.clientId login first second name tokens) ∧
      (∀ name tokens, proves →
        Accepted shared pool service.clientId login first second name tokens →
        run.outcome = .ok (.signedIn name) ∧ run.record.offered = [tokens]) ∧
      ((∃ failure : Failure, run.outcome = .fail failure ∧ failure.Is .unsupportedChallenge) ↔
        proves ∧ Unsupported shared pool service.clientId login first second) ∧
      (∀ failure : Failure, run.outcome = .fail failure →
        failure.Is .protocol ∨ failure.Is .unsupportedChallenge) ∧
      run.outcome ≠ .error .cancelled ∧
      (¬BreaksOff shared pool service.clientId login answers →
        ∀ fault, run.outcome ≠ .halt fault) ∧
      (Unwritable shared pool service.clientId login first →
        ∃ text, Text.isWhole text = false ∧ run.outcome = .halt (.notUnicode text)) := by
  intro run shared login answers proves hReplies
  have hCourse : Course service sink _ login run.outcome run.record :=
    course_run hPool hDraw service sink now username password
  have hVerdict := hCourse.verdict hClock hSink hReplies
  refine ⟨hVerdict.completes_iff, fun name tokens => hVerdict.eq_of_accepted,
    hVerdict.unsupported_iff, fun failure => hVerdict.failure_cases, hVerdict.ne_cancelled, ?_,
    hVerdict.halt_of_unwritable⟩
  intro hWhole fault hFault
  exact hWhole ((hCourse.ending hClock hSink).fault_iff.mp ⟨fault, hFault⟩)

namespace Handshake

/-- A password challenge that is answered. -/
theorem run_accepts_answered :
    let moment : Moment := ⟨⟨⟨2026, 10, 4⟩, 7, 5, 9⟩, 0, 0⟩
    let tokens : Tokens := ⟨some "access", none, none, none, none⟩
    let first : Reply := ⟨some passwordVerifier, [("SALT", "0"), ("SRP_B", "1"),
      ("SECRET_BLOCK", "AAAA"), ("USER_ID_FOR_SRP", "id"), ("USERNAME", "name")], none, none⟩
    let second : Reply := ⟨none, [], none, some tokens⟩
    let run := (fresh "us-east-1_P" none).run (.replying "c" first second) .accepting (.ok moment)
      [[1]] "u" "p"
    Srp.poolName "us-east-1_P" = .ok "P" ∧ Srp.drawPrivate [[1]] = (.ok 1, []) ∧
      ShowsTime (.ok moment) ∧
      run.outcome = .ok (.signedIn "name") ∧ run.record.offered = [tokens] := by
  intro moment tokens first second
  have hPool : Srp.poolName "us-east-1_P" = .ok "P" := rfl
  have hDraw : Srp.drawPrivate [[1]] = (.ok 1, []) := rfl
  have hClock : ShowsTime (.ok moment) := ⟨moment, rfl, by decide +kernel⟩
  have hSecret : ∀ name, ProvesSecret "c" none name := nofun
  have hAnswerable : Answerable (Srp.publicValue 1) "P" "c" ⟨"u", "p", none, .ok moment⟩ first
      ⟨0, 1, "AAAA", "id", "name"⟩ := by
    have hIn : (⟨0, 1, "AAAA", "id", "name"⟩ : Challenge).In first :=
      ⟨by decide +kernel, by decide +kernel, by decide +kernel, by decide +kernel,
        by decide +kernel⟩
    have hSound : (⟨0, 1, "AAAA", "id", "name"⟩ : Challenge).Sound (Srp.publicValue 1) :=
      ⟨by decide, by decide, by decide +kernel, by decide +kernel, by decide +kernel⟩
    exact ⟨rfl, hIn, hSound, ⟨by decide, by decide, by decide, hSecret _⟩⟩
  have hAccepts := @run_accepts "us-east-1_P" "P" none [[1]] [] 1 (.ok moment) .accepting hPool
    hDraw hClock (fun _ => rfl) (.replying "c" first second) "u" "p" first second
    (Service.answers_replying _ _ _ _)
  have hCarries : second.Carries tokens := ⟨rfl, "access", rfl, by decide⟩
  exact ⟨hPool, hDraw, hClock,
    hAccepts.2.1 "name" tokens (hSecret _) (.answered hAnswerable hCarries)⟩

/-- A sound challenge and tokens do not sign in a user whose password has no UTF-8
form. -/
theorem half_password_unaccepted :
    let first : Reply := ⟨some passwordVerifier, [("SALT", "0"), ("SRP_B", "1"),
      ("SECRET_BLOCK", "AAAA"), ("USER_ID_FOR_SRP", "u"), ("USERNAME", "u")], none, none⟩
    let second : Reply := ⟨none, [], none, some ⟨some "access", none, none, none, none⟩⟩
    let challenge : Challenge := ⟨0, 1, "AAAA", "u", "u"⟩
    first.challengeName = some passwordVerifier ∧ challenge.In first ∧
      challenge.Sound (Srp.publicValue 1) ∧
      second.Carries ⟨some "access", none, none, none, none⟩ ∧
      ¬∃ result, ((fresh "us-east-1_P" none).run (.replying "c" first second) .accepting
        (.ok ⟨⟨⟨2026, 10, 4⟩, 7, 5, 9⟩, 0, 0⟩) [[1]] "u"
        (String.ofList (Text.ofCodes [0xD800]))).outcome = .ok result := by
  intro first second challenge
  have hIn : challenge.In first :=
    ⟨by decide +kernel, by decide +kernel, by decide +kernel, by decide +kernel,
      by decide +kernel⟩
  have hSound : challenge.Sound (Srp.publicValue 1) :=
    ⟨by decide, by decide, by decide +kernel, by decide +kernel, by decide +kernel⟩
  have hFault : ((fresh "us-east-1_P" none).run (.replying "c" first second) .accepting
      (.ok ⟨⟨⟨2026, 10, 4⟩, 7, 5, 9⟩, 0, 0⟩) [[1]] "u"
      (String.ofList (Text.ofCodes [0xD800]))).outcome.isOk = false := by
    decide +kernel
  refine ⟨rfl, hIn, hSound, ⟨rfl, "access", rfl, by decide⟩, ?_⟩
  rintro ⟨result, hResult⟩
  rw [hResult] at hFault
  nomatch hFault

end Handshake
end ClientAuth

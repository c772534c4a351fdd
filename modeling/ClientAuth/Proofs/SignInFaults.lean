import ClientAuth.Handshake.SignIn
import ClientAuth.Proofs.Ending

/-! Which sign ins end without a report. Main statement: `SignIn.signIn_faults`. What
breaks an attempt off is told by the texts alone: a negative number in a challenge
does, and so does a text without a UTF-8 form where its bytes are needed. The account
breaks off besides at a service's failure with a code that cannot be counted. -/
namespace ClientAuth

/-- The code of a failure can be counted. -/
def Failure.Countable (failure : Failure) : Prop := ∃ label, Label.ofCode failure.code = .ok label

theorem Label.ofCode_cases (code : Json) :
    (∃ label, ofCode code = .ok label) ∨ ofCode code = .halt .notCountable := by
  rw [ofCode]
  split
  · exact Or.inl ⟨none, rfl⟩
  · split
    next label hLabel => exact Or.inl ⟨some label, rfl⟩
    next hNone => exact Or.inr rfl

/-- The codes of the families can be counted. -/
theorem Failure.Is.countable {failure : Failure} {kind : Kind} (h : failure.Is kind) :
    failure.Countable := by
  rw [Failure.Countable, h.named]
  cases kind <;> exact ⟨_, rfl⟩

namespace SignIn

/-- The account of a sign in changes its outcome only where a code cannot be counted. -/
theorem account_cases (outcome : Outcome SignInResult) (duration : Binary64)
    (metrics : Collector) :
    ((∀ failure : Failure, outcome = .fail failure → failure.Countable) ∧
        (account outcome duration metrics).1 = outcome) ∨
      (∃ failure : Failure, outcome = .fail failure ∧ ¬failure.Countable ∧
        (account outcome duration metrics).1 = .halt .notCountable) := by
  rcases outcome with (failure | fault | _) | result
  · rcases Label.ofCode_cases failure.code with ⟨label, hLabel⟩ | hNone
    · refine Or.inl ⟨?_, by rw [account, hLabel]; rfl⟩
      intro other hOther
      cases hOther
      exact ⟨label, hLabel⟩
    · refine Or.inr ⟨failure, rfl, ?_, by rw [account, hNone]; rfl⟩
      rintro ⟨label, hLabel⟩
      rw [hNone] at hLabel
      nomatch hLabel
  · exact Or.inl ⟨nofun, rfl⟩
  · exact Or.inl ⟨nofun, rfl⟩
  · exact Or.inl ⟨nofun, rfl⟩

theorem isCounted_eq_false {outcome : Outcome SignInResult} :
    isCounted outcome = false ↔ ∃ fault, outcome = .halt fault := by
  rcases outcome with (failure | fault | _) | result
  · exact iff_of_false nofun nofun
  · exact iff_of_true rfl ⟨fault, rfl⟩
  · exact iff_of_false nofun nofun
  · exact iff_of_false nofun nofun

/-- A sign in ends as its account does, counted or not. -/
theorem signIn_outcome (settings : Settings) (service : Service) (sink : Sink)
    (now : Outcome Moment) (username password : String) (state : SignInState) :
    ∃ duration, (signIn settings service sink now username password state).1.outcome =
      (account ((Handshake.fresh settings.poolId settings.clientSecret).run service sink now
        state.entropy username password).outcome duration state.metrics).1 := by
  rw [signIn]
  dsimp only
  split
  next hCounted => exact ⟨_, rfl⟩
  next hFault =>
    obtain ⟨fault, hOutcome⟩ := isCounted_eq_false.mp (Bool.eq_false_iff.mpr hFault)
    refine ⟨Binary64.zero false, ?_⟩
    dsimp only
    rw [hOutcome]
    rfl

/-- A run of a handshake ends in a fault exactly if it breaks off, and a sign in also
if the service fails with a code that cannot be counted. Otherwise it ends in a result,
in a failure that is reported, or as a cancelled call did; a challenge that cannot be
used is a failure of the protocol, and a broken call is one of the transport. -/
theorem signIn_faults {settings : Settings} {pool : String} {secret : Nat} {rest : List Bytes}
    {now : Outcome Moment} {sink : Sink} {state : SignInState}
    (hPool : Srp.poolName settings.poolId = .ok pool)
    (hDraw : Srp.drawPrivate state.entropy = (.ok secret, rest))
    (hClock : ShowsTime now) (hSink : ∀ tokens, sink tokens = .ok ()) (service : Service)
    (username password : String) :
    let run := (Handshake.fresh settings.poolId settings.clientSecret).run service sink now
      state.entropy username password
    let answers := service.answers run.record.calls
    let breaks := BreaksOff (Srp.publicValue secret) pool service.clientId
      ⟨username, password, settings.clientSecret, now⟩ answers
    let ended := (signIn settings service sink now username password state).1.outcome
    ((∃ fault, run.outcome = .halt fault) ↔ breaks) ∧
      (run.outcome = .error .cancelled ↔ .error .cancelled ∈ answers) ∧
      (∀ reply, Posed answers reply →
        (¬∃ challenge : Challenge, challenge.In reply ∧
          challenge.Sound (Srp.publicValue secret)) →
        ¬breaks → ∃ failure : Failure, run.outcome = .fail failure ∧ failure.Is .protocol) ∧
      (∀ cause, .error (.failure cause) ∈ answers → run.outcome = .fail cause) ∧
      (∀ cause, .error (.fault cause) ∈ answers →
        ∃ failure : Failure, run.outcome = .fail failure ∧ failure.Is .transport) ∧
      ((∃ fault, ended = .halt fault) ↔
        breaks ∨ ∃ cause : Failure, .error (.failure cause) ∈ answers ∧ ¬cause.Countable) ∧
      ((∀ fault, ended ≠ .halt fault) → ended = run.outcome) := by
  intro run answers breaks ended
  have hEnding : Ending _ _ _ _ answers run.outcome :=
    (Handshake.course_run hPool hDraw service sink now username password).ending hClock hSink
  obtain ⟨duration, hEnded⟩ := signIn_outcome settings service sink now username password state
  change ended = _ at hEnded
  refine ⟨hEnding.fault_iff, hEnding.cancelled_iff,
    fun reply hPosed => hEnding.protocol_of_unsound hPosed,
    fun cause => hEnding.eq_fail_of_failure, fun cause => hEnding.transport_of_fault, ?_⟩
  rcases account_cases run.outcome duration state.metrics with
    ⟨hCountable, hSame⟩ | ⟨failure, hFailure, hUncountable, hHalt⟩
  · rw [hEnded, hSame]
    refine ⟨?_, fun _ => rfl⟩
    rw [hEnding.fault_iff]
    refine ⟨Or.inl, ?_⟩
    rintro (hBreaks | ⟨cause, hMem, hUncountable⟩)
    · exact hBreaks
    · exact absurd (hCountable cause (hEnding.eq_fail_of_failure hMem)) hUncountable
  · rw [hEnded, hHalt]
    refine ⟨iff_of_true ⟨_, rfl⟩ (Or.inr ⟨failure, ?_, hUncountable⟩), fun hNone => ?_⟩
    · rcases hEnding.failure_cases hFailure with hMem | ⟨kind, hKind⟩
      · exact hMem
      · exact absurd hKind.countable hUncountable
    · exact absurd rfl (hNone _)

/-- A run whose first call is cancelled ends as the call did. -/
theorem signIn_faults_cancelled :
    let moment : Moment := ⟨⟨⟨2026, 10, 4⟩, 7, 5, 9⟩, 0, 0⟩
    let service : Service := ⟨"c", fun _ => (.error .cancelled, fun _ => .error .cancelled)⟩
    Srp.poolName "us-east-1_P" = .ok "P" ∧ Srp.drawPrivate [[1]] = (.ok 1, []) ∧
      ShowsTime (.ok moment) ∧
      ((Handshake.fresh "us-east-1_P" none).run service .accepting (.ok moment) [[1]] "u"
        "p").outcome = .error .cancelled := by
  intro moment service
  have hPool : Srp.poolName "us-east-1_P" = .ok "P" := rfl
  have hDraw : Srp.drawPrivate [[1]] = (.ok 1, []) := rfl
  have hClock : ShowsTime (.ok moment) := ⟨moment, rfl, by decide +kernel⟩
  have hFaults := @signIn_faults
    ⟨"appauth", "INFO", "us-east-1", "us-east-1_P", "", none, "http", none,
      Settings.defaultTimeout, none, "API_KEY", "appsync", false⟩
    "P" 1 [] (.ok moment) .accepting ⟨[[1]], ⟨[]⟩, .start (.zero false)⟩ hPool hDraw hClock
    (fun _ => rfl) service "u" "p"
  refine ⟨hPool, hDraw, hClock, hFaults.2.1.mpr ?_⟩
  exact List.mem_singleton.mpr rfl

/-- A negative server value is no report, although it is a numeral: a run ends in a
fault. -/
theorem negative_server_value_faults :
    ∃ fault, ((Handshake.fresh "us-east-1_P" none).run
      (.replying "c"
        ⟨some passwordVerifier, [("SALT", "0"), ("SRP_B", "-1"), ("SECRET_BLOCK", "AAAA"),
          ("USER_ID_FOR_SRP", "u"), ("USERNAME", "u")], none, none⟩
        ⟨none, [], none, none⟩)
      .accepting (.ok ⟨⟨⟨2026, 10, 4⟩, 7, 5, 9⟩, 0, 0⟩) [[1]] "u" "p").outcome = .halt fault := by
  rw [← isCounted_eq_false]
  decide +kernel

end SignIn
end ClientAuth

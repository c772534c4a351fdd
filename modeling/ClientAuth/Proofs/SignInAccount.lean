import ClientAuth.Proofs.FailureSource
import ClientAuth.Proofs.Recording
import ClientAuth.Proofs.SignInFaults
import ClientAuth.Proofs.TransportService

/-! The account of sign ins that share their counters. Main statement: `signIns_account`, for all
counters at the start and every sequence of sign ins, whatever their services, sinks and clocks do
as long as their failures carry texts as codes. -/
namespace ClientAuth

/-- What the account makes of counters by how an attempt ended. A failure without a code is counted
among the attempts only, and a fault not at all. -/
inductive Accounted (before : Collector) : Outcome SignInResult → Collector → Prop
  | success {result : SignInResult} {duration : Binary64} :
      Accounted before (.ok result) (before.recordSignIn (.text "success") duration none)
  | cancelled {duration : Binary64} :
      Accounted before (.error .cancelled) (before.recordSignIn (.text "cancelled") duration none)
  | failure {cause : Failure} {code : String} {duration : Binary64}
      (hCode : cause.code = .text code) :
      Accounted before (.fail cause) (before.recordSignIn (.text "failure") duration
        (if code = "" then none else some (.text code)))
  | fault {cause : Fault} : Accounted before (.halt cause) before

namespace SignIn

theorem accounted_account {outcome : Outcome SignInResult}
    (hCodes : ∀ failure : Failure, outcome = .fail failure → ∃ code, failure.code = .text code)
    (duration : Binary64) (before : Collector) :
    Accounted before (account outcome duration before).1 (account outcome duration before).2 := by
  rcases outcome with (cause | cause | _) | result
  · obtain ⟨code, hCode⟩ := hCodes cause rfl
    have hLabel : Label.ofCode cause.code =
        .ok (if code = "" then none else some (.text code)) := by
      by_cases hEmpty : code = "" <;> simp [hCode, hEmpty, Label.ofCode, Json.isVacuous,
        Label.ofJson?]
    rw [account, hLabel]
    exact .failure hCode
  · exact .fault
  · exact .cancelled
  · exact .success

end SignIn

/-- What one sign in is given. -/
structure SignInInput where
  settings : Settings
  service : Service
  sink : Sink
  now : Outcome Moment
  username : String
  password : String

namespace SignInInput

/-- One sign in on its input. -/
def signIn (input : SignInInput) (state : SignInState) : Run × SignInState :=
  SignIn.signIn input.settings input.service input.sink input.now input.username input.password
    state

/-- The service, the sink or the clock of a sign in raises a failure. -/
def Raises (input : SignInInput) (failure : Failure) : Prop :=
  Raised input.service input.sink input.now failure

/-- No failure is raised in a sign in but by what comes back over HTTP, which may be anything. The
connection, the sink and the clock raise none. -/
structure FailsOverHttp (input : SignInInput) : Prop where
  service : (∀ failure, ¬input.service.Raises failure) ∨
    ∃ (transport : HttpTransport) (first : Parameters → Http.Exchange)
      (second : Parameters → ChallengeAnswer → Http.Exchange) (room : Nat),
      input.service = transport.service first second room ∧
        (∀ parameters cause, first parameters ≠ .trouble (.failure cause)) ∧
        ∀ parameters answer cause, second parameters answer ≠ .trouble (.failure cause)
  sink : ∀ tokens failure, input.sink tokens ≠ .fail failure
  clock : ∀ failure, input.now ≠ .fail failure

theorem FailsOverHttp.coded_of_raises {input : SignInInput} (h : input.FailsOverHttp)
    {failure : Failure} (hRaises : input.Raises failure) : failure.Coded := by
  cases hRaises with
  | service hRaised =>
      rcases h.service with hNone | ⟨transport, first, second, room, hService, hFirst, hSecond⟩
      · exact absurd hRaised (hNone failure)
      rw [hService] at hRaised
      obtain ⟨parameters, hInitiate | ⟨answer, hRespond⟩⟩ := hRaised
      · exact Http.coded_of_answer (hFirst parameters) hInitiate
      · exact Http.coded_of_answer (hSecond parameters answer) hRespond
  | sink hSink => exact absurd hSink (h.sink _ failure)
  | clock hClock => exact absurd hClock (h.clock failure)

/-- The failure of a sign in is that of its run. -/
theorem failure_source {input : SignInInput} {state : SignInState} {failure : Failure}
    (h : (input.signIn state).1.outcome = .fail failure) :
    (∃ kind, failure.Is kind) ∨ input.Raises failure := by
  obtain ⟨duration, hOutcome⟩ := SignIn.signIn_outcome input.settings input.service input.sink
    input.now input.username input.password state
  have hAccount := hOutcome.symm.trans h
  rcases SignIn.account_cases _ duration state.metrics with ⟨-, hSame⟩ | ⟨other, -, -, hHalt⟩
  · rw [hSame] at hAccount
    exact Handshake.run_failure_source hAccount
  · rw [hHalt] at hAccount
    nomatch hAccount

/-- Every failure that is raised in a sign in has a text for a code. -/
def RaisesTexts (input : SignInInput) : Prop :=
  ∀ failure, input.Raises failure → ∃ code, failure.code = .text code

/-- The account of one sign in. -/
theorem accounted_signIn {input : SignInInput} (hTexts : input.RaisesTexts)
    (state : SignInState) :
    Accounted state.metrics (input.signIn state).1.outcome (input.signIn state).2.metrics := by
  rw [signIn, SignIn.signIn]
  dsimp only
  split
  next hCounted =>
    refine SignIn.accounted_account ?_ _ _
    intro failure hFailure
    rcases Handshake.run_failure_source hFailure with ⟨kind, hKind⟩ | hRaised
    · exact ⟨_, hKind.named⟩
    · exact hTexts failure hRaised
  next hFault =>
    obtain ⟨fault, hOutcome⟩ := SignIn.isCounted_eq_false.mp (Bool.eq_false_iff.mpr hFault)
    rw [hOutcome]
    exact .fault

theorem FailsOverHttp.raisesTexts {input : SignInInput} (h : input.FailsOverHttp) :
    input.RaisesTexts := by
  intro failure hRaises
  obtain ⟨code, hCode, -⟩ := h.coded_of_raises hRaises
  exact ⟨code, hCode⟩

theorem FailsOverHttp.coded_of_signIn {input : SignInInput} (h : input.FailsOverHttp)
    {state : SignInState} {failure : Failure}
    (hFailure : (input.signIn state).1.outcome = .fail failure) : failure.Coded := by
  rcases failure_source hFailure with ⟨kind, hKind⟩ | hRaises
  · exact hKind.coded
  · exact h.coded_of_raises hRaises

end SignInInput

namespace Run

def succeeded (run : Run) : Bool :=
  match run.outcome with
  | .ok _ => true
  | _ => false

def cancelled (run : Run) : Bool :=
  match run.outcome with
  | .error .cancelled => true
  | _ => false

def failed (run : Run) : Bool :=
  match run.outcome with
  | .error (.failure _) => true
  | _ => false

/-- The run ended, but not in a fault. -/
def ended (run : Run) : Bool := run.succeeded || run.failed || run.cancelled

/-- The run ended in a failure with a code. -/
def failedWith (code : String) (run : Run) : Bool :=
  match run.outcome with
  | .error (.failure cause) => cause.code.text? = some code
  | _ => false

end Run

/-- Sign ins one after the other, each on what the earlier ones leave. -/
def signIns : List SignInInput → SignInState → List Run × SignInState
  | [], state => ([], state)
  | input :: rest, state =>
      let (run, state) := input.signIn state
      let (runs, state) := signIns rest state
      (run :: runs, state)

/-- A counter that each sign in raises by one or leaves has been raised as often as sign ins raised
it. -/
theorem counter_signIns (counter : Collector → Nat) {raises : Run → Bool}
    {inputs : List SignInInput}
    (hStep : ∀ input ∈ inputs, ∀ state, counter (input.signIn state).2.metrics =
      counter state.metrics + if raises (input.signIn state).1 then 1 else 0)
    (state : SignInState) :
    counter (signIns inputs state).2.metrics =
      counter state.metrics + (signIns inputs state).1.countP raises := by
  induction inputs generalizing state with
  | nil => rfl
  | cons input rest ih =>
      have hRest := ih (fun other hOther => hStep other (List.mem_cons_of_mem _ hOther))
        (input.signIn state).2
      have hFirst := hStep input List.mem_cons_self state
      have hRuns : (signIns (input :: rest) state).1 =
          (input.signIn state).1 :: (signIns rest (input.signIn state).2).1 := rfl
      have hLast : (signIns (input :: rest) state).2 =
          (signIns rest (input.signIn state).2).2 := rfl
      rw [hRuns, hLast, hRest, hFirst, List.countP_cons]
      omega

/-- The three outcomes exclude each other. -/
theorem Run.countP_ended (runs : List Run) :
    runs.countP ended = runs.countP succeeded + runs.countP failed + runs.countP cancelled := by
  induction runs with
  | nil => rfl
  | cons run runs ih =>
      simp only [List.countP_cons, ih]
      obtain ⟨outcome, _, _, _, _⟩ := run
      rcases outcome with (cause | cause | _) | result
      · simp [ended, succeeded, failed, cancelled]
        omega
      · simp [ended, succeeded, failed, cancelled]
      · simp [ended, succeeded, failed, cancelled]
        omega
      · simp [ended, succeeded, failed, cancelled]
        omega

namespace Accounted

variable {before after : Collector} {run : Run}

/-- One attempt raises the counter of its outcome. -/
theorem of_outcome (h : Accounted before run.outcome after) :
    after.signIns.of (.text "success") =
        before.signIns.of (.text "success") + (if run.succeeded then 1 else 0) ∧
      after.signIns.of (.text "failure") =
        before.signIns.of (.text "failure") + (if run.failed then 1 else 0) ∧
      after.signIns.of (.text "cancelled") =
        before.signIns.of (.text "cancelled") + (if run.cancelled then 1 else 0) := by
  obtain ⟨outcome, _, _, _, _⟩ := run
  cases h with
  | success => simp [Tally.of_count, Run.succeeded, Run.failed, Run.cancelled]
  | cancelled => simp [Tally.of_count, Run.succeeded, Run.failed, Run.cancelled]
  | failure hCode => simp [Tally.of_count, Run.succeeded, Run.failed, Run.cancelled]
  | fault => simp [Run.succeeded, Run.failed, Run.cancelled]

/-- One attempt that is counted raises the number of attempts and that of durations. -/
theorem totals (h : Accounted before run.outcome after) :
    after.signIns.total = before.signIns.total +
        (if run.ended then 1 else 0) ∧
      after.durationCount = before.durationCount +
        (if run.ended then 1 else 0) := by
  obtain ⟨outcome, _, _, _, _⟩ := run
  cases h with
  | success => simp [Tally.total_count, Run.ended, Run.succeeded]
  | cancelled => simp [Tally.total_count, Run.ended, Run.cancelled]
  | failure hCode => simp [Tally.total_count, Run.ended, Run.failed]
  | fault => simp [Run.ended, Run.succeeded, Run.failed, Run.cancelled]

/-- A failure raises the counter of its code, if it has one. -/
theorem of_failure (h : Accounted before run.outcome after) {code : String} (hCode : code ≠ "") :
    after.failures.of (.text code) =
      before.failures.of (.text code) + if run.failedWith code then 1 else 0 := by
  obtain ⟨outcome, _, _, _, _⟩ := run
  cases h with
  | success => simp [Run.failedWith]
  | cancelled => simp [Run.failedWith]
  | @failure cause own duration hOwn =>
      by_cases hEmpty : own = ""
      · subst hEmpty
        simp [Run.failedWith, hOwn, Json.text?, hCode.symm]
      · simp [Run.failedWith, hOwn, Json.text?, hEmpty, Tally.of_count]
  | fault => simp [Run.failedWith]

/-- Where every failure has a code, a failure raises the number of failures. -/
theorem total_failures (h : Accounted before run.outcome after)
    (hCoded : ∀ failure : Failure, run.outcome = .fail failure → failure.Coded) :
    after.failures.total = before.failures.total + if run.failed then 1 else 0 := by
  obtain ⟨outcome, _, _, _, _⟩ := run
  cases h with
  | success => simp [Run.failed]
  | cancelled => simp [Run.failed]
  | @failure cause own duration hOwn =>
      obtain ⟨code, hCode, hFull⟩ := hCoded cause rfl
      obtain rfl : own = code := Json.text.inj (hOwn.symm.trans hCode)
      simp [Run.failed, hFull, Tally.total_count]
  | fault => simp [Run.failed]

theorem resolutions_eq {outcome : Outcome SignInResult} (h : Accounted before outcome after) :
    after.resolutions = before.resolutions := by
  cases h with
  | success => simp
  | cancelled => simp
  | failure hCode => simp
  | fault => rfl

/-- A fault leaves no trace in the counters. -/
theorem eq_of_halt {outcome : Outcome SignInResult} {cause : Fault}
    (h : Accounted before outcome after) (hHalt : outcome = .halt cause) : after = before := by
  cases h with
  | fault => rfl
  | success => nomatch hHalt
  | cancelled => nomatch hHalt
  | failure hCode => nomatch hHalt

end Accounted

theorem resolutions_signIns {inputs : List SignInInput}
    (hTexts : ∀ input ∈ inputs, input.RaisesTexts) (state : SignInState) :
    (signIns inputs state).2.metrics.resolutions = state.metrics.resolutions := by
  induction inputs generalizing state with
  | nil => rfl
  | cons input rest ih =>
      have hFirst := SignInInput.accounted_signIn (hTexts input List.mem_cons_self) state
      have hRest := ih fun other hOther => hTexts other (List.mem_cons_of_mem _ hOther)
      exact (hRest _).trans hFirst.resolutions_eq

end ClientAuth

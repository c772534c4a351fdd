import ClientAuth.Credentials.Store
import ClientAuth.Proofs.Course
import ClientAuth.Proofs.EphemeralDraw

/-! The life of one handshake, over any sequence of runs. Main statement:
`Handshake.life_eq`: the first run whose client can be made is lawful, whatever the
service, the sink and the clock do, and every later one is refused without a trace.
That the first call is made needs a secret that can be proved; without one the attempt
fails before it. -/
namespace ClientAuth

def Call.isInitiate : Call → Bool
  | .initiate _ => true
  | .respond _ => false

def Call.isRespond : Call → Bool
  | .initiate _ => false
  | .respond _ => true

/-- The histories of attempts that have ended. -/
def endedHistories : List (List Stage) :=
  [[.initiated, .complete], [.initiated, .failed], [.initiated, .challengeReceived, .failed],
    [.initiated, .challengeReceived, .verified, .failed],
    [.initiated, .challengeReceived, .verified, .complete]]

/-- What holds of every attempt. Each call is made once or not at all, and so are tokens
offered; a sink that takes everything is given tokens exactly by a complete attempt. -/
structure Lawful (sink : Sink) (proves : Prop) (outcome : Outcome SignInResult)
    (record : Record) : Prop where
  history : record.stages ∈ endedHistories
  returned : (∃ result, outcome = .ok result) ↔ record.stages.getLast? = some .complete
  initiated : proves → record.calls.countP Call.isInitiate = 1
  unproved : ¬proves → record.calls = [] ∧ record.stages = [.initiated, .failed]
  responded : record.calls.countP Call.isRespond = if .verified ∈ record.stages then 1 else 0
  offeredOnce : record.offered.length ≤ 1
  usable : ∀ tokens ∈ record.offered, ∃ access, tokens.accessToken = some access ∧ access ≠ ""
  stored : (∀ tokens, sink tokens = .ok ()) →
    (record.offered.length = 1 ↔ record.stages.getLast? = some .complete)

/-- A failed attempt that has offered nothing. -/
theorem lawful_of_failed {sink : Sink} {proves : Prop} {interruption : Interruption}
    (stages : List Stage) (calls : List Call) (hHistory : stages ++ [.failed] ∈ endedHistories)
    (hInitiated : proves → calls.countP Call.isInitiate = 1)
    (hUnproved : ¬proves → calls = [] ∧ stages = [.initiated])
    (hResponded : calls.countP Call.isRespond = if .verified ∈ stages then 1 else 0) :
    Lawful sink proves (.error interruption) ⟨stages ++ [.failed], calls, []⟩ where
  history := hHistory
  returned := iff_of_false nofun (by simp)
  initiated := hInitiated
  unproved := fun hNot => ⟨(hUnproved hNot).1, by rw [(hUnproved hNot).2]; rfl⟩
  responded := by simp [hResponded]
  offeredOnce := by simp
  usable := by simp
  stored := fun _ => iff_of_false nofun (by simp)

/-- An attempt that has landed. -/
theorem lawful_of_landing {sink : Sink} {proves : Prop} {username : String} {reply : Reply}
    {outcome : Outcome SignInResult} {stage : Stage} {offered : List Tokens}
    (stages : List Stage) (calls : List Call) (hProves : proves)
    (hLanding : Landing sink username reply outcome stage offered)
    (hFailed : stages ++ [.failed] ∈ endedHistories)
    (hComplete : stages ++ [.complete] ∈ endedHistories)
    (hInitiated : calls.countP Call.isInitiate = 1)
    (hResponded : calls.countP Call.isRespond = if .verified ∈ stages then 1 else 0) :
    Lawful sink proves outcome ⟨stages ++ [stage], calls, offered⟩ := by
  cases hLanding with
  | lacking hNone =>
      exact lawful_of_failed stages calls hFailed (fun _ => hInitiated) (absurd hProves) hResponded
  | @refused tokens interruption hCarries hSink =>
      exact {
        history := hFailed
        returned := iff_of_false nofun (by simp)
        initiated := fun _ => hInitiated
        unproved := absurd hProves
        responded := by simp [hResponded]
        offeredOnce := by simp
        usable := by simpa using hCarries.2
        stored := by
          intro hAccepts
          rw [hAccepts] at hSink
          nomatch hSink }
  | @accepted tokens hCarries hSink =>
      exact {
        history := hComplete
        returned := iff_of_true ⟨_, rfl⟩ (by simp)
        initiated := fun _ => hInitiated
        unproved := absurd hProves
        responded := by simp [hResponded]
        offeredOnce := by simp
        usable := by simpa using hCarries.2
        stored := fun _ => iff_of_true rfl (by simp) }

/-- Every way through an attempt is lawful. -/
theorem Course.lawful {service : Service} {sink : Sink} {pool : String} {pair : Srp.Ephemeral}
    {login : Login} {outcome : Outcome SignInResult} {record : Record}
    (h : Course service sink ⟨pool, some pair⟩ login outcome record) :
    Lawful sink (ProvesSecret service.clientId login.clientSecret login.username) outcome
      record := by
  cases h with
  | unopened hOpening =>
      obtain ⟨hProves, -⟩ := not_provesSecret_of_opening hOpening
      exact lawful_of_failed [.initiated] [] (by decide) (fun hNot => absurd hNot hProves)
        (fun _ => ⟨rfl, rfl⟩) rfl
  | firstUnmet hOpening hAnswer =>
      exact lawful_of_failed [.initiated] _ (by decide) (fun _ => rfl)
        (absurd (provesSecret_of_opening hOpening)) rfl
  | direct hOpened hNone hLanding =>
      exact lawful_of_landing [.initiated] _ (provesSecret_of_opening hOpened.opening) hLanding
        (by decide) (by decide) rfl rfl
  | unsupported hOpened hChallenge hName =>
      exact lawful_of_failed [.initiated] _ (by decide) (fun _ => rfl)
        (absurd (provesSecret_of_opening hOpened.opening)) rfl
  | unread hOpened hName hRead =>
      exact lawful_of_failed [.initiated, .challengeReceived] _ (by decide) (fun _ => rfl)
        (absurd (provesSecret_of_opening hOpened.opening)) rfl
  | unanswered hOpened hName hRead hRespond =>
      exact lawful_of_failed [.initiated, .challengeReceived] _ (by decide) (fun _ => rfl)
        (absurd (provesSecret_of_opening hOpened.opening)) rfl
  | secondUnmet hOpened hAnswered hAnswer =>
      exact lawful_of_failed [.initiated, .challengeReceived, .verified] _ (by decide)
        (fun _ => rfl) (absurd (provesSecret_of_opening hOpened.opening)) rfl
  | challengedAgain hOpened hAnswered hSecond hTokens hName =>
      exact lawful_of_failed [.initiated, .challengeReceived, .verified] _ (by decide)
        (fun _ => rfl) (absurd (provesSecret_of_opening hOpened.opening)) rfl
  | concluded hOpened hAnswered hSecond hFinal hLanding =>
      exact lawful_of_landing [.initiated, .challengeReceived, .verified] _
        (provesSecret_of_opening hOpened.opening) hLanding (by decide) (by decide) rfl rfl

/-- An accepting sink is given nothing by a failed attempt. -/
theorem Lawful.offered_eq_nil {sink : Sink} {proves : Prop} {outcome : Outcome SignInResult}
    {record : Record} (h : Lawful sink proves outcome record)
    (hAccepts : ∀ tokens, sink tokens = .ok ())
    (hFailed : record.stages.getLast? ≠ some .complete) : record.offered = [] := by
  have hOnce := h.offeredOnce
  have hNotOne : record.offered.length ≠ 1 := mt (h.stored hAccepts).mp hFailed
  exact List.length_eq_zero_iff.mp (by omega)

theorem Lawful.stages_ne_nil {sink : Sink} {proves : Prop} {outcome : Outcome SignInResult}
    {record : Record} (h : Lawful sink proves outcome record) : record.stages ≠ [] := by
  intro hEmpty
  have hHistory := h.history
  rw [hEmpty] at hHistory
  exact absurd hHistory (by decide)

/-- What a store holds after tokens are put into it one after the other. -/
def Store.receive (store : Store) (now : Binary64) (offered : List Tokens) : Store :=
  offered.foldl (fun _ tokens => .put tokens now) store

/-- What one run of a handshake is given. -/
structure RunInput where
  service : Service
  sink : Sink
  now : Outcome Moment
  entropy : List Bytes
  username : String
  password : String

namespace Handshake

/-- One run on its input. -/
def runOn (handshake : Handshake) (input : RunInput) : Run :=
  handshake.run input.service input.sink input.now input.entropy input.username input.password

/-- The runs of one handshake, each on what the earlier ones leave of it. -/
def life : Handshake → List RunInput → List Run
  | _, [] => []
  | handshake, input :: later =>
      handshake.runOn input :: (handshake.runOn input).handshake.life later

/-- A handshake with a history refuses all its runs. -/
theorem life_of_history {handshake : Handshake} (h : handshake.history ≠ [])
    (inputs : List RunInput) :
    handshake.life inputs =
      inputs.map fun input => handshake.notBegun (.failure .handshakeReused) input.entropy := by
  induction inputs with
  | nil => rfl
  | cons input later ih =>
      have hRefused : handshake.runOn input =
          handshake.notBegun (.failure .handshakeReused) input.entropy :=
        run_of_history h _ _ _ _ _ _
      rw [life, hRefused, List.map_cons]
      exact congrArg (_ :: ·) ih

/-- The first run of a fresh handshake is lawful and leaves its stages as the history,
the store of a failed run as it was, and no key pair. All later runs are refused; they
make no call, offer nothing and draw nothing. -/
theorem life_eq {poolId : String} {clientSecret : Option String} {first : RunInput}
    {client : Srp.Client} {rest : List Bytes}
    (hCreate : Srp.Client.create poolId first.entropy = (.ok client, rest))
    (later : List RunInput) :
    ∃ run : Run,
      (fresh poolId clientSecret).life (first :: later) =
        run :: later.map (fun input =>
          run.handshake.notBegun (.failure .handshakeReused) input.entropy) ∧
      run.handshake.history = run.record.stages ∧
      Lawful first.sink (ProvesSecret first.service.clientId clientSecret first.username)
        run.outcome run.record ∧
      ((∀ tokens, first.sink tokens = .ok ()) → run.handshake.state? ≠ some .complete →
        ∀ (store : Store) (now : Binary64), store.receive now run.record.offered = store) ∧
      ∃ left : Srp.Client, run.client = some left ∧
        left.ephemeral = .fail .ephemeralDiscarded := by
  obtain ⟨pool, pair, rfl⟩ := Srp.Client.exists_pair_of_create hCreate
  let login : Login := ⟨first.username, first.password, clientSecret, first.now⟩
  have hRun := @run_of_create (fresh poolId clientSecret) _ _ _ rfl hCreate first.service
    first.sink first.now first.username first.password
  change (fresh poolId clientSecret).runOn first = _ at hRun
  have hLawful := (course_attempt first.service first.sink ⟨pool, some pair⟩ login).lawful
  refine ⟨(fresh poolId clientSecret).runOn first, ?_, ?_, ?_, ?_, ?_⟩
  · rw [life, life_of_history]
    rw [hRun]
    exact hLawful.stages_ne_nil
  · rw [hRun]
  · rw [hRun]
    exact hLawful
  · rw [hRun]
    intro hAccepts hFailed store now
    exact congrArg (store.receive now) (hLawful.offered_eq_nil hAccepts hFailed)
  · rw [hRun]
    exact ⟨_, rfl, rfl⟩

/-- Two runs of one handshake. -/
theorem life_eq_twice :
    let first : RunInput := ⟨.replying "c"
      ⟨none, [], none, some ⟨some "access", none, none, none, none⟩⟩ ⟨none, [], none, none⟩,
      .accepting, .ok ⟨⟨⟨2026, 10, 4⟩, 7, 5, 9⟩, 0, 0⟩, [[1]], "u", "p"⟩
    Srp.Client.create "us-east-1_P" first.entropy = (.ok ⟨"P", some ⟨1, 2⟩⟩, []) ∧
      ∃ run : Run, (fresh "us-east-1_P" none).life [first, first] =
          [run, run.handshake.notBegun (.failure .handshakeReused) [[1]]] ∧
        run.handshake.history = run.record.stages ∧ run.record.stages ∈ endedHistories := by
  intro first
  have hCreate : Srp.Client.create "us-east-1_P" first.entropy =
      (.ok ⟨"P", some ⟨1, 2⟩⟩, []) := rfl
  obtain ⟨run, hLife, hHistory, hLawful, -⟩ :=
    @life_eq "us-east-1_P" none first _ _ hCreate [first]
  exact ⟨hCreate, run, hLife, hHistory, hLawful.history⟩

/-- A secret that cannot be proved for a user name without a UTF-8 form: the client is
made, yet no call is. -/
theorem half_username_uncalled :
    let username := String.ofList (Text.ofCodes [0xD800])
    let run := (fresh "us-east-1_P" (some "s")).run
      (.replying "c" ⟨none, [], none, some ⟨some "access", none, none, none, none⟩⟩
        ⟨none, [], none, none⟩)
      .accepting (.ok ⟨⟨⟨2026, 10, 4⟩, 7, 5, 9⟩, 0, 0⟩) [[1]] username "p"
    run.client.isSome = true ∧ run.record.calls = [] ∧
      run.handshake.history = [.initiated, .failed] := by
  decide +kernel

end Handshake
end ClientAuth

import ClientAuth.Proofs.SessionProbe

/-! A store beside a clock, over whole runs. Main statement: `run_remembers`, after any run a store
holds what came in last unless it was cleared since, it gives a token exactly while there is a
session, and a session that is over does not come back while nothing comes in. -/
namespace ClientAuth

namespace Binary64

/-- Less or of equal value. What is not a number is not compared. -/
def le (x y : Binary64) : Bool :=
  match x.rank?, y.rank? with
  | some a, some b => a ≤ b
  | _, _ => false

theorem le_iff {x y : Binary64} :
    le x y ↔ ∃ a b, x.rank? = some a ∧ y.rank? = some b ∧ a ≤ b := by
  unfold le
  cases x.rank? <;> cases y.rank? <;> simp

theorem lt_of_le_of_lt {x y z : Binary64} (hxy : le x y) (hyz : lt y z) : lt x z := by
  obtain ⟨a, b, hx, hy, hab⟩ := le_iff.1 hxy
  obtain ⟨b', c, hy', hz, hbc⟩ := lt_iff.1 hyz
  obtain rfl : b = b' := Option.some.inj (hy.symm.trans hy')
  exact lt_iff.2 ⟨a, c, hx, hz, Int.lt_of_le_of_lt hab hbc⟩

end Binary64

/-- A step of a run: tokens come in, all are dropped, or the clock shows another time. -/
inductive StoreStep
  | store (tokens : Tokens)
  | clear
  | tick (now : Binary64)

/-- The step leaves the store alone. -/
def StoreStep.isTick : StoreStep → Bool
  | .tick _ => true
  | _ => false

namespace Store

/-- The lifetime of tokens does not begin again. -/
theorem withinLifetime_earlier {holding : Holding} {early late : Binary64}
    (hTimes : early.le late) (h : withinLifetime holding late = .ok true) :
    withinLifetime holding early = .ok true := by
  rw [withinLifetime] at h ⊢
  cases hSeconds : holding.tokens.expiresIn with
  | none => rfl
  | some seconds =>
      rw [hSeconds] at h
      dsimp only at h ⊢
      cases hLifetime : Binary64.ofInt? seconds with
      | none =>
          rw [hLifetime] at h
          cases h
      | some lifetime =>
          rw [hLifetime] at h
          exact congrArg Except.ok (Binary64.lt_of_le_of_lt hTimes (Except.ok.inj h))

theorem withinExpiry_earlier {holding : Holding} {claim : Json} {early late : Binary64}
    (hTimes : early.le late) (h : withinExpiry holding late claim = .ok true) :
    withinExpiry holding early claim = .ok true := by
  by_cases hNull : claim = .null
  · subst hNull
    exact withinLifetime_earlier hTimes h
  · rw [withinExpiry] at h ⊢
    · cases hTime : IdToken.Expiry.ofJson claim with
      | moment time =>
          rw [hTime] at h
          exact congrArg Except.ok (Binary64.lt_of_le_of_lt hTimes (Except.ok.inj h))
      | unusable =>
          rw [hTime] at h
          cases h
      | beyondDouble =>
          rw [hTime] at h
          cases h
    · exact hNull
    · exact hNull

/-- Where there is a session, there was one at every earlier time. -/
theorem hasSession_earlier {store : Store} {early late : Binary64} (hTimes : early.le late)
    (h : store.hasSession late = .ok true) : store.hasSession early = .ok true := by
  obtain ⟨_ | ⟨tokens, storedAt⟩⟩ := store
  · nomatch h
  by_cases hUsable : tokens.usableToken?.isSome = true
  · have hProbe (now : Binary64) := hasSession_put hUsable storedAt now
    change (put tokens storedAt).hasSession late = .ok true at h
    change (put tokens storedAt).hasSession early = .ok true
    rw [hProbe] at h ⊢
    obtain ⟨claim, hClaim, hExpiry⟩ := Outcome.bind_eq_ok.mp h
    rw [hClaim, Outcome.ok_bind]
    exact withinExpiry_earlier hTimes hExpiry
  · have hNone : tokens.usableToken?.isNone = true := by simpa using hUsable
    rw [show hasSession ⟨some ⟨tokens, storedAt⟩⟩ late = .ok false from if_pos hNone] at h
    nomatch h

/-- The stored token is given exactly in a session, and missed by a failure exactly without one. -/
theorem latestToken_iff {store : Store} {now : Binary64} {current : Bool}
    (h : store.hasSession now = .ok current) :
    ((∃ token, token ≠ "" ∧ store.accessToken? = some token ∧
        store.latestToken now = .ok token) ↔ current = true) ∧
      (store.latestToken now = .fail .notSignedIn ↔ current = false) := by
  cases current with
  | true =>
      obtain ⟨token, hToken, hFull, hLatest⟩ := latestToken_of_hasSession h
      refine ⟨iff_of_true ⟨token, hFull, hToken, hLatest⟩ rfl,
        iff_of_false (fun hFail => ?_) Bool.false_ne_true.symm⟩
      rw [hLatest] at hFail
      cases hFail
  | false =>
      have hLatest : store.latestToken now = .fail .notSignedIn := by
        rw [latestToken, h]
        rfl
      refine ⟨iff_of_false ?_ Bool.false_ne_true, iff_of_true hLatest rfl⟩
      rintro ⟨token, -, -, hToken⟩
      rw [hLatest] at hToken
      cases hToken

end Store

/-- A store beside the clock that its owner reads. -/
structure ClockedStore where
  store : Store
  now : Binary64

namespace ClockedStore

/-- A store before anything came in. -/
def start (now : Binary64) : ClockedStore := ⟨.empty, now⟩

def step (state : ClockedStore) : StoreStep → ClockedStore
  | .store tokens => { state with store := .put tokens state.now }
  | .clear => { state with store := .empty }
  | .tick now => { state with now := now }

def run (state : ClockedStore) (steps : List StoreStep) : ClockedStore := steps.foldl step state

/-- The answer to whether there is a session. -/
def hasSession (state : ClockedStore) : Outcome Bool := state.store.hasSession state.now

/-- The token that a provider on the store gives. -/
def latestToken (state : ClockedStore) : Outcome String := state.store.latestToken state.now

variable (state : ClockedStore)

theorem run_append (first second : List StoreStep) :
    state.run (first ++ second) = (state.run first).run second :=
  List.foldl_append

/-- While the clock goes on, the store stays as it is. -/
theorem store_run_of_ticks {steps : List StoreStep} (h : ∀ step ∈ steps, step.isTick = true) :
    (state.run steps).store = state.store := by
  induction steps generalizing state with
  | nil => rfl
  | cons step steps ih =>
      have hRest := ih (state.step step) fun other hMem => h other (List.mem_cons_of_mem _ hMem)
      have hTick := h step List.mem_cons_self
      cases step with
      | store tokens => nomatch hTick
      | clear => nomatch hTick
      | tick now => exact hRest

/-- Without new tokens a store keeps what it holds until it is cleared. -/
theorem store_run_of_no_store {steps : List StoreStep} (h : ∀ tokens, .store tokens ∉ steps) :
    (.clear ∉ steps → (state.run steps).store = state.store) ∧
      (.clear ∈ steps → (state.run steps).store = .empty) := by
  induction steps generalizing state with
  | nil => exact ⟨fun _ => rfl, nofun⟩
  | cons step steps ih =>
      obtain ⟨hKept, hDropped⟩ := ih (state.step step)
        fun tokens hMem => h tokens (List.mem_cons_of_mem _ hMem)
      cases step with
      | store tokens => exact absurd List.mem_cons_self (h tokens)
      | clear =>
          refine ⟨fun hNone => absurd List.mem_cons_self hNone, fun _ => ?_⟩
          by_cases hAgain : .clear ∈ steps
          · exact hDropped hAgain
          · exact hKept hAgain
      | tick now =>
          refine ⟨fun hNone => hKept fun hMem => hNone (List.mem_cons_of_mem _ hMem),
            fun hSome => hDropped ?_⟩
          simpa using hSome

/-- A store after any run holds what came in last, with the time at which it came in, unless it was
cleared since. At every point a provider gives the stored token exactly if there is a session, and
reports that nobody is signed in exactly if there is none. Between two changes of the store a
session at some time means one at every earlier time. -/
theorem run_remembers (time : Binary64) (steps : List StoreStep) :
    let state := (start time).run steps
    ((∀ tokens, .store tokens ∉ steps) →
      state.store.tokens? = none ∧ state.hasSession = .ok false) ∧
    (∀ earlier tokens later, steps = earlier ++ .store tokens :: later →
      (∀ other, .store other ∉ later) →
      let storedAt := ((start time).run earlier).now
      (.clear ∉ later → state.store.tokens? = some tokens ∧
        state.hasSession = (Store.put tokens storedAt).hasSession state.now) ∧
      (.clear ∈ later → state.store.tokens? = none ∧ state.hasSession = .ok false)) ∧
    (∀ current, state.hasSession = .ok current →
      ((∃ token, token ≠ "" ∧ state.store.accessToken? = some token ∧
        state.latestToken = .ok token) ↔ current = true) ∧
      ((∃ failure : Failure, failure.kind = .general ∧ failure.code = .text "not_signed_in" ∧
        state.latestToken = .fail failure) ↔ current = false)) ∧
    ∀ first second, (∀ step ∈ first ++ second, step.isTick = true) →
      let early := state.run first
      let late := state.run second
      early.now.le late.now = true → late.hasSession = .ok true → early.hasSession = .ok true := by
  intro state
  have hEmpty (other : ClockedStore) (hNothing : other.store = .empty) :
      other.store.tokens? = none ∧ other.hasSession = .ok false := by
    rw [hasSession, hNothing]
    exact ⟨rfl, rfl⟩
  refine ⟨?_, ?_, ?_, ?_⟩
  · intro hNone
    obtain ⟨hKept, hDropped⟩ := (start time).store_run_of_no_store hNone
    by_cases hClear : .clear ∈ steps
    · exact hEmpty state (hDropped hClear)
    · exact hEmpty state (hKept hClear)
  · intro earlier tokens later hSteps hLast storedAt
    have hState : state = (((start time).run earlier).step (.store tokens)).run later := by
      rw [show state = (start time).run steps from rfl, hSteps, run_append]
      rfl
    obtain ⟨hKept, hDropped⟩ :=
      (((start time).run earlier).step (.store tokens)).store_run_of_no_store hLast
    rw [← hState] at hKept hDropped
    refine ⟨fun hNone => ?_, fun hClear => hEmpty state (hDropped hClear)⟩
    rw [hasSession, hKept hNone]
    exact ⟨rfl, rfl⟩
  · intro current hCurrent
    obtain ⟨hGiven, hMissed⟩ := Store.latestToken_iff hCurrent
    refine ⟨hGiven, ?_⟩
    rw [← hMissed]
    constructor
    · rintro ⟨failure, -, -, hFailure⟩
      rcases Store.latestToken_cases hCurrent with ⟨token, hToken⟩ | hLatest
      · nomatch hToken.symm.trans hFailure
      · exact hLatest
    · intro hLatest
      exact ⟨.notSignedIn, rfl, rfl, hLatest⟩
  · intro first second hTicks early late hTimes hLate
    have hEarlyStore : early.store = state.store := state.store_run_of_ticks
      fun step hMem => hTicks step (List.mem_append_left _ hMem)
    have hLateStore : late.store = state.store := state.store_run_of_ticks
      fun step hMem => hTicks step (List.mem_append_right _ hMem)
    rw [hasSession, hLateStore] at hLate
    rw [hasSession, hEarlyStore]
    exact Store.hasSession_earlier hTimes hLate

/-- Tokens for ten seconds come in at time one, after others that were dropped. There is a session
at time eight, so there is one at time five, when the token is theirs. Once they are dropped, or
before anything comes in, there is none. -/
theorem run_remembers_seconds :
    let time (seconds : Nat) := Binary64.ofRatio false seconds 1
    let tokens : Tokens := ⟨some "access", none, none, some 10, none⟩
    let earlier : List StoreStep :=
      [.store ⟨some "old", none, none, none, none⟩, .clear, .tick (time 1)]
    let later : List StoreStep := [.tick (time 5)]
    let state := (start (time 0)).run (earlier ++ .store tokens :: later)
    let late := state.run [.tick (time 8)]
    let dropped := (start (time 0)).run (earlier ++ .store tokens :: [.clear])
    (∀ other, .store other ∉ later) ∧ .clear ∉ later ∧ state.store.tokens? = some tokens ∧
      state.now.le late.now = true ∧ late.hasSession = .ok true ∧ state.hasSession = .ok true ∧
      (∃ token, token ≠ "" ∧ state.store.accessToken? = some token ∧
        state.latestToken = .ok token) ∧
      dropped.hasSession = .ok false ∧ ((start (time 0)).run [.clear]).hasSession = .ok false := by
  intro time tokens earlier later state late dropped
  have hNoStore : ∀ other, .store other ∉ later := by simp [later]
  have hNoClear : .clear ∉ later := by simp [later]
  have hTimes : state.now.le late.now = true := by decide +kernel
  have hLate : late.hasSession = .ok true := Outcome.toOption_eq_some.mp (by decide +kernel)
  obtain ⟨-, hLast, hToken, hEarlier⟩ := run_remembers (time 0) (earlier ++ .store tokens :: later)
  have hEarly : state.hasSession = .ok true :=
    hEarlier [] [.tick (time 8)] (by simp [StoreStep.isTick]) hTimes hLate
  obtain ⟨-, hCleared, -⟩ := run_remembers (time 0) (earlier ++ .store tokens :: [.clear])
  obtain ⟨hNothing, -⟩ := run_remembers (time 0) [.clear]
  exact ⟨hNoStore, hNoClear, ((hLast earlier tokens later rfl hNoStore).1 hNoClear).1, hTimes,
    hLate, hEarly, (hToken true hEarly).1.mpr rfl,
    ((hCleared earlier tokens [.clear] rfl (by simp)).2 (by simp)).2, (hNothing (by simp)).2⟩

end ClockedStore
end ClientAuth

import ClientAuth.Json.Equality
import ClientAuth.Proofs.DoubleRange
import ClientAuth.Proofs.RequestDecoration

/-! Stores whose session can be probed. Main statement: `hasSession_after`, for every way in which
tokens come into a store and go: a probe gives an answer unless a number is too large for a double
or claims are nested too deep, and resolution then ends as it should. -/
namespace ClientAuth

/-- A change of a store: tokens come in at some time, or what it holds is dropped. -/
inductive StoreAction
  | put (tokens : Tokens) (now : Binary64)
  | clear

/-- No number, no truth value and no numeral. -/
inductive Json.NoNumber : Json → Prop
  | text {value : String} (hText : Numeral.readLoose? value = none) : NoNumber (.text value)
  | array (items : List Json) : NoNumber (.array items)
  | object (members : List (String × Json)) : NoNumber (.object members)

namespace Tokens

/-- The expiry claim of the identity token. It is null where the token or the claim is missing,
and where the token cannot be read. -/
def expiryClaim (tokens : Tokens) : Outcome Json :=
  match tokens.idToken.map IdToken.claims with
  | some (.ok claims) => .ok ((Json.lookup? "exp" claims).getD .null)
  | some (.error (.tooDeep inObject)) => .halt (.tooDeep inObject)
  | _ => .ok .null

/-- Why nobody can tell whether tokens are still valid. -/
inductive Unprobeable (tokens : Tokens) : Prop
  | nesting {interruption : Interruption} (hClaim : tokens.expiryClaim = .error interruption)
  | expiry {value : Int} (hClaim : tokens.expiryClaim = .ok (.int value))
      (hFar : Binary64.limit ≤ value.natAbs)
  | lifetime {seconds : Int} (hClaim : tokens.expiryClaim = .ok .null)
      (hSeconds : tokens.expiresIn = some seconds) (hFar : Binary64.limit ≤ seconds.natAbs)

theorem unprobeable_iff (tokens : Tokens) {claim : Json} (h : tokens.expiryClaim = .ok claim) :
    tokens.Unprobeable ↔
      (∃ value, claim = .int value ∧ Binary64.limit ≤ value.natAbs) ∨
        claim = .null ∧
          ∃ seconds, tokens.expiresIn = some seconds ∧ Binary64.limit ≤ seconds.natAbs := by
  constructor
  · intro hUnprobeable
    cases hUnprobeable with
    | nesting hClaim =>
        rw [h] at hClaim
        nomatch hClaim
    | expiry hClaim hFar => exact Or.inl ⟨_, Except.ok.inj (h.symm.trans hClaim), hFar⟩
    | lifetime hClaim hSeconds hFar =>
        exact Or.inr ⟨Except.ok.inj (h.symm.trans hClaim), _, hSeconds, hFar⟩
  · rintro (⟨value, rfl, hFar⟩ | ⟨rfl, seconds, hSeconds, hFar⟩)
    · exact .expiry h hFar
    · exact .lifetime h hSeconds hFar

end Tokens

namespace IdToken

theorem claims_empty : claims "" = .error .malformed := rfl

/-- A token whose claims say no more than that it expires "soon". -/
theorem claims_words : claims "e30.eyJleHAiOiJzb29uIn0." = .ok [("exp", .text "soon")] := by
  decide +kernel

/-- A token whose expiry claim is a one with 309 zeros. -/
def farToken : String :=
  String.ofList ("e30.eyJleHAiOjEw".toList ++ (List.replicate 102 "MDAw".toList).flatten ++
    "MDB9.".toList)

theorem toList_farToken : farToken.toList =
    "e30.eyJleHAiOjEw".toList ++ (List.replicate 102 "MDAw".toList).flatten ++ "MDB9.".toList :=
  String.toList_ofList

theorem claims_farToken : claims farToken = .ok [("exp", .int (10 ^ 309))] := by
  rw [claims, claimBytes?, Bytes.ofText?, toList_farToken]
  decide +kernel

/-- A number, a truth value or a numeral is a time; only a number can be too large for one. -/
theorem Expiry.ofJson_eq_beyondDouble {claim : Json} :
    Expiry.ofJson claim = .beyondDouble ↔
      ∃ value, claim = .int value ∧ Binary64.limit ≤ value.natAbs := by
  cases claim with
  | int value =>
      rw [Expiry.ofJson]
      split
      next time hTime =>
        have hNear := (not_congr Binary64.ofInt?_eq_none_iff).mp (by rw [hTime]; nofun)
        simpa using hNear
      next hTime => simpa using Binary64.ofInt?_eq_none_iff.mp hTime
  | text value =>
      rw [Expiry.ofJson]
      split
      next => simp
      next => simp
  | null => simp [Expiry.ofJson]
  | bool value => simp [Expiry.ofJson]
  | float value => simp [Expiry.ofJson]
  | array items => simp [Expiry.ofJson]
  | object members => simp [Expiry.ofJson]

theorem Expiry.ofJson_of_noNumber {claim : Json} (h : claim.NoNumber) :
    Expiry.ofJson claim = .unusable := by
  cases h with
  | text hText => rw [Expiry.ofJson, hText]
  | array items => rfl
  | object members => rfl

end IdToken

namespace Store

/-- What a store becomes by a change. -/
def act (_ : Store) : StoreAction → Store
  | .put tokens now => put tokens now
  | .clear => empty

/-- The store after changes, the first of them made to an empty one. -/
def after (actions : List StoreAction) : Store := actions.foldl act empty

/-- A store that holds tokens for a session, but nobody can tell whether they are valid. -/
def Unprobeable (store : Store) : Prop :=
  ∃ tokens, store.tokens? = some tokens ∧ tokens.usableToken?.isSome = true ∧ tokens.Unprobeable

/-- A store holds what came in last, unless that was dropped. -/
theorem after_cases (actions : List StoreAction) :
    after actions = empty ∨
      ∃ tokens now, .put tokens now ∈ actions ∧ after actions = put tokens now := by
  rcases List.eq_nil_or_concat actions with rfl | ⟨earlier, action, rfl⟩
  · exact Or.inl rfl
  · have hLast : after (earlier.concat action) = act (after earlier) action := by
      rw [after, List.concat_eq_append, List.foldl_append]
      rfl
    rw [hLast]
    cases action with
    | put tokens now => exact Or.inr ⟨tokens, now, by simp, rfl⟩
    | clear => exact Or.inl rfl

theorem user?_put (tokens : Tokens) (storedAt : Binary64) :
    (put tokens storedAt).user?.map (fun user => (user.map (·.expiry)).getD .null) =
      tokens.expiryClaim := by
  rw [user?, tokens?_put, Option.bind_some, Tokens.expiryClaim]
  cases tokens.idToken with
  | none => rfl
  | some token =>
      by_cases hEmpty : token = ""
      · subst hEmpty
        rw [Option.map_some, IdToken.claims_empty]
        rfl
      · have hKept : (some token).filter (· ≠ "") = some token := by simp [hEmpty]
        rw [hKept, Option.map_some]
        dsimp only
        rcases IdToken.claims token with (_ | inObject) | claims
        · rfl
        · rfl
        · rfl

/-- Whether tokens are still valid by their expiry claim, or by their lifetime without one. -/
def withinExpiry (holding : Holding) (now : Binary64) (claim : Json) : Outcome Bool :=
  match claim with
  | .null => withinLifetime holding now
  | claim =>
      match IdToken.Expiry.ofJson claim with
      | .moment time => .ok (now.lt time)
      | .unusable => .ok false
      | .beyondDouble => .halt .beyondDouble

theorem hasSession_put {tokens : Tokens} (h : tokens.usableToken?.isSome = true)
    (storedAt now : Binary64) :
    (put tokens storedAt).hasSession now =
      tokens.expiryClaim >>= withinExpiry ⟨tokens, storedAt⟩ now := by
  have hHeld : (put tokens storedAt).held = some ⟨tokens, storedAt⟩ := rfl
  rw [← user?_put tokens storedAt, hasSession, hHeld]
  dsimp only
  rw [if_neg (by simpa [Option.isSome_iff_ne_none] using h)]
  rcases (put tokens storedAt).user? with interruption | _ | user
  · rfl
  · rfl
  · obtain ⟨userId, username, email, expiry⟩ := user
    cases expiry with
    | null => rfl
    | bool value => rfl
    | int value => rfl
    | float value => rfl
    | text value => rfl
    | array items => rfl
    | object members => rfl

theorem exists_withinLifetime_iff (holding : Holding) (now : Binary64) :
    (∃ current, withinLifetime holding now = .ok current) ↔
      ¬∃ seconds, holding.tokens.expiresIn = some seconds ∧ Binary64.limit ≤ seconds.natAbs := by
  rw [withinLifetime]
  cases holding.tokens.expiresIn with
  | none => exact iff_of_true ⟨true, rfl⟩ (by simp)
  | some seconds =>
      dsimp only
      cases hLifetime : Binary64.ofInt? seconds with
      | some lifetime =>
          have hNear := (not_congr Binary64.ofInt?_eq_none_iff).mp (by rw [hLifetime]; nofun)
          exact iff_of_true ⟨_, rfl⟩ (by simpa using hNear)
      | none =>
          have hFar := Binary64.ofInt?_eq_none_iff.mp hLifetime
          exact iff_of_false nofun (by simpa using hFar)

theorem exists_withinExpiry_iff {holding : Holding} {claim : Json} (now : Binary64)
    (hClaim : holding.tokens.expiryClaim = .ok claim) :
    (∃ current, withinExpiry holding now claim = .ok current) ↔ ¬holding.tokens.Unprobeable := by
  rw [holding.tokens.unprobeable_iff hClaim]
  by_cases hNull : claim = .null
  · subst hNull
    have hLifetime := exists_withinLifetime_iff holding now
    simpa [withinExpiry] using hLifetime
  · have hJudged : withinExpiry holding now claim =
        match IdToken.Expiry.ofJson claim with
        | .moment time => .ok (now.lt time)
        | .unusable => .ok false
        | .beyondDouble => .halt .beyondDouble := by
      cases claim with
      | null => exact absurd rfl hNull
      | _ => rfl
    have hFar : IdToken.Expiry.ofJson claim = .beyondDouble ↔
        ∃ value, claim = .int value ∧ Binary64.limit ≤ value.natAbs :=
      IdToken.Expiry.ofJson_eq_beyondDouble
    rw [hJudged]
    simp only [hNull, false_and, or_false, ← hFar]
    cases IdToken.Expiry.ofJson claim with
    | moment time => simp
    | unusable => simp
    | beyondDouble => simp [Outcome.halt]

/-- A probe gives an answer exactly when the tokens do not stand in the way of one. -/
theorem exists_hasSession_iff (store : Store) (now : Binary64) :
    (∃ current, store.hasSession now = .ok current) ↔ ¬store.Unprobeable := by
  obtain ⟨_ | ⟨tokens, storedAt⟩⟩ := store
  · exact iff_of_true ⟨false, rfl⟩ nofun
  by_cases hUsable : tokens.usableToken?.isSome = true
  · have hHere : (put tokens storedAt).Unprobeable ↔ tokens.Unprobeable := by
      simp [Unprobeable, hUsable]
    have hProbe := hasSession_put hUsable storedAt now
    change (∃ current, (put tokens storedAt).hasSession now = .ok current) ↔
      ¬(put tokens storedAt).Unprobeable
    rw [hHere, hProbe]
    cases hClaim : tokens.expiryClaim with
    | ok claim => exact exists_withinExpiry_iff now hClaim
    | error interruption =>
        exact iff_of_false (fun ⟨_, hCurrent⟩ => nomatch hCurrent) (not_not_intro (.nesting hClaim))
  · have hNone : tokens.usableToken?.isNone = true := by simpa using hUsable
    refine iff_of_true ⟨false, if_pos hNone⟩ ?_
    rintro ⟨tokens, ⟨⟩, hSome, -⟩
    exact hUsable hSome

/-- Tokens whose expiry claim is no number make no session. -/
theorem hasSession_of_noNumber {store : Store} {tokens : Tokens} {claim : Json}
    (hHeld : store.tokens? = some tokens) (hClaim : tokens.expiryClaim = .ok claim)
    (hNoNumber : claim.NoNumber) (now : Binary64) : store.hasSession now = .ok false := by
  obtain ⟨_ | ⟨held, storedAt⟩⟩ := store
  · nomatch hHeld
  obtain rfl : held = tokens := Option.some.inj hHeld
  by_cases hUsable : held.usableToken?.isSome = true
  · refine (hasSession_put hUsable storedAt now).trans ?_
    rw [hClaim, Outcome.ok_bind]
    have hUnusable := IdToken.Expiry.ofJson_of_noNumber hNoNumber
    cases hNoNumber with
    | text => rw [withinExpiry, hUnusable]; nofun
    | array => rfl
    | object => rfl
  · have hNone : held.usableToken?.isNone = true := by simpa using hUsable
    exact if_pos hNone

/-- The access token of a store that can be probed is given, or missed by a failure. -/
theorem latestToken_cases {store : Store} {now : Binary64} {current : Bool}
    (h : store.hasSession now = .ok current) :
    (∃ token, store.latestToken now = .ok token) ∨ store.latestToken now = .fail .notSignedIn := by
  cases current with
  | true =>
      obtain ⟨token, -, -, hLatest⟩ := latestToken_of_hasSession h
      exact Or.inl ⟨token, hLatest⟩
  | false =>
      rw [latestToken, h]
      exact Or.inr rfl

end Store

/-- A pool that reads a store is usable while the store has a session. -/
theorem Providers.isUsable_ofStore {providers : Providers} {store : Store} {now : Binary64}
    (h : providers.userPools = some (.ofStore store now)) :
    providers.isUsable .userPools = store.hasSession now := by
  rw [isUsable, h]
  rfl

namespace Resolver

theorem exists_isUsable {providers : Providers} (h : providers.Probing) (mechanism : Mechanism) :
    ∃ usable, providers.isUsable mechanism = .ok usable := by
  cases mechanism with
  | userPools => exact ⟨_, Providers.isUsable_userPools h⟩
  | apiKey => exact ⟨_, rfl⟩
  | awsIam => exact ⟨_, rfl⟩
  | openIdConnect => exact ⟨_, rfl⟩
  | none => exact ⟨_, rfl⟩
  | default => exact ⟨_, rfl⟩

theorem exists_firstUsable {providers : Providers} (h : providers.Probing)
    (mechanisms : List Mechanism) :
    ∃ mechanism, firstUsable providers mechanisms = .ok mechanism := by
  induction mechanisms with
  | nil => exact ⟨.none, rfl⟩
  | cons first mechanisms ih =>
      obtain ⟨usable, hUsable⟩ := exists_isUsable h first
      rw [firstUsable, hUsable]
      cases usable with
      | true => exact ⟨first, rfl⟩
      | false => exact ih

/-- While the session can be probed, a resolver decides or refuses the request. -/
theorem resolveAndCount_cases {providers : Providers} (h : providers.Probing) (resolver : Resolver)
    (metrics : Collector) (model : String) (argument : OperationArgument) :
    (∃ mechanism, (resolver.resolveAndCount providers metrics model argument).1 = .ok mechanism) ∨
      ∃ failure : Failure, failure.Is .configuration ∧
        (resolver.resolveAndCount providers metrics model argument).1 = .fail failure := by
  have hCandidates : (∃ mechanisms, resolver.candidates model argument = .ok mechanisms) ∨
      resolver.candidates model argument = .error (.unknownModel model argument.shown) := by
    rw [candidates]
    split
    · exact Or.inl ⟨_, rfl⟩
    · split
      · exact Or.inr rfl
      · exact Or.inl ⟨_, rfl⟩
  rw [resolveAndCount, resolve]
  rcases hCandidates with ⟨mechanisms, hMechanisms⟩ | hUnknown
  · obtain ⟨mechanism, hFirst⟩ := exists_firstUsable h mechanisms
    rw [hMechanisms]
    dsimp only
    rw [hFirst]
    exact Or.inl ⟨mechanism, rfl⟩
  · rw [hUnknown]
    exact Or.inr ⟨_, ⟨rfl, rfl⟩, rfl⟩

/-- Where the first candidate cannot be probed, neither can the request be decided. -/
theorem resolveAndCount_of_error {providers : Providers} {resolver : Resolver} {model : String}
    {argument : OperationArgument} {mechanism : Mechanism} {rest : List Mechanism}
    {interruption : Interruption}
    (hCandidates : resolver.candidates model argument = .ok (mechanism :: rest))
    (hUsable : providers.isUsable mechanism = .error interruption) (metrics : Collector) :
    (resolver.resolveAndCount providers metrics model argument).1 = .error interruption := by
  rw [resolveAndCount, resolve, hCandidates]
  dsimp only
  rw [firstUsable, hUsable]

end Resolver

namespace Store

/-- A store that sign ins fill and that is cleared at times is probed in vain only for tokens that
came in and stand in the way; a claim that is no number is none of those. While a probe gives an
answer, the token is given or missed by a failure, and a resolver decides or refuses. -/
theorem hasSession_after (actions : List StoreAction) (now : Binary64) :
    let store := after actions
    ((∃ current, store.hasSession now = .ok current) ↔ ¬store.Unprobeable) ∧
      (store.Unprobeable →
        ∃ tokens storedAt, .put tokens storedAt ∈ actions ∧ tokens.Unprobeable) ∧
      (∀ tokens claim, store.tokens? = some tokens → tokens.expiryClaim = .ok claim →
        claim.NoNumber → store.hasSession now = .ok false) ∧
      (¬store.Unprobeable →
        ((∃ token, store.latestToken now = .ok token) ∨
          store.latestToken now = .fail .notSignedIn) ∧
        ∀ (resolver : Resolver) (providers : Providers) (metrics : Collector) (model : String)
          (argument : OperationArgument), providers.userPools = some (.ofStore store now) →
          let outcome := (resolver.resolveAndCount providers metrics model argument).1
          (∃ mechanism, outcome = .ok mechanism) ∨
            ∃ failure : Failure, failure.Is .configuration ∧ outcome = .fail failure) := by
  intro store
  refine ⟨exists_hasSession_iff store now, ?_, ?_, ?_⟩
  · rintro ⟨tokens, hHeld, -, hUnprobeable⟩
    rcases after_cases actions with hEmpty | ⟨stored, storedAt, hMem, hPut⟩
    · rw [show store = empty from hEmpty] at hHeld
      nomatch hHeld
    · rw [show store = put stored storedAt from hPut, tokens?_put] at hHeld
      obtain rfl := Option.some.inj hHeld
      exact ⟨stored, storedAt, hMem, hUnprobeable⟩
  · intro tokens claim hHeld hClaim hNoNumber
    exact hasSession_of_noNumber hHeld hClaim hNoNumber now
  · intro hProbeable
    obtain ⟨current, hCurrent⟩ := (exists_hasSession_iff store now).mpr hProbeable
    refine ⟨latestToken_cases hCurrent, ?_⟩
    intro resolver providers metrics model argument hPool
    have hProbing : providers.Probing := by
      intro pool hSome
      obtain rfl := Option.some.inj (hPool.symm.trans hSome)
      exact ⟨current, hCurrent⟩
    exact Resolver.resolveAndCount_cases hProbing resolver metrics model argument

/-- Tokens with a claim in words come in after others were dropped: there is no session, and a
resolver still ends as it should. -/
theorem hasSession_after_words :
    let tokens : Tokens := ⟨some "access", some "e30.eyJleHAiOiJzb29uIn0.", none, none, none⟩
    let actions : List StoreAction := [.put tokens (.zero true), .clear, .put tokens (.zero false)]
    let now := Binary64.zero false
    let store := after actions
    let resolver : Resolver := ⟨ResolutionTable.rows ⟨"Todo", [⟨.owner, "", []⟩]⟩, true⟩
    let providers : Providers := ⟨none, none, some (.ofStore store now), none⟩
    let outcome := (resolver.resolveAndCount providers (.start now) "Note" (.member .read)).1
    store.tokens? = some tokens ∧ tokens.expiryClaim = .ok (.text "soon") ∧
      Json.NoNumber (.text "soon") ∧ store.hasSession now = .ok false ∧ ¬store.Unprobeable ∧
      store.latestToken now = .fail .notSignedIn ∧
      ∃ failure : Failure, failure.Is .configuration ∧ outcome = .fail failure := by
  intro tokens actions now store resolver providers outcome
  obtain ⟨hProbe, -, hWords, hEnds⟩ := hasSession_after actions now
  have hClaim : tokens.expiryClaim = .ok (.text "soon") := by
    rw [Tokens.expiryClaim, show tokens.idToken = some _ from rfl, Option.map_some,
      IdToken.claims_words]
    rfl
  have hNoNumber : Json.NoNumber (.text "soon") := .text (by decide)
  have hNone := hWords tokens _ rfl hClaim hNoNumber
  have hProbeable := hProbe.mp ⟨false, hNone⟩
  obtain ⟨hLatest, hResolver⟩ := hEnds hProbeable
  refine ⟨rfl, hClaim, hNoNumber, hNone, hProbeable, ?_, ?_⟩
  · rw [latestToken, hNone]
    rfl
  · rcases hResolver resolver providers (.start now) "Note" (.member .read) rfl with
      ⟨mechanism, hDecided⟩ | hRefused
    · cases hDecided
    · exact hRefused

/-- An expiry claim may be too large for a double. Then the probe breaks off, and so do the
question for a token and a resolution. -/
theorem hasSession_far_expiry :
    let tokens : Tokens := ⟨some "access", some IdToken.farToken, none, none, none⟩
    let now := Binary64.zero false
    let store := after [.put tokens now]
    let resolver : Resolver := ⟨ResolutionTable.rows ⟨"Todo", [⟨.owner, "", []⟩]⟩, false⟩
    let providers : Providers := ⟨none, none, some (.ofStore store now), none⟩
    let outcome := (resolver.resolveAndCount providers (.start now) "Todo" (.member .read)).1
    store.hasSession now = .halt .beyondDouble ∧ store.latestToken now = .halt .beyondDouble ∧
      outcome = .halt .beyondDouble := by
  intro tokens now store resolver providers outcome
  have hClaim : tokens.expiryClaim = .ok (.int (10 ^ 309)) := by
    rw [Tokens.expiryClaim, show tokens.idToken = some _ from rfl, Option.map_some,
      IdToken.claims_farToken]
    rfl
  have hTime : IdToken.Expiry.ofJson (.int (10 ^ 309)) = .beyondDouble :=
    IdToken.Expiry.ofJson_eq_beyondDouble.mpr ⟨_, rfl, by decide +kernel⟩
  have hSession : store.hasSession now = .halt .beyondDouble := by
    have hToken : tokens.usableToken?.isSome = true := by decide
    refine (hasSession_put hToken now now).trans ?_
    rw [hClaim, Outcome.ok_bind, withinExpiry, hTime]
    nofun
  have hUsable : providers.isUsable .userPools = .halt .beyondDouble :=
    (Providers.isUsable_ofStore rfl).trans hSession
  have hCandidates : resolver.candidates "Todo" (.member .read) = .ok [.userPools] := rfl
  refine ⟨hSession, ?_, Resolver.resolveAndCount_of_error hCandidates hUsable _⟩
  rw [latestToken, hSession, Outcome.halt_bind]

end Store
end ClientAuth

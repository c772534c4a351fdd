import ClientAuth.Authorization.Decorator
import ClientAuth.Proofs.Course
import ClientAuth.Proofs.Resolution
import ClientAuth.Proofs.Signable

/-! Decoration after resolution. What a resolver chooses is usable, and what is usable can be
decorated with. Main statement: `resolved_serves`, for all models with distinct names, all providers
around a store in any state and all settings with a mechanism for requests that ask for none. -/
namespace ClientAuth

open Text (IsAscii)

/-- A request that another one was made into by giving one header one value. -/
structure ApiRequest.Carries (name value : String) (before after : ApiRequest) : Prop where
  method : after.method = before.method
  url : after.url = before.url
  body : after.body = before.body
  header : after.headers.filter (·.1 = name) = [(name, value)]
  others : after.headers.erase name = before.headers.erase name

theorem Decorator.withHeader_carries {value : String} (h : IsAscii value) (name : String)
    (before : ApiRequest) :
    ∃ after, withHeader name value before = .ok after ∧
      ApiRequest.Carries name value before after := by
  refine ⟨{ before with headers := before.headers.set name value }, ?_, rfl, rfl, rfl, ?_, ?_⟩
  · exact if_pos (HeaderEncoding.holds_of_isAscii _ h)
  · exact Headers.filter_set _
  · exact Headers.erase_set _

/-- A session has a token that is not empty, which is the one that decorators get. -/
theorem Store.latestToken_of_hasSession {store : Store} {now : Binary64}
    (h : store.hasSession now = .ok true) :
    ∃ token, store.accessToken? = some token ∧ token ≠ "" ∧
      store.latestToken now = .ok token := by
  have hLatest : store.latestToken now = Outcome.orFail .notSignedIn store.accessToken? := by
    rw [latestToken, h]
    rfl
  obtain ⟨held⟩ := store
  rw [hasSession] at h
  cases held with
  | none => nomatch h
  | some holding =>
      dsimp only at h
      split at h
      next => nomatch h
      next hUsable =>
        have hSome : holding.tokens.usableToken?.isSome = true := by
          simpa [Option.isSome_iff_ne_none] using hUsable
        obtain ⟨token, hToken, hFull⟩ := holding.tokens.isSome_usableToken?.mp hSome
        have hAccess : (⟨some holding⟩ : Store).accessToken? = some token := hToken
        exact ⟨token, hAccess, hFull, by rw [hLatest, hAccess, Outcome.orFail_some]⟩

namespace Resolver

/-- The first usable mechanism is a usable candidate, unless there is none. -/
theorem usable_of_firstUsable {providers : Providers} {mechanisms : List Mechanism}
    {mechanism : Mechanism} (h : firstUsable providers mechanisms = .ok mechanism) :
    mechanism = .none ∨
      mechanism ∈ mechanisms ∧ providers.isUsable mechanism = .ok true := by
  induction mechanisms with
  | nil => exact Or.inl (Except.ok.inj h).symm
  | cons first mechanisms ih =>
      rw [firstUsable] at h
      split at h
      next hUsable =>
        obtain rfl := Except.ok.inj h
        exact Or.inr ⟨List.mem_cons_self, hUsable⟩
      next =>
        exact (ih h).imp_right (And.imp_left (List.mem_cons_of_mem first))
      next => cases h

/-- What a resolver of models chooses is usable, unless it chooses nothing. -/
theorem usable_of_resolve {schemas : List ModelSchema} {strict : Bool} {providers : Providers}
    {model : String} {argument : OperationArgument} {mechanism : Mechanism}
    (h : resolve ⟨schemas.flatMap ResolutionTable.rows, strict⟩ providers model argument =
      .ok mechanism) :
    mechanism = .none ∨
      mechanism ∈ [.userPools, .awsIam, .apiKey, .none] ∧
        providers.isUsable mechanism = .ok true := by
  rw [resolve, candidates] at h
  cases hKnown : argument.operation?.bind
      (ResolutionTable.lookup? (schemas.flatMap ResolutionTable.rows) model) with
  | none =>
      rw [hKnown] at h
      cases strict with
      | true => cases h
      | false => exact Or.inl (Except.ok.inj h).symm
  | some mechanisms =>
      rw [hKnown] at h
      obtain ⟨operation, -, hLookup⟩ := Option.bind_eq_some_iff.mp hKnown
      rw [ResolutionTable.lookup?_flatMap_rows] at hLookup
      obtain ⟨schema, -, rfl⟩ := Option.map_eq_some_iff.mp hLookup
      exact (usable_of_firstUsable h).imp_right (And.imp_left mem_mechanismSequence)

end Resolver

/-- A decorator does what its mechanism is for. It puts the stored token or the key into a request
and leaves the rest as it is, or it signs, or it does nothing. It never acts for a mechanism that
resolvers do not choose. -/
def Decorator.Serves (decorator : Decorator) (providers : Providers) (store : Option Store)
    (scope : Scope) : Mechanism → Prop
  | .userPools => ∃ held token, store = some held ∧ held.accessToken? = some token ∧ token ≠ "" ∧
      (IsAscii token → ∀ now before, ∃ after, decorator.decorate providers now before = .ok after ∧
        ApiRequest.Carries "authorization" token before after)
  | .apiKey => ∃ key, providers.apiKey = some key ∧
      (IsAscii key → ∀ now before, ∃ after, decorator.decorate providers now before = .ok after ∧
        ApiRequest.Carries "x-api-key" key before after)
  | .awsIam => ∃ credentials, providers.aws = some credentials ∧ ∀ now before,
      (∀ after, decorator.decorate providers now before = .ok after →
        ∃ time value, CivilTime.ofSeconds? now = some time ∧
          Signature.IsClaim credentials.accessKey scope time value ∧
          before.headerEncoding.holds value = true ∧
          after.headers.filter (·.1 = "authorization") = [("authorization", value)]) ∧
      (Signature.Signable credentials scope now before →
        ∃ after, decorator.decorate providers now before = .ok after)
  | .none => ∀ now before, decorator.decorate providers now before = .ok before
  | .openIdConnect | .default => False

namespace DecoratorFactory

variable {schemas : List ModelSchema} {settings : Settings}

/-- A usable mechanism has a decorator that serves it, wherever other credentials could be had. -/
theorem exists_serving (factory : DecoratorFactory) {apiKey oidc : Option String}
    {aws : Option AwsCredentials} {store : Option Store} {now : Binary64} {mechanism : Mechanism}
    (hChosen : mechanism ∈ [.userPools, .awsIam, .apiKey, .none])
    (hUsable : mechanism = .none ∨
      Providers.isUsable ⟨apiKey, aws, store.map (PoolProvider.ofStore · now), oidc⟩ mechanism =
        .ok true) :
    let providers : Providers := ⟨apiKey, aws, store.map (PoolProvider.ofStore · now), oidc⟩
    ∃ decorator, (∀ surrounding,
        factory.decoratorFor providers surrounding mechanism = .ok decorator) ∧
      decorator.Serves providers store factory.scope mechanism := by
  intro providers
  cases mechanism with
  | userPools =>
      cases store with
      | none => exact hUsable.elim nofun nofun
      | some held =>
          have hSession : held.hasSession now = .ok true := hUsable.resolve_left nofun
          obtain ⟨token, hToken, hFull, hLatest⟩ := Store.latestToken_of_hasSession hSession
          refine ⟨.token token, fun surrounding => ?_, held, token, rfl, hToken, hFull,
            fun hAscii _ before => Decorator.withHeader_carries hAscii _ before⟩
          change (held.latestToken now).map Decorator.token = _
          rw [hLatest]
          rfl
  | awsIam =>
      cases aws with
      | none => exact hUsable.elim nofun nofun
      | some credentials =>
          exact ⟨.signature credentials factory.scope, fun _ => rfl, credentials, rfl,
            fun _ _ => ⟨fun _ => Signature.authorization_of_apply,
              Signature.Signable.exists_apply⟩⟩
  | apiKey =>
      cases apiKey with
      | none => exact hUsable.elim nofun nofun
      | some key =>
          exact ⟨.providedKey, fun _ => rfl, key, rfl,
            fun hAscii _ before => Decorator.withHeader_carries hAscii _ before⟩
  | none => exact ⟨.nothing, fun _ => rfl, fun _ _ => rfl⟩
  | openIdConnect => exact absurd hChosen (by decide)
  | default => exact absurd hChosen (by decide)

/-- What a resolver chooses can be done: the decorator is there without other credentials, and
serves the mechanism. -/
theorem resolved_serves (hNames : (schemas.map (·.name)).Nodup)
    (hDefault : (Mechanism.ofName? settings.defaultMechanism).isSome = true) (strict : Bool)
    (apiKey oidc : Option String) (aws : Option AwsCredentials) (store : Option Store)
    (now : Binary64) (preset : Option Mechanism) (region key service : Option String) :
    let providers : Providers := ⟨apiKey, aws, store.map (PoolProvider.ofStore · now), oidc⟩
    ∃ resolver factory, Resolver.create schemas strict = .ok resolver ∧
      create preset region key service settings = .ok factory ∧
      ∀ metrics model argument mechanism,
        (resolver.resolveAndCount providers metrics model argument).1 = .ok mechanism →
          ∃ decorator, (∀ surrounding,
              factory.decoratorFor providers surrounding mechanism = .ok decorator ∧
              factory.decoratorForRequest providers surrounding (some mechanism) =
                .ok decorator) ∧
            decorator.Serves providers store factory.scope mechanism := by
  intro providers
  have hResolver : Resolver.create schemas strict =
      .ok ⟨schemas.flatMap ResolutionTable.rows, strict⟩ := by
    rw [Resolver.create, ResolutionTable.build_of_nodup hNames]
    rfl
  obtain ⟨mechanism, hMechanism⟩ := Option.isSome_iff_exists.mp hDefault
  obtain ⟨factory, hFactory⟩ : ∃ factory, create preset region key service settings =
      .ok factory := by
    rw [create.eq_def, Mechanism.ofName, hMechanism]
    cases preset with
    | none => exact ⟨_, rfl⟩
    | some preset => exact ⟨_, rfl⟩
  refine ⟨_, factory, hResolver, hFactory, ?_⟩
  intro metrics model argument mechanism hDecision
  have hResolve : Resolver.resolve ⟨schemas.flatMap ResolutionTable.rows, strict⟩ providers model
      argument = .ok mechanism := by
    rw [Resolver.resolveAndCount] at hDecision
    split at hDecision
    next chosen hChosen => exact hChosen.trans hDecision
    next => cases hDecision
  have hUsable := Resolver.usable_of_resolve hResolve
  have hChosen : mechanism ∈ [.userPools, .awsIam, .apiKey, .none] := by
    rcases hUsable with rfl | ⟨hMem, -⟩
    · decide
    · exact hMem
  obtain ⟨decorator, hDecorator, hServes⟩ :=
    factory.exists_serving hChosen (hUsable.imp_right And.right)
  exact ⟨decorator, fun surrounding => ⟨hDecorator surrounding, hDecorator surrounding⟩, hServes⟩

/-- A note is signed for and a to-do item is its owner's. -/
theorem resolved_serves_both :
    let schemas : List ModelSchema :=
      [⟨"Note", [⟨.private, "", []⟩]⟩, ⟨"Todo", [⟨.owner, "", [.read]⟩]⟩]
    let now := Binary64.ofRatio false 1791097509 1
    let store : Store := .put ⟨some "token", none, none, none, none⟩ now
    let providers : Providers :=
      ⟨none, some ⟨"access", "secret", none⟩, some (.ofStore store now), none⟩
    let url : Url := ⟨"https", "", "api.example.com", none, "/graphql", none, none⟩
    let before : ApiRequest := ⟨"POST", url, [("date", "today")], [], none⟩
    (schemas.map (·.name)).Nodup ∧
      ∃ settings factory signer carrier, Settings.ofMembers [] = .ok settings ∧
        (Mechanism.ofName? settings.defaultMechanism).isSome = true ∧
        create none none none none settings = .ok factory ∧
        factory.decoratorFor providers (.ok none) .awsIam = .ok signer ∧
        Signature.Signable ⟨"access", "secret", none⟩ factory.scope now before ∧
        (∃ after, signer.decorate providers now before = .ok after) ∧
        factory.decoratorFor providers (.ok none) .userPools = .ok carrier ∧
        ∃ after, carrier.decorate providers now before = .ok after ∧
          ApiRequest.Carries "authorization" "token" before after := by
  intro schemas now store providers url before
  have hNames : (schemas.map (·.name)).Nodup := by decide
  obtain ⟨settings, hSettings, hDefault, hScope⟩ : ∃ settings,
      Settings.ofMembers [] = .ok settings ∧
      (Mechanism.ofName? settings.defaultMechanism).isSome = true ∧
      settings.region = "us-east-1" ∧ settings.serviceName = "appsync" :=
    ⟨_, rfl, by decide, rfl, rfl⟩
  obtain ⟨resolver, factory, hResolver, hFactory, hServes⟩ :=
    resolved_serves hNames hDefault false none none (some ⟨"access", "secret", none⟩) (some store)
      now none none none none
  obtain rfl := Except.ok.inj hResolver
  obtain ⟨signer, hSigner, hSigns⟩ :=
    hServes (Collector.start now) "Note" (.member .create) .awsIam rfl
  obtain ⟨carrier, hCarrier, hCarries⟩ :=
    hServes (Collector.start now) "Todo" (.member .read) .userPools rfl
  obtain ⟨credentials, hCredentials, hSigning⟩ := hSigns
  obtain rfl := Option.some.inj hCredentials
  obtain ⟨held, token, hHeld, hToken, -, hCarrying⟩ := hCarries
  obtain rfl := Option.some.inj hHeld
  obtain rfl : "token" = token := Option.some.inj hToken
  have hFactoryScope : factory.scope = ⟨"us-east-1", "appsync"⟩ := by
    obtain ⟨mechanism, -, hParts⟩ := Outcome.bind_eq_ok.mp hFactory
    obtain rfl := Except.ok.inj hParts
    exact congrArg₂ Scope.mk hScope.1 hScope.2
  have hTime : CivilTime.ofSeconds? (.ofRatio false 1791097509 1) =
      some ⟨⟨2026, 10, 4⟩, 7, 5, 9⟩ := by
    decide +kernel
  have hPlace : UrlPlace.ofRaw (Url.Raw.ofText "https://api.example.com/graphql".toList) =
      .ok ⟨"https".toList, some "api.example.com".toList, none⟩ := rfl
  have hText : url.text = "https://api.example.com/graphql" := by decide +kernel
  have hSignable : Signature.Signable ⟨"access", "secret", none⟩ factory.scope now before := by
    rw [hFactoryScope]
    exact
      { clock := ⟨_, hTime, fun _ => Signature.dateReadable_of_year hTime (by decide)⟩
        place := ⟨_, by rw [hText]; exact hPlace, Or.inr ⟨"api.example.com", rfl, by decide⟩⟩
        method := by decide
        url := by rw [hText]; decide
        headers := by decide
        accessKey := by decide
        secretKey := by decide
        token := nofun
        region := by decide
        service := by decide }
  exact ⟨hNames, settings, factory, signer, carrier, hSettings, hDefault, hFactory,
    (hSigner (.ok none)).1, hSignable, (hSigning now before).2 hSignable, (hCarrier (.ok none)).1,
    hCarrying (by decide) now before⟩

/-- A region beyond ASCII: requests are to be signed, and none can be as long as its headers are in
ASCII. A new request cannot be, whatever it was made from. -/
theorem far_region_unsigned :
    let schema : ModelSchema := ⟨"Note", [⟨.private, "", []⟩]⟩
    let providers : Providers := ⟨none, some ⟨"access", "secret", none⟩, none, none⟩
    let metrics := Collector.start (.zero false)
    ∃ settings resolver factory decorator,
      Settings.ofMembers [("AWS_REGION", .text "é")] = .ok settings ∧
      Resolver.create [schema] false = .ok resolver ∧
      create none none none none settings = .ok factory ∧
      (resolver.resolveAndCount providers metrics "Note" (.member .read)).1 = .ok .awsIam ∧
      (∀ surrounding, factory.decoratorFor providers surrounding .awsIam = .ok decorator) ∧
      (∀ now before, before.headerEncoding = .ascii → ∀ after,
        decorator.decorate providers now before ≠ .ok after) ∧
      ∀ now method url headers body before,
        ApiRequest.create method url headers body = .ok before → ∀ after,
          decorator.decorate providers now before ≠ .ok after := by
  intro schema providers metrics
  have hUnsigned (now : Binary64) (before : ApiRequest) (hEncoding : before.headerEncoding = .ascii)
      (after : ApiRequest) :
      Signature.apply ⟨"access", "secret", none⟩ ⟨"é", "appsync"⟩ now before ≠ .ok after := by
    intro h
    obtain ⟨time, value, -, hClaim, hHolds, -⟩ := Signature.authorization_of_apply h
    rw [hEncoding] at hHolds
    exact absurd (hClaim.isAscii hHolds).2.1 (by decide)
  refine ⟨_, _, _, _, rfl, rfl, rfl, rfl, fun _ => rfl, hUnsigned, ?_⟩
  intro now method url headers body before hNew
  exact hUnsigned now before (ApiRequest.create_allAscii hNew).2

end DecoratorFactory
end ClientAuth

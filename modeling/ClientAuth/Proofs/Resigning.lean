import ClientAuth.Proofs.HeaderReplacement
import ClientAuth.Proofs.SignatureCheck

/-! Requests that are signed again. A signing reads nothing of what an older one has put into the
request, and sets all of it anew. Main statement: `signed_again`, for all requests, all times and
all credentials of which the newer ones have a token or the older ones have none. -/
namespace ClientAuth

/-- Whether credentials are those of a session, with a token of their own. -/
def AwsCredentials.hasToken (credentials : AwsCredentials) : Bool :=
  (credentials.token.filter (· ≠ "")).isSome

namespace Signature

variable {credentials first second : AwsCredentials} {scope : Scope} {now : Binary64}
  {time : CivilTime} {request prepared signed : ApiRequest} {headers dated carried : Headers}
  {name value : String}

/-- Merged headers made ready for signing. -/
def readyHeaders (credentials : AwsCredentials) (time : CivilTime) (headers : Headers) :
    Outcome Headers := do
  return withToken credentials (← datedHeaders time (headers.erase "authorization"))

theorem prepare_eq_ready (credentials : AwsCredentials) (time : CivilTime) (request : ApiRequest) :
    prepare credentials time request = (do
      return { request with
        headers := ← readyHeaders credentials time request.headers.merged }) := by
  rw [prepare_eq, readyHeaders, bind_assoc]
  rfl

theorem erase_put {other : String} (h : name ≠ other) (headers : Headers) (value : String) :
    Headers.erase (headers.erase other ++ [(other, value)]) name =
      (headers.erase name).erase other ++ [(other, value)] := by
  rw [Headers.erase_append, Headers.erase_comm, Headers.erase_cons_ne h.symm]
  rfl

/-- A header that does not tell the time can be dropped before or after the time is set. -/
theorem datedHeaders_erase (hDate : name ≠ "date") (hStamp : name ≠ "x-amz-date")
    (time : CivilTime) (headers : Headers) :
    datedHeaders time (headers.erase name) =
      (do return (← datedHeaders time headers).erase name) := by
  have hHas : (headers.erase name).has "date" = headers.has "date" :=
    Headers.has_of_filter (Headers.filter_erase_ne hDate.symm headers)
  rw [datedHeaders, datedHeaders, hHas]
  split
  · cases dateHeader time with
    | error interruption => rfl
    | ok date =>
        simp only [Outcome.ok_bind, Outcome.pure_eq, Except.ok.injEq]
        rw [Headers.erase_comm (_ ++ _), erase_put hDate]
  · simp only [Outcome.ok_bind, Outcome.pure_eq, Except.ok.injEq]
    rw [erase_put hStamp]

/-- An old time of signing is not looked at. -/
theorem datedHeaders_set (time : CivilTime) (value : String) (headers : Headers) :
    datedHeaders time (headers.set "x-amz-date" value) = datedHeaders time headers := by
  have hHas : (headers.set "x-amz-date" value).has "date" = headers.has "date" :=
    Headers.has_of_filter (Headers.filter_set_ne (by decide) headers)
  rw [datedHeaders, datedHeaders, hHas, Headers.erase_set]
  split
  · simp only [Headers.erase_set_ne (show "date" ≠ "x-amz-date" by decide), Headers.erase_append,
      Headers.erase_set]
  · rfl

/-- A signing gives a header a value of its own, and does not look at the one it has. -/
def Replaces (credentials : AwsCredentials) (name : String) : Prop :=
  name = "authorization" ∨ name = "x-amz-date" ∨
    name = "x-amz-security-token" ∧ credentials.hasToken = true

theorem readyHeaders_set (h : Replaces credentials name) (time : CivilTime) (value : String)
    (headers : Headers) :
    readyHeaders credentials time (headers.set name value) =
      readyHeaders credentials time headers := by
  rcases h with rfl | rfl | ⟨rfl, hToken⟩
  · rw [readyHeaders, readyHeaders, Headers.erase_set]
  · rw [readyHeaders, readyHeaders, Headers.erase_set_ne (by decide), datedHeaders_set]
  · obtain ⟨token, hToken⟩ := Option.isSome_iff_exists.mp hToken
    -- The token is put behind all headers, once an older one is dropped.
    have hReady (headers : Headers) : readyHeaders credentials time headers = (do
        let dated ← datedHeaders time ((headers.erase "x-amz-security-token").erase "authorization")
        return dated ++ [("x-amz-security-token", token)]) := by
      rw [Headers.erase_comm, datedHeaders_erase (by decide) (by decide), bind_assoc, readyHeaders]
      simp only [withToken, hToken, Outcome.pure_eq, Outcome.ok_bind]
    rw [hReady, hReady, Headers.erase_set]

/-- Headers that are replaced, or set to what they are, make no difference to a signing. -/
theorem readyHeaders_setAll {entries : Headers} (hNodup : (entries.map (·.1)).Nodup)
    (h : ∀ entry ∈ entries,
      Replaces credentials entry.1 ∨ headers.filter (·.1 = entry.1) = [entry])
    (time : CivilTime) :
    readyHeaders credentials time (Headers.setAll entries headers) =
      readyHeaders credentials time headers := by
  induction entries generalizing headers with
  | nil => rfl
  | cons entry entries ih =>
      obtain ⟨hNew, hNodup⟩ := List.nodup_cons.mp hNodup
      rw [Headers.setAll_cons, ih hNodup]
      · rcases h entry List.mem_cons_self with hReplaced | hSame
        · exact readyHeaders_set hReplaced time entry.2 headers
        · rw [Headers.set_eq_self hSame]
      · intro other hMem
        have hOther : other.1 ≠ entry.1 := by
          intro hSame
          exact hNew (List.mem_map.mpr ⟨other, hMem, hSame⟩)
        rw [Headers.filter_set_ne hOther]
        exact h other (List.mem_cons_of_mem _ hMem)

/-- What a signature puts into the request. -/
def carriedFrom (signed : Headers) (names : List String) : Headers :=
  names.filterMap fun name => (signed.joined? name).map (name, ·)

/-- Headers are carried back one by one, and the first that cannot be written ends it. -/
theorem carry_eq (encoding : HeaderEncoding) (signed : Headers) (names : List String)
    (headers : Headers) :
    carry encoding signed names headers =
      match (carriedFrom signed names).find? fun entry => !encoding.holds entry.2 with
      | none => .ok (Headers.setAll (carriedFrom signed names) headers)
      | some entry => .halt (encoding.fault entry.2) := by
  induction names generalizing headers with
  | nil => rfl
  | cons name names ih =>
      rw [carry]
      cases hValue : signed.joined? name with
      | none =>
          have hSkip : carriedFrom signed (name :: names) = carriedFrom signed names :=
            List.filterMap_cons_none (by rw [hValue]; rfl)
          rw [hSkip, ← ih]
      | some value =>
          have hTake : carriedFrom signed (name :: names) =
              (name, value) :: carriedFrom signed names :=
            List.filterMap_cons_some (by rw [hValue]; rfl)
          rw [hTake, List.find?_cons, Headers.setAll_cons]
          dsimp only
          cases hHolds : encoding.holds value with
          | false => rfl
          | true => rw [if_pos rfl, ih]; rfl

theorem eq_setAll_of_carry {encoding : HeaderEncoding} {signed : Headers} {names : List String}
    (h : carry encoding signed names headers = .ok carried) :
    carried = Headers.setAll (carriedFrom signed names) headers := by
  rw [carry_eq] at h
  split at h
  · exact (Except.ok.inj h).symm
  · cases h

theorem mem_carriedFrom {signed : Headers} {names : List String} :
    (name, value) ∈ carriedFrom signed names ↔ name ∈ names ∧ signed.joined? name = some value := by
  simp [carriedFrom]

theorem map_fst_carriedFrom (signed : Headers) (names : List String) :
    (carriedFrom signed names).map (·.1) = names.filter signed.has := by
  have hHas (name : String) : signed.has name = (signed.joined? name).isSome := by
    cases hValue : signed.joined? name with
    | none =>
        rw [Headers.joined?_eq, Headers.valueOf?_eq_none] at hValue
        exact hValue
    | some value => exact Headers.has_of_joined? hValue
  rw [carriedFrom, List.map_filterMap, ← List.filterMap_eq_filter]
  refine List.filterMap_congr fun name _ => ?_
  cases hValue : signed.joined? name <;> simp [Option.guard, hHas, hValue]

/-- The headers that a signing puts into a request: its claim, its time unless a header for dates
has it, and a token if there is one. -/
def carriedNames (credentials : AwsCredentials) (headers : Headers) : List String :=
  ["authorization"] ++ (if headers.has "date" then [] else ["x-amz-date"]) ++
    if credentials.hasToken || headers.has "x-amz-security-token" then ["x-amz-security-token"]
    else []

theorem has_stamp (h : datedHeaders time headers = .ok dated) :
    dated.has "x-amz-date" = !headers.has "date" := by
  rw [datedHeaders] at h
  split at h
  next hDate =>
    obtain ⟨date, -, h⟩ := Outcome.bind_eq_ok.mp h
    obtain rfl := Except.ok.inj h
    rw [Headers.has_erase_self, hDate]
    rfl
  next hDate =>
    obtain rfl := Except.ok.inj h
    rw [Bool.not_eq_true] at hDate
    rw [hDate]
    simp [Headers.has]

theorem has_token (credentials : AwsCredentials) (headers : Headers) :
    (withToken credentials headers).has "x-amz-security-token" =
      (credentials.hasToken || headers.has "x-amz-security-token") := by
  rw [withToken, AwsCredentials.hasToken]
  cases credentials.token.filter (· ≠ "") with
  | none => rfl
  | some token => simp [Headers.has]

theorem map_fst_carried
    (h : datedHeaders time (headers.merged.erase "authorization") = .ok dated)
    (credentials : AwsCredentials) (value : String) :
    (carriedFrom (withToken credentials dated ++ [("authorization", value)]) carriedHeaders).map
        (·.1) = carriedNames credentials headers := by
  let signed := withToken credentials dated ++ [("authorization", value)]
  have hOther {name : String} (hName : name ≠ "authorization") :
      Headers.has signed name = Headers.has (withToken credentials dated) name := by
    simp [signed, Headers.has, hName.symm]
  have hOwn : Headers.has signed "authorization" = true := by simp [signed, Headers.has]
  have hStamp : Headers.has signed "x-amz-date" = !headers.has "date" := by
    rw [hOther (by decide), Headers.has_of_filter (filter_withToken (by decide) credentials dated),
      has_stamp h, has_erase_merged (by decide)]
  have hToken : Headers.has signed "x-amz-security-token" =
      (credentials.hasToken || headers.has "x-amz-security-token") := by
    rw [hOther (by decide), has_token,
      Headers.has_of_filter (filter_datedHeaders (by decide) (by decide) h),
      has_erase_merged (by decide)]
  change (carriedFrom signed carriedHeaders).map (·.1) = _
  rw [map_fst_carriedFrom, carriedHeaders, carriedNames]
  simp only [List.filter_cons, List.filter_nil, hOwn, hStamp, hToken]
  cases headers.has "date" <;>
    cases credentials.hasToken || headers.has "x-amz-security-token" <;> rfl

/-- Newer credentials leave no header of an older signing in place, and add their own behind it. -/
theorem carriedNames_prefix (h : second.hasToken = true ∨ first.hasToken = false)
    (headers : Headers) : carriedNames first headers <+: carriedNames second headers := by
  refine (List.prefix_append_right_inj _).mpr ?_
  rcases h with hSecond | hFirst
  · rw [hSecond]
    split
    · exact List.prefix_refl _
    · exact List.nil_prefix
  · rw [hFirst, Bool.false_or]
    cases second.hasToken with
    | false => exact List.prefix_refl _
    | true =>
        split
        · exact List.prefix_refl _
        · exact List.nil_prefix

theorem carriedNames_nodup (credentials : AwsCredentials) (headers : Headers) :
    (carriedNames credentials headers).Nodup := by
  rw [carriedNames]
  split <;> split <;> decide

/-- What an older signing has put into a request is replaced by a newer one, or is what the request
had before. -/
theorem replaces_of_carried (h : second.hasToken = true ∨ first.hasToken = false)
    (hSigning : Signing first scope time request dated carried value)
    {entry : String × String}
    (hMem : entry ∈ carriedFrom (withToken first dated ++ [("authorization", value)])
      carriedHeaders) :
    Replaces second entry.1 ∨ request.headers.merged.filter (·.1 = entry.1) = [entry] := by
  obtain ⟨name, text⟩ := entry
  obtain ⟨hName, hText⟩ := mem_carriedFrom.mp hMem
  simp only [carriedHeaders, List.mem_cons, List.not_mem_nil, or_false] at hName
  rcases hName with rfl | rfl | rfl
  · exact Or.inl (Or.inl rfl)
  · exact Or.inl (Or.inr (Or.inl rfl))
  · rcases h with hSecond | hFirst
    · exact Or.inl (Or.inr (Or.inr ⟨rfl, hSecond⟩))
    · have hNone : first.token.filter (· ≠ "") = none :=
        Option.not_isSome_iff_eq_none.mp (Bool.eq_false_iff.mp hFirst)
      rw [Headers.joined?_append, if_neg (by simp), joined?_withToken, hNone, Option.none_or,
        Headers.joined?_eq, Headers.valueOf?_congr _ (hSigning.filter_dated (by decide)),
        Headers.valueOf?_merged] at hText
      refine Or.inr ?_
      rw [Headers.filter_merged, hText]
      rfl

/-- A signing reads the headers only as far as they are made ready for it, and where its own are to
be put. Their encoding stays the same. -/
theorem apply_congr
    (hReady : ∀ time, readyHeaders credentials time headers.merged =
      readyHeaders credentials time request.headers.merged)
    (hCarry : ∀ time dated value,
      datedHeaders time (request.headers.merged.erase "authorization") = .ok dated →
      carry request.headerEncoding (withToken credentials dated ++ [("authorization", value)])
          carriedHeaders headers =
        carry request.headerEncoding (withToken credentials dated ++ [("authorization", value)])
          carriedHeaders request.headers) :
    apply credentials scope now
        { request with headers := headers, encoding := some request.headerEncoding } =
      apply credentials scope now request := by
  rw [apply, apply]
  split
  · rfl
  cases Outcome.orHalt .outsideCalendar (CivilTime.ofSeconds? now) with
  | error interruption => rfl
  | ok time =>
      rw [Outcome.ok_bind, Outcome.ok_bind, prepare_eq_ready, prepare_eq_ready, hReady,
        readyHeaders]
      cases hDated : datedHeaders time (request.headers.merged.erase "authorization") with
      | error interruption => rfl
      | ok dated =>
          simp only [Outcome.ok_bind, Outcome.pure_eq]
          have hClaim : authorization credentials (Stamp.compact time) scope
              { request with
                headers := withToken credentials dated
                encoding := some request.headerEncoding } =
              authorization credentials (Stamp.compact time) scope
                { request with headers := withToken credentials dated } := rfl
          rw [hClaim]
          cases authorization credentials (Stamp.compact time) scope
              { request with headers := withToken credentials dated } with
          | error interruption => rfl
          | ok value =>
              have hEncoding : ApiRequest.headerEncoding
                  { request with headers := headers, encoding := some request.headerEncoding } =
                    request.headerEncoding := rfl
              simp only [Outcome.ok_bind, hEncoding, hCarry time dated value hDated]

/-- A request that is signed again is signed as if it had not been signed before. -/
theorem apply_again (h : apply first scope now request = .ok signed)
    (hToken : second.hasToken = true ∨ first.hasToken = false) (other : Scope)
    (later : Binary64) : apply second other later signed = apply second other later request := by
  obtain ⟨time, dated, carried, value, -, hSigning, rfl⟩ := exists_signing h
  let entries := carriedFrom (withToken first dated ++ [("authorization", value)]) carriedHeaders
  have hNames : entries.map (·.1) = carriedNames first request.headers :=
    map_fst_carried hSigning.prepared first value
  have hCarried : carried = Headers.setAll entries request.headers :=
    eq_setAll_of_carry hSigning.sent
  refine apply_congr (fun time => ?_) fun time redated revalue hDated => ?_
  · rw [hCarried, Headers.merged_setAll]
    refine readyHeaders_setAll ?_ (fun entry hMem => replaces_of_carried hToken hSigning hMem) time
    rw [hNames]
    exact carriedNames_nodup first request.headers
  · let again :=
      carriedFrom (withToken second redated ++ [("authorization", revalue)]) carriedHeaders
    have hAgain : again.map (·.1) = carriedNames second request.headers :=
      map_fst_carried hDated second revalue
    have hSame : Headers.setAll again carried = Headers.setAll again request.headers := by
      rw [hCarried]
      refine Headers.setAll_setAll ?_ ?_ request.headers
      · rw [hNames, hAgain]
        exact carriedNames_prefix hToken request.headers
      · rw [hAgain]
        exact carriedNames_nodup second request.headers
    rw [carry_eq, carry_eq, hSame]

/-- A signing changes three headers at most, and nothing else of the request. -/
theorem apply_leaves (h : apply credentials scope now request = .ok signed) :
    signed = { request with
        headers := signed.headers, encoding := some request.headerEncoding } ∧
      signed.headers.filter (·.1 ∉ carriedHeaders) =
        request.headers.filter (·.1 ∉ carriedHeaders) := by
  obtain ⟨time, dated, carried, value, -, hSigning, rfl⟩ := exists_signing h
  obtain rfl := eq_setAll_of_carry hSigning.sent
  refine ⟨rfl, Headers.filter_setAll_of_not (fun entry hMem value => ?_) request.headers⟩
  exact decide_eq_false (not_not.mpr (mem_carriedFrom.mp hMem).1)

/-- The one authorization header of a request is a claim that is made with an access key for a
scope, at a number of seconds since the start of 1970. -/
def ClaimedBy (accessKey : String) (scope : Scope) (now : Binary64) (request : ApiRequest) : Prop :=
  ∃ time value, CivilTime.ofSeconds? now = some time ∧ IsClaim accessKey scope time value ∧
    request.headers.filter (·.1 = "authorization") = [("authorization", value)]

theorem claimedBy_of_apply (h : apply credentials scope now request = .ok signed) :
    ClaimedBy credentials.accessKey scope now signed := by
  obtain ⟨time, value, hTime, hClaim, -, hValue⟩ := authorization_of_apply h
  exact ⟨time, value, hTime, hClaim, hValue⟩

/-- A request that is signed again, with a token or after a signing without one, comes out as if it
had been signed once: with the same method, URL, body and headers, or broken off alike. One signing
changes the headers for the signature, its time and its token, and nothing else. Each signing leaves
one authorization header, which is the claim of its own credentials. -/
theorem signed_again (second : AwsCredentials) {providers : Providers}
    (h : (Decorator.signature first scope).decorate providers now request = .ok signed) :
    signed = { request with
      headers := signed.headers, encoding := some request.headerEncoding } ∧
    signed.headers.filter (·.1 ∉ ["authorization", "x-amz-date", "x-amz-security-token"]) =
      request.headers.filter (·.1 ∉ ["authorization", "x-amz-date", "x-amz-security-token"]) ∧
    ClaimedBy first.accessKey scope now signed ∧
    (second.hasToken = true ∨ first.hasToken = false → ∀ other later,
      (Decorator.signature second other).decorate providers later signed =
        (Decorator.signature second other).decorate providers later request) ∧
    ∀ other later twice,
      (Decorator.signature second other).decorate providers later signed = .ok twice →
        ClaimedBy second.accessKey other later twice := by
  obtain ⟨hRest, hOthers⟩ := apply_leaves h
  exact ⟨hRest, hOthers, claimedBy_of_apply h, apply_again h, fun _ _ _ => claimedBy_of_apply⟩

/-- A request with an old claim, an old time and two old tokens, signed without a token and then
with one. -/
theorem signed_again_token :
    let first : AwsCredentials := ⟨"access", "secret", none⟩
    let second : AwsCredentials := ⟨"other", "hidden", some "token"⟩
    let scope : Scope := ⟨"us-east-1", "appsync"⟩
    let now := Binary64.ofRatio false 1700000000 1
    let later := Binary64.ofRatio false 1791097509 1
    let url : Url := ⟨"https", "", "api.example.com", none, "/graphql", none, none⟩
    let request : ApiRequest := ⟨"POST", url, [("host", "api.example.com"),
      ("x-amz-security-token", "stale"), ("authorization", "old"), ("x-tag", "a"),
      ("x-amz-security-token", "older"), ("x-amz-date", "20231113T000000Z")], [123, 125],
      none⟩
    let sign (credentials : AwsCredentials) (now : Binary64) (request : ApiRequest) :=
      (Decorator.signature credentials scope).decorate ⟨none, none, none, none⟩ now request
    (second.hasToken = true ∨ first.hasToken = false) ∧
      ∃ signed twice, sign first now request = .ok signed ∧ sign second later signed = .ok twice ∧
        sign second later request = .ok twice ∧
        signed.headers.filter (·.1 ∉ ["authorization", "x-amz-date", "x-amz-security-token"]) =
          [("host", "api.example.com"), ("x-tag", "a")] ∧
        ClaimedBy "access" scope now signed ∧ ClaimedBy "other" scope later twice := by
  intro first second scope now later url request sign
  have hToken : second.hasToken = true ∨ first.hasToken = false := by decide
  have hNow : CivilTime.ofSeconds? now = some ⟨⟨2023, 11, 14⟩, 22, 13, 20⟩ := by decide +kernel
  have hLater : CivilTime.ofSeconds? later = some ⟨⟨2026, 10, 4⟩, 7, 5, 9⟩ := by decide +kernel
  have hText : url.text = "https://api.example.com/graphql" := by decide +kernel
  have hPlace : UrlPlace.ofRaw (Url.Raw.ofText "https://api.example.com/graphql".toList) =
      .ok ⟨"https".toList, some "api.example.com".toList, none⟩ := rfl
  have hSignable {credentials : AwsCredentials} {instant : Binary64} {time : CivilTime}
      (hTime : CivilTime.ofSeconds? instant = some time)
      (hCredentials : credentials = first ∨ credentials = second) :
      Signable credentials scope instant request := by
    refine
      { clock := ⟨time, hTime, nofun⟩
        place := ⟨_, by rw [hText]; exact hPlace, Or.inl (by decide)⟩
        method := by decide
        url := by rw [hText]; decide
        headers := by decide
        accessKey := ?_
        secretKey := ?_
        token := ?_
        region := by decide
        service := by decide }
    · rcases hCredentials with rfl | rfl <;> decide
    · rcases hCredentials with rfl | rfl <;> decide
    · rcases hCredentials with rfl | rfl
      · exact nofun
      · intro token hSome
        obtain rfl := Option.some.inj hSome
        decide
  obtain ⟨signed, hSigned⟩ : ∃ signed, sign first now request = .ok signed :=
    (hSignable hNow (Or.inl rfl)).exists_apply
  obtain ⟨twice, hOnce⟩ : ∃ twice, sign second later request = .ok twice :=
    (hSignable hLater (Or.inr rfl)).exists_apply
  obtain ⟨-, hOthers, hFirst, hAgain, hSecond⟩ := signed_again second hSigned
  have hTwice := (hAgain hToken scope later).trans hOnce
  exact ⟨hToken, signed, twice, hSigned, hTwice, hOnce, hOthers, hFirst,
    hSecond scope later twice hTwice⟩

end Signature
end ClientAuth

import ClientAuth.Proofs.DateHeader
import ClientAuth.Proofs.RequestDecoration
import ClientAuth.Proofs.SignatureClaim

/-! Signatures checked by the one who gets the request. The signature is computed again from the
request as it is sent, and compared with the one in its authorization header. Main statement:
`decorated_verifies`, by which a signed request passes the check, up to a date header. -/
namespace ClientAuth.Signature

variable {credentials : AwsCredentials} {scope : Scope} {now : Binary64} {time : CivilTime}
  {request after : ApiRequest} {headers dated carried signed : Headers} {place : UrlPlace}
  {between name value : String}

/-- The host that the text of a URL names. -/
def urlHost? (request : ApiRequest) : Option String :=
  Except.toOption do (← UrlPlace.ofRaw (Url.Raw.ofText request.url.text.toList)).hostText

/-- The value that a request has for a signed header. A host that no header names is that of the
URL. -/
def sentValue? (between : String) (request : ApiRequest) (name : String) : Option String :=
  (request.headers.valueOf? between name).or (if name = "host" then urlHost? request else none)

/-- The digest of the body of a request, unless a header states another. -/
def sentDigest (between : String) (request : ApiRequest) : String :=
  (request.headers.valueOf? between "x-amz-content-sha256").getD
    (Hex.encode (Sha256.digest request.body))

/-- The time of signing that a request names: in a header of its own, or in the date header. -/
def sentStamp? (headers : Headers) : Option String :=
  (headers.joined? "x-amz-date").or
    ((headers.joined? "date").bind fun date => Stamp.ofHeader? date.toList)

/-- The signature of a request as it is sent, over its own values of the named headers and at the
time that it names itself. -/
def resign? (between secret : String) (scope : Scope) (request : ApiRequest)
    (names : List String) : Option String := do
  let stamp ← sentStamp? request.headers
  let signed ← names.mapM fun name => (sentValue? between request name).map (name, ·)
  (sign secret stamp scope
    (canonicalText request signed (";".intercalate names) (sentDigest between request))).toOption

/-- Whether a request has the signature that its authorization header states. The values of a
header that comes more than once are joined by a text of choice. -/
def verifies (between secret : String) (scope : Scope) (request : ApiRequest) : Bool :=
  match (request.headers.joined? "authorization").bind readClaim? with
  | some (names, signature) => resign? between secret scope request names = some signature
  | none => false

theorem mapM_names {value? : String → Option String} {headers : Headers}
    (h : ∀ entry ∈ headers, value? entry.1 = some entry.2) :
    (headers.map (·.1)).mapM (fun name => (value? name).map (name, ·)) = some headers := by
  induction headers with
  | nil => rfl
  | cons entry headers ih =>
      rw [List.map_cons, List.mapM_cons, h entry List.mem_cons_self,
        ih fun other hMem => h other (List.mem_cons_of_mem _ hMem)]
      rfl

theorem sentValue?_of_covers
    (hPlace : UrlPlace.ofRaw (Url.Raw.ofText request.url.text.toList) = .ok place)
    (hValue : headers.valueOf? between name = signed.joined? name)
    (h : Covers place signed name value) :
    sentValue? between { request with headers := headers } name = some value := by
  rw [sentValue?, hValue]
  obtain ⟨-, hOwn | ⟨hHost, hNone, hText⟩⟩ := h
  · rw [hOwn, Option.some_or]
  · rw [hNone, Option.none_or, if_pos hHost, urlHost?, hPlace, Outcome.ok_bind, hText]
    rfl

/-- A request that has the signed values of all signed headers, and names the time of signing,
passes the check. -/
theorem verifies_of_values {stamp : String}
    (hClaim : authorization credentials stamp scope { request with headers := signed } = .ok value)
    (hOld : Headers.has signed "authorization" = false)
    (hNames : ∀ name, Headers.has signed name = true → IsListable name)
    (hStamp : sentStamp? headers = some stamp)
    (hSent : headers.joined? "authorization" = some value)
    (hValues : ∀ name ∉ unsignedHeaders, name ≠ "authorization" →
      headers.valueOf? between name = signed.joined? name) :
    verifies between credentials.secretKey scope { request with headers := headers } = true := by
  obtain ⟨canonical, names, signature, hCanonical, hSign, rfl⟩ := authorization_eq_ok.mp hClaim
  obtain ⟨place, listed, hPlace, hListed, rfl, rfl⟩ := canonicalRequest_eq_ok.mp hCanonical
  -- Each signed header is found again in the request, by a name that can be read from the list.
  have hEach : ∀ entry ∈ listed, IsListable entry.1 ∧
      sentValue? between { request with headers := headers } entry.1 = some entry.2 := by
    intro entry hMem
    have hCovers := covers_of_signedHeaders hListed hMem
    have hIs : Headers.has signed entry.1 = true ∨ entry.1 = "host" :=
      hCovers.2.imp Headers.has_of_joined? And.left
    have hOther : entry.1 ≠ "authorization" := by
      intro hName
      rw [hName, hOld] at hIs
      exact absurd hIs (by decide)
    refine ⟨hIs.elim (hNames entry.1) fun hName => ?_,
      sentValue?_of_covers hPlace (hValues entry.1 hCovers.1 hOther) hCovers⟩
    rw [hName]
    decide
  have hListable : ∀ name ∈ listed.map (·.1), IsListable name := by
    intro name hMem
    obtain ⟨entry, hEntry, rfl⟩ := List.mem_map.mp hMem
    exact (hEach entry hEntry).1
  have hSome : listed.map (·.1) ≠ [] := by simpa using ne_nil_of_signedHeaders hListed
  have hDigest : sentDigest between { request with headers := headers } =
      bodyDigest signed request.body := by
    rw [sentDigest, hValues _ (by decide) (by decide), bodyDigest]
  rw [headerNames_of_signedHeaders hListed fun entry hMem => (hEach entry hMem).1] at hSent hSign
  rw [verifies, hSent, Option.bind_some,
    readClaim?_claimText _ _ _ hSome hListable (not_mem_of_sign hSign)]
  refine decide_eq_true ?_
  rw [resign?, hStamp, Option.bind_eq_bind, Option.bind_some,
    mapM_names fun entry hMem => (hEach entry hMem).2, Option.bind_eq_bind, Option.bind_some,
    hDigest]
  exact congrArg Except.toOption hSign

/-- A header that is carried back has the signed value. -/
theorem valueOf?_carry {encoding : HeaderEncoding} {names : List String} (between : String)
    (h : carry encoding signed names headers = .ok carried) (hName : name ∈ names) :
    carried.valueOf? between name =
      (signed.joined? name).or (headers.valueOf? between name) := by
  induction names generalizing headers with
  | nil => cases hName
  | cons first names ih =>
      have hStep : ∃ middle, carry encoding signed names middle = .ok carried ∧
          middle.valueOf? between name =
            if first = name then (signed.joined? name).or (headers.valueOf? between name)
            else headers.valueOf? between name := by
        rw [carry] at h
        split at h
        next value hValue =>
          split at h
          next =>
            refine ⟨_, h, ?_⟩
            split
            next hSame =>
              subst hSame
              rw [hValue, Option.some_or, Headers.valueOf?_of_filter _ (Headers.filter_set headers)]
            next hOther =>
              exact Headers.valueOf?_congr between (Headers.filter_set_ne (Ne.symm hOther) headers)
          next => cases h
        next hNone =>
          refine ⟨headers, h, ?_⟩
          split
          next hSame => rw [← hSame, hNone, Option.none_or]
          next => rfl
      obtain ⟨middle, hRest, hMiddle⟩ := hStep
      by_cases hLater : name ∈ names
      · rw [ih hRest hLater, hMiddle]
        split
        next => cases signed.joined? name <;> rfl
        next => rfl
      · have hSame : first = name := ((List.mem_cons.mp hName).resolve_right hLater).symm
        rw [Headers.valueOf?_congr between (filter_carry hRest hLater), hMiddle, if_pos hSame]

theorem joined?_withToken (credentials : AwsCredentials) (headers : Headers) :
    (withToken credentials headers).joined? "x-amz-security-token" =
      (credentials.token.filter (· ≠ "")).or (headers.joined? "x-amz-security-token") := by
  rw [withToken]
  split
  next token hToken =>
    rw [hToken, Option.some_or]
    refine Headers.joined?_of_filter ?_
    rw [List.filter_append, Headers.filter_erase]
    simp
  next hNone => rw [hNone, Option.none_or]

/-- The parts of a signing that comes to its end: the headers with its time, the value of the
authorization header, and the headers that are sent. -/
structure Signing (credentials : AwsCredentials) (scope : Scope) (time : CivilTime)
    (request : ApiRequest) (dated carried : Headers) (value : String) : Prop where
  prepared : datedHeaders time (request.headers.merged.erase "authorization") = .ok dated
  claimed : authorization credentials (Stamp.compact time) scope
    { request with headers := withToken credentials dated } = .ok value
  sent : carry request.headerEncoding (withToken credentials dated ++ [("authorization", value)])
    carriedHeaders request.headers = .ok carried

theorem exists_signing (h : apply credentials scope now request = .ok after) :
    ∃ time dated carried value, CivilTime.ofSeconds? now = some time ∧
      Signing credentials scope time request dated carried value ∧
      after = { request with headers := carried, encoding := some request.headerEncoding } := by
  obtain ⟨time, prepared, value, carried, hTime, hPrepared, hClaim, hCarried, rfl⟩ :=
    apply_eq_ok.mp h
  rw [prepare_eq] at hPrepared
  obtain ⟨dated, hDated, hPrepared⟩ := Outcome.bind_eq_ok.mp hPrepared
  obtain rfl := Except.ok.inj hPrepared
  exact ⟨time, dated, carried, value, hTime, ⟨hDated, hClaim, hCarried⟩, rfl⟩

/-- What stands between the values of a name makes no difference: it is what the signer puts there,
or no signed name comes twice. -/
def JoinsAlike (between : String) (headers : Headers) : Prop :=
  between = ", " ∨ ∀ name ∉ unsignedHeaders, (headers.filter (·.1 = name)).length ≤ 1

theorem JoinsAlike.of_nodup (h : (headers.map (·.1)).Nodup) (between : String) :
    JoinsAlike between headers := by
  refine Or.inr fun name _ => ?_
  have hCount : (headers.filter (·.1 = name)).length = (headers.map (·.1)).count name := by
    rw [List.count, List.countP_map, List.countP_eq_length_filter]
    rfl
  rw [hCount]
  exact List.nodup_iff_count_le_one.mp h name

/-- Headers with another date, which is the only time in them. -/
def redated (date : String) (headers : Headers) : Headers :=
  (headers.erase "x-amz-date").set "date" date

theorem filter_redated {date : String} (hName : name ∉ ["date", "x-amz-date"]) (headers : Headers) :
    (redated date headers).filter (·.1 = name) = headers.filter (·.1 = name) := by
  simp only [List.mem_cons, List.not_mem_nil, or_false, not_or] at hName
  rw [redated, Headers.filter_set_ne hName.1, Headers.filter_erase_ne hName.2]

theorem has_redated (date : String) (headers : Headers) :
    (redated date headers).has "x-amz-date" = false := by
  rw [Headers.has_eq_false, redated, Headers.filter_set_ne (by decide), Headers.filter_erase]

namespace Signing

theorem filter_dated (h : Signing credentials scope time request dated carried value)
    (hName : name ∉ ["authorization", "date", "x-amz-date"]) :
    dated.filter (·.1 = name) = request.headers.merged.filter (·.1 = name) := by
  simp only [List.mem_cons, List.not_mem_nil, or_false, not_or] at hName
  obtain ⟨hOld, hDate, hStamp⟩ := hName
  rw [filter_datedHeaders hDate hStamp h.prepared, Headers.filter_erase_ne hOld]

/-- The signed headers say who has signed. -/
theorem authorization_eq (h : Signing credentials scope time request dated carried value) :
    Headers.has (withToken credentials dated) "authorization" = false ∧
      carried.joined? "authorization" = some value := by
  have hNone : (withToken credentials dated).filter (·.1 = "authorization") = [] := by
    rw [filter_withToken (by decide), filter_datedHeaders (by decide) (by decide) h.prepared,
      Headers.filter_erase]
  refine ⟨Headers.has_eq_false.mpr hNone, ?_⟩
  have hOwn : Headers.joined? (withToken credentials dated ++ [("authorization", value)])
      "authorization" = some value := by
    refine Headers.joined?_of_filter ?_
    rw [List.filter_append, hNone]
    rfl
  rw [Headers.joined?_eq, valueOf?_carry _ h.sent (by decide), hOwn, Option.some_or]

/-- Each signed name comes from the request or from the signing, and can be told from the others. -/
theorem isListable (h : Signing credentials scope time request dated carried value)
    (hNames : ∀ entry ∈ request.headers, IsListable entry.1)
    (hHas : Headers.has (withToken credentials dated) name = true) : IsListable name := by
  by_cases hToken : name = "x-amz-security-token"
  · subst hToken
    decide
  by_cases hName : name ∈ ["authorization", "date", "x-amz-date"]
  · simp only [List.mem_cons, List.not_mem_nil, or_false] at hName
    rcases hName with rfl | rfl | rfl <;> decide
  · rw [Headers.has_of_filter (filter_withToken hToken credentials dated),
      Headers.has_of_filter (h.filter_dated hName), Headers.has_merged] at hHas
    obtain ⟨entry, hMem, hEntry⟩ := List.any_eq_true.mp hHas
    exact of_decide_eq_true hEntry ▸ hNames entry hMem

/-- A header that is carried back, other than the signature, has the value that is signed. -/
theorem valueOf?_of_carried (h : Signing credentials scope time request dated carried value)
    (between : String) (hCarried : name ∈ ["x-amz-date", "x-amz-security-token"]) :
    carried.valueOf? between name =
      ((withToken credentials dated).joined? name).or (request.headers.valueOf? between name) := by
  have hOther : name ≠ "authorization" := by
    rintro rfl
    exact absurd hCarried (by decide)
  have hOwn : Headers.joined? (withToken credentials dated ++ [("authorization", value)]) name =
      (withToken credentials dated).joined? name := by
    rw [Headers.joined?_append, if_neg hOther.symm]
  rw [valueOf?_carry between h.sent (List.mem_cons_of_mem _ hCarried), hOwn]

/-- The headers that are sent have the signed values, but for those that hold the time. -/
theorem valueOf?_carried (h : Signing credentials scope time request dated carried value)
    (hJoins : JoinsAlike between request.headers) (hSigned : name ∉ unsignedHeaders)
    (hName : name ∉ ["authorization", "date", "x-amz-date"]) :
    carried.valueOf? between name = (withToken credentials dated).joined? name := by
  have hBetween := hJoins.imp_right fun hSingle => hSingle name hSigned
  have hDated : dated.joined? name = request.headers.joined? name := by
    rw [Headers.joined?_eq, Headers.valueOf?_congr _ (h.filter_dated hName),
      Headers.valueOf?_merged]
  by_cases hToken : name = "x-amz-security-token"
  · subst hToken
    rw [h.valueOf?_of_carried between (by decide), Headers.valueOf?_of_length_le hBetween,
      joined?_withToken, hDated, Option.or_assoc, Option.or_self]
  · rw [Headers.valueOf?_congr between (filter_carry h.sent ?_),
      Headers.valueOf?_of_length_le hBetween, ← hDated]
    · exact Headers.valueOf?_congr _ (filter_withToken hToken credentials dated).symm
    · simp only [carriedHeaders, List.mem_cons, List.not_mem_nil, or_false, not_or] at hName ⊢
      exact ⟨hName.1, hName.2.2, hToken⟩

/-- What is sent passes the check if it names the time of the signing, as it is signed, and has all
else from the signing. -/
theorem verifies_of_times (h : Signing credentials scope time request dated carried value)
    (hNames : ∀ entry ∈ request.headers, IsListable entry.1)
    (hJoins : JoinsAlike between request.headers)
    (hStamp : sentStamp? headers = some (Stamp.compact time))
    (hTimes : ∀ name ∈ ["date", "x-amz-date"],
      headers.valueOf? between name = (withToken credentials dated).joined? name)
    (hOthers : ∀ name ∉ ["date", "x-amz-date"],
      headers.filter (·.1 = name) = carried.filter (·.1 = name)) :
    verifies between credentials.secretKey scope { request with headers := headers } = true := by
  refine verifies_of_values h.claimed h.authorization_eq.1 (fun name => h.isListable hNames) hStamp
    ?_ fun name hSigned hOther => ?_
  · rw [Headers.joined?_eq, Headers.valueOf?_congr _ (hOthers _ (by decide))]
    exact h.authorization_eq.2
  · by_cases hName : name ∈ ["date", "x-amz-date"]
    · exact hTimes name hName
    · rw [Headers.valueOf?_congr between (hOthers name hName)]
      exact h.valueOf?_carried hJoins hSigned (by simpa [hOther] using hName)

/-- Without a date header the request passes the check as it is sent. -/
theorem verifies_undated (h : Signing credentials scope time request dated carried value)
    (hNames : ∀ entry ∈ request.headers, IsListable entry.1)
    (hJoins : JoinsAlike between request.headers) (hDate : request.headers.has "date" = false) :
    verifies between credentials.secretKey scope { request with headers := carried } = true := by
  have hNone : (request.headers.merged.erase "authorization").has "date" = false :=
    (has_erase_merged (by decide) _).trans hDate
  have hDated := h.prepared
  rw [datedHeaders, if_neg (by rw [hNone]; exact Bool.false_ne_true)] at hDated
  obtain rfl := Except.ok.inj hDated
  let signed := withToken credentials
    ((request.headers.merged.erase "authorization").erase "x-amz-date" ++
      [("x-amz-date", Stamp.compact time)])
  have hSignedStamp : signed.joined? "x-amz-date" = some (Stamp.compact time) := by
    refine Headers.joined?_of_filter ?_
    rw [filter_withToken (by decide), List.filter_append, Headers.filter_erase]
    simp
  have hSignedDate : signed.has "date" = false := by
    rw [Headers.has_of_filter (filter_withToken (by decide) credentials _), ← hNone]
    refine Headers.has_of_filter ?_
    rw [List.filter_append, Headers.filter_erase_ne (by decide)]
    simp
  have hSentStamp (between : String) :
      carried.valueOf? between "x-amz-date" = some (Stamp.compact time) := by
    rw [h.valueOf?_of_carried between (by decide), hSignedStamp, Option.some_or]
  have hSentDate : carried.has "date" = false := by
    rw [Headers.has_of_filter (filter_carry h.sent (by decide)), hDate]
  refine h.verifies_of_times hNames hJoins ?_ (fun name hName => ?_) fun name _ => rfl
  · rw [sentStamp?, Headers.joined?_eq, hSentStamp, Option.some_or]
  · simp only [List.mem_cons, List.not_mem_nil, or_false] at hName
    rcases hName with rfl | rfl
    · rw [Headers.joined?_eq, Headers.valueOf?_eq_none.mpr hSentDate,
        Headers.valueOf?_eq_none.mpr hSignedDate]
    · rw [hSentStamp, hSignedStamp]

/-- With a date header the request passes the check once it is sent with the signed date. -/
theorem verifies_redated (h : Signing credentials scope time request dated carried value)
    (hNames : ∀ entry ∈ request.headers, IsListable entry.1)
    (hJoins : JoinsAlike between request.headers) (hDate : request.headers.has "date" = true)
    (hTime : CivilTime.ofSeconds? now = some time) (hYear : 1000 ≤ time.date.year) :
    verifies between credentials.secretKey scope
      { request with headers := redated (Stamp.header time) carried } = true := by
  have hHas : (request.headers.merged.erase "authorization").has "date" = true :=
    (has_erase_merged (by decide) _).trans hDate
  have hValid := CivilTime.isValid_of_ofSeconds? hTime
  have hHeader : dateHeader time = .ok (Stamp.header time) := by
    rw [dateHeader, Stamp.readDate?_compactDate hValid hYear]
    rfl
  have hDated := h.prepared
  rw [datedHeaders, if_pos hHas, hHeader] at hDated
  obtain rfl := Except.ok.inj hDated
  let signed := withToken credentials
    (((request.headers.merged.erase "authorization").erase "date" ++
      [("date", Stamp.header time)]).erase "x-amz-date")
  have hSignedDate : signed.joined? "date" = some (Stamp.header time) := by
    refine Headers.joined?_of_filter ?_
    rw [filter_withToken (by decide), Headers.filter_erase_ne (by decide), List.filter_append,
      Headers.filter_erase]
    simp
  have hSignedStamp : signed.has "x-amz-date" = false := by
    rw [Headers.has_eq_false, filter_withToken (by decide), Headers.filter_erase]
  have hSentDate (between : String) :
      (redated (Stamp.header time) carried).valueOf? between "date" = some (Stamp.header time) :=
    Headers.valueOf?_of_filter between (Headers.filter_set _)
  have hSentStamp (between : String) :
      (redated (Stamp.header time) carried).valueOf? between "x-amz-date" = none :=
    Headers.valueOf?_eq_none.mpr (has_redated _ carried)
  refine h.verifies_of_times hNames hJoins ?_ (fun name hName => ?_)
    fun name hName => filter_redated hName carried
  · rw [sentStamp?, Headers.joined?_eq, hSentStamp, Option.none_or, Headers.joined?_eq, hSentDate,
      Option.bind_some, Stamp.ofHeader?_header hValid hYear (CivilTime.clock_of_ofSeconds? hTime)]
  · simp only [List.mem_cons, List.not_mem_nil, or_false] at hName
    rcases hName with rfl | rfl
    · rw [hSentDate, hSignedDate]
    · rw [hSentStamp]
      exact (Headers.valueOf?_eq_none.mpr hSignedStamp).symm

end Signing

/-- A signed request without a date header passes the check as it is sent, whatever its other
headers. A date header is sent as it was, while the signature covers the date of the signing in its
place: with that date the request would pass. -/
theorem decorated_verifies {providers : Providers}
    (h : (Decorator.signature credentials scope).decorate providers now request = .ok after)
    (hNames : ∀ entry ∈ request.headers, IsListable entry.1)
    (hJoins : JoinsAlike between request.headers) :
    (request.headers.has "date" = false →
      verifies between credentials.secretKey scope after = true) ∧
    (request.headers.has "date" = true →
      after.headers.filter (·.1 = "date") = request.headers.filter (·.1 = "date") ∧
      ∃ time, CivilTime.ofSeconds? now = some time ∧ (1000 ≤ time.date.year →
        verifies between credentials.secretKey scope
          { after with headers := redated (Stamp.header time) after.headers } = true)) := by
  obtain ⟨time, dated, carried, value, hTime, hSigning, rfl⟩ := exists_signing h
  constructor
  · exact hSigning.verifies_undated hNames hJoins
  · intro hDate
    refine ⟨filter_carry hSigning.sent (by decide), time, hTime, fun hYear => ?_⟩
    exact hSigning.verifies_redated hNames hJoins hDate hTime hYear

/-- A request with a tag of its own and the time of an older signature. -/
theorem decorated_verifies_tagged :
    let credentials : AwsCredentials := ⟨"access", "secret", some "token"⟩
    let scope : Scope := ⟨"us-east-1", "appsync"⟩
    let now := Binary64.ofRatio false 1700000000 1
    let url : Url := ⟨"https", "", "api.example.com", none, "/graphql", none, none⟩
    let before : ApiRequest := ⟨"POST", url, [("host", "api.example.com"), ("x-tag", "a  b"),
      ("user-agent", "client"), ("x-amz-date", "20231113T000000Z")], [123, 125],
      none⟩
    (∀ entry ∈ before.headers, IsListable entry.1) ∧ JoinsAlike "," before.headers ∧
      ∃ after, (Decorator.signature credentials scope).decorate ⟨none, none, none, none⟩ now
        before = .ok after ∧ verifies "," "secret" scope after = true := by
  intro credentials scope now url before
  have hNames : ∀ entry ∈ before.headers, IsListable entry.1 := by decide
  have hJoins : JoinsAlike "," before.headers := .of_nodup (by decide) ","
  have hTime : CivilTime.ofSeconds? now = some ⟨⟨2023, 11, 14⟩, 22, 13, 20⟩ := by decide +kernel
  have hText : url.text = "https://api.example.com/graphql" := by decide +kernel
  have hPlace : UrlPlace.ofRaw (Url.Raw.ofText "https://api.example.com/graphql".toList) =
      .ok ⟨"https".toList, some "api.example.com".toList, none⟩ := rfl
  have hSignable : Signable credentials scope now before :=
    { clock := ⟨_, hTime, fun _ => dateReadable_of_year hTime (by decide)⟩
      place := ⟨_, by rw [hText]; exact hPlace, Or.inl (by decide)⟩
      method := by decide
      url := by rw [hText]; decide
      headers := by decide
      accessKey := by decide
      secretKey := by decide
      token := by
        intro token hToken
        obtain rfl := Option.some.inj hToken
        decide
      region := by decide
      service := by decide }
  obtain ⟨after, hAfter⟩ : ∃ after, (Decorator.signature credentials scope).decorate
      ⟨none, none, none, none⟩ now before = .ok after := hSignable.exists_apply
  exact ⟨hNames, hJoins, after, hAfter, (decorated_verifies hAfter hNames hJoins).1 (by decide)⟩

/-- A request with an old date: the date that is sent is not the one that is signed. -/
theorem stale_date_fails :
    ∃ before after,
      ApiRequest.create "GET" "https://api.example.com/graphql"
        [("Date", "Mon, 13 Nov 2023 00:00:00 GMT")] [] = .ok before ∧
      (Decorator.signature ⟨"access", "secret", none⟩ ⟨"us-east-1", "appsync"⟩).decorate
        ⟨none, none, none, none⟩ (.ofRatio false 1700000000 1) before = .ok after ∧
      verifies ", " "secret" ⟨"us-east-1", "appsync"⟩ after = false := by
  obtain ⟨result, hResult⟩ : ∃ result : Outcome Bool, result = (do
      let before ← ApiRequest.create "GET" "https://api.example.com/graphql"
        [("Date", "Mon, 13 Nov 2023 00:00:00 GMT")] []
      let after ← (Decorator.signature ⟨"access", "secret", none⟩
        ⟨"us-east-1", "appsync"⟩).decorate ⟨none, none, none, none⟩
        (.ofRatio false 1700000000 1) before
      return verifies ", " "secret" ⟨"us-east-1", "appsync"⟩ after) := ⟨_, rfl⟩
  have hValue : result.toOption = some false := by
    rw [hResult]
    decide +kernel
  cases result with
  | error interruption => nomatch hValue
  | ok value =>
      obtain rfl := Option.some.inj hValue
      obtain ⟨before, hBefore, hResult⟩ := Outcome.bind_eq_ok.mp hResult.symm
      obtain ⟨after, hAfter, hResult⟩ := Outcome.bind_eq_ok.mp hResult
      exact ⟨before, after, hBefore, hAfter, Except.ok.inj hResult⟩

end ClientAuth.Signature

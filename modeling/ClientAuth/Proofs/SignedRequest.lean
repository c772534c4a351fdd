import ClientAuth.Api.Signature
import ClientAuth.Proofs.CompactDate
import ClientAuth.Proofs.HeaderSet
import ClientAuth.Proofs.Outcome

/-! What a signing does to a request. Main statements: `apply_eq_ok`, the steps of every signing
that comes to its end, and `authorization_of_apply`, the one header that tells who has signed. -/
namespace ClientAuth.Signature

open Text (IsAscii)

variable {credentials : AwsCredentials} {scope : Scope} {now : Binary64} {time : CivilTime}
  {request prepared after : ApiRequest} {headers dated : Headers} {name : String}
  {encoding : HeaderEncoding}

/-- Headers with the time of a signing, in the header for dates if there is one. -/
def datedHeaders (time : CivilTime) (headers : Headers) : Outcome Headers :=
  if headers.has "date" then do
    let date ← dateHeader time
    return ((headers.erase "date") ++ [("date", date)]).erase "x-amz-date"
  else return (headers.erase "x-amz-date") ++ [("x-amz-date", Stamp.compact time)]

/-- Headers with the token of credentials, if there is one. -/
def withToken (credentials : AwsCredentials) (headers : Headers) : Headers :=
  match credentials.token.filter (· ≠ "") with
  | some token => (headers.erase "x-amz-security-token") ++ [("x-amz-security-token", token)]
  | none => headers

theorem prepare_eq (credentials : AwsCredentials) (time : CivilTime) (request : ApiRequest) :
    prepare credentials time request = (do
      let headers ← datedHeaders time (request.headers.merged.erase "authorization")
      return { request with headers := withToken credentials headers }) := by
  rw [prepare, datedHeaders]
  split
  · rw [bind_assoc]
    rfl
  · rfl

/-- The time of a signing changes no headers but two. -/
theorem filter_datedHeaders (hDate : name ≠ "date") (hStamp : name ≠ "x-amz-date")
    (h : datedHeaders time headers = .ok dated) :
    dated.filter (·.1 = name) = headers.filter (·.1 = name) := by
  rw [datedHeaders] at h
  split at h
  · obtain ⟨date, -, hDated⟩ := Outcome.bind_eq_ok.mp h
    obtain rfl := Except.ok.inj hDated
    rw [Headers.filter_erase_ne hStamp, List.filter_append, Headers.filter_erase_ne hDate,
      List.filter_cons_of_neg (by simpa using hDate.symm), List.filter_nil, List.append_nil]
  · obtain rfl := Except.ok.inj h
    rw [List.filter_append, Headers.filter_erase_ne hStamp,
      List.filter_cons_of_neg (by simpa using hStamp.symm), List.filter_nil, List.append_nil]

theorem filter_withToken (hToken : name ≠ "x-amz-security-token") (credentials : AwsCredentials)
    (headers : Headers) :
    (withToken credentials headers).filter (·.1 = name) = headers.filter (·.1 = name) := by
  rw [withToken]
  split
  · rw [List.filter_append, Headers.filter_erase_ne hToken,
      List.filter_cons_of_neg (by simpa using hToken.symm), List.filter_nil, List.append_nil]
  · rfl

/-- A request that is ready for signing has no old signature. -/
theorem filter_of_prepare (h : prepare credentials time request = .ok prepared) :
    prepared.headers.filter (·.1 = "authorization") = [] := by
  rw [prepare_eq] at h
  obtain ⟨dated, hDated, hPrepared⟩ := Outcome.bind_eq_ok.mp h
  obtain rfl := Except.ok.inj hPrepared
  dsimp only
  rw [filter_withToken (by decide), filter_datedHeaders (by decide) (by decide) hDated,
    Headers.filter_erase]

/-- Headers that are not carried back stay as they are. -/
theorem filter_carry {signed result : Headers} {names : List String}
    (h : carry encoding signed names headers = .ok result) (hName : name ∉ names) :
    result.filter (·.1 = name) = headers.filter (·.1 = name) := by
  induction names generalizing headers with
  | nil =>
      cases h
      rfl
  | cons first names ih =>
      rw [List.mem_cons, not_or] at hName
      rw [carry] at h
      split at h
      next value hValue =>
        split at h
        · rw [ih h hName.2, Headers.filter_set_ne hName.1]
        · nomatch h
      next => exact ih h hName.2

/-- The steps of a signing that comes to its end. -/
theorem apply_eq_ok :
    apply credentials scope now request = .ok after ↔
      ∃ time prepared value headers, CivilTime.ofSeconds? now = some time ∧
        prepare credentials time request = .ok prepared ∧
        authorization credentials (Stamp.compact time) scope prepared = .ok value ∧
        carry request.headerEncoding (prepared.headers ++ [("authorization", value)])
          carriedHeaders request.headers = .ok headers ∧
        after = { request with headers := headers, encoding := some request.headerEncoding } := by
  have hClock {result : CivilTime} :
      Outcome.orHalt .outsideCalendar (CivilTime.ofSeconds? now) = .ok result ↔
        CivilTime.ofSeconds? now = some result := by
    cases CivilTime.ofSeconds? now with
    | none => simp [Outcome.orHalt]
    | some time => simp
  rw [apply]
  constructor
  · intro h
    split at h
    · cases h
    · obtain ⟨time, hTime, h⟩ := Outcome.bind_eq_ok.mp h
      obtain ⟨prepared, hPrepared, h⟩ := Outcome.bind_eq_ok.mp h
      obtain ⟨value, hValue, h⟩ := Outcome.bind_eq_ok.mp h
      obtain ⟨headers, hHeaders, hAfter⟩ := Outcome.bind_eq_ok.mp h
      exact ⟨time, prepared, value, headers, hClock.mp hTime, hPrepared, hValue, hHeaders,
        (Except.ok.inj hAfter).symm⟩
  · rintro ⟨time, prepared, value, headers, hTime, hPrepared, hValue, hHeaders, rfl⟩
    rw [CivilTime.isNaN_of_ofSeconds? hTime]
    simp only [Bool.false_eq_true, if_false, Outcome.bind_eq_ok, hClock]
    exact ⟨time, hTime, prepared, hPrepared, value, hValue, headers, hHeaders, rfl⟩

/-- Merging and dropping an old signature leave all other names. -/
theorem has_erase_merged (hName : name ≠ "authorization") (headers : Headers) :
    (headers.merged.erase "authorization").has name = headers.has name := by
  rw [Headers.has_of_filter (Headers.filter_erase_ne hName _), Headers.has_merged]

/-- The headers of a request that are signed. -/
def coveredHeaders (headers : Headers) : Headers := headers.merged.filter (·.1 ∉ unsignedHeaders)

theorem has_coveredHeaders (headers : Headers) :
    (coveredHeaders headers).has "host" = headers.has "host" := by
  rw [← Headers.has_merged headers]
  refine Headers.has_of_filter ?_
  rw [coveredHeaders, List.filter_filter]
  refine List.filter_congr fun entry _ => ?_
  by_cases hName : entry.1 = "host"
  · simp [hName, unsignedHeaders]
  · simp [hName]

/-- The host of the URL is signed if no header names one. -/
theorem signedHeaders_eq (place : UrlPlace) (headers : Headers) :
    signedHeaders place headers =
      if headers.has "host" then return sortBy pairBefore (coveredHeaders headers)
      else return sortBy pairBefore (coveredHeaders headers ++ [("host", ← place.hostText)]) := by
  rw [← has_coveredHeaders]
  rfl

/-- The text of the authorization header. -/
def claimText (accessKey stamp : String) (scope : Scope) (names signature : String) : String :=
  ", ".intercalate
    ["AWS4-HMAC-SHA256 Credential=" ++ accessKey ++ "/" ++ scopeText (dayOf stamp) scope,
     "SignedHeaders=" ++ names, "Signature=" ++ signature]

theorem authorization_eq_ok {stamp value : String} :
    authorization credentials stamp scope prepared = .ok value ↔
      ∃ canonical names signature, canonicalRequest prepared = .ok (canonical, names) ∧
        sign credentials.secretKey stamp scope canonical = .ok signature ∧
        value = claimText credentials.accessKey stamp scope names signature := by
  rw [authorization]
  constructor
  · intro h
    obtain ⟨⟨canonical, names⟩, hCanonical, h⟩ := Outcome.bind_eq_ok.mp h
    obtain ⟨signature, hSign, h⟩ := Outcome.bind_eq_ok.mp h
    exact ⟨canonical, names, signature, hCanonical, hSign, (Except.ok.inj h).symm⟩
  · rintro ⟨canonical, names, signature, hCanonical, hSign, rfl⟩
    rw [hCanonical, Outcome.ok_bind]
    dsimp only
    rw [hSign]
    rfl

/-- A value of the authorization header that names who has signed, and for which day, region and
service. -/
def IsClaim (accessKey : String) (scope : Scope) (time : CivilTime) (value : String) : Prop :=
  ∃ names signature, value = claimText accessKey (Stamp.compact time) scope names signature

/-- Among headers in ASCII the parts of a claim are in ASCII, too. -/
theorem IsClaim.isAscii {accessKey value : String} (h : IsClaim accessKey scope time value)
    (hHolds : HeaderEncoding.ascii.holds value = true) :
    IsAscii accessKey ∧ IsAscii scope.region ∧ IsAscii scope.service := by
  have hValue : IsAscii value := by
    simpa [HeaderEncoding.holds, ApiRequest.isAscii, IsAscii] using hHolds
  obtain ⟨names, signature, rfl⟩ := h
  have hFirst := hValue.of_intercalate _ List.mem_cons_self
  have hScope := hFirst.of_append.2.of_intercalate
  exact ⟨hFirst.of_append.1.of_append.1.of_append.2, hScope scope.region (by simp),
    hScope scope.service (by simp)⟩

/-- A signed request says in its one authorization header who has signed it, and when. What it
says can be written like the other headers. -/
theorem authorization_of_apply (h : apply credentials scope now request = .ok after) :
    ∃ time value, CivilTime.ofSeconds? now = some time ∧
      IsClaim credentials.accessKey scope time value ∧
      request.headerEncoding.holds value = true ∧
      after.headers.filter (·.1 = "authorization") = [("authorization", value)] := by
  obtain ⟨time, prepared, value, headers, hTime, hPrepared, hValue, hHeaders, rfl⟩ :=
    apply_eq_ok.mp h
  obtain ⟨canonical, names, signature, -, -, hText⟩ := authorization_eq_ok.mp hValue
  have hSigned : (prepared.headers ++ [("authorization", value)]).joined? "authorization" =
      some value := by
    refine Headers.joined?_of_filter ?_
    rw [List.filter_append, filter_of_prepare hPrepared]
    rfl
  rw [carriedHeaders, carry, hSigned] at hHeaders
  dsimp only at hHeaders
  split at hHeaders
  next hHolds =>
    refine ⟨time, value, hTime, ⟨names, signature, hText⟩, hHolds, ?_⟩
    rw [filter_carry hHeaders (by decide), Headers.filter_set]
  next => nomatch hHeaders

end ClientAuth.Signature

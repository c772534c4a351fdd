import ClientAuth.Proofs.SignedRequest
import ClientAuth.Proofs.StampText

/-! When a request can be signed. A signing reads the clock, the URL and the headers, and writes
texts of ASCII from them. Main statement: `Signable.exists_apply`, by which it comes to its end if
these can be read and are in ASCII themselves. -/
namespace ClientAuth

namespace Url

theorem splitScheme_subset (text : List Char) : (splitScheme text).2 ⊆ text := by
  rw [splitScheme]
  split
  next rest hRest =>
    have hSuffix : rest ⊆ text := by
      intro c hMem
      refine (List.dropWhile_sublist _).subset (hRest ▸ List.mem_cons_of_mem ':' hMem)
    split
    · exact List.Subset.refl text
    · exact hSuffix
  next => exact List.Subset.refl text

theorem subset_of_afterMark {mark : Char} {part : List Char} {result : String}
    (h : afterMark mark part = some result) : result.toList ⊆ part := by
  cases part with
  | nil => cases h
  | cons first part =>
      rw [afterMark] at h
      split at h
      · obtain rfl := Option.some.inj h
        rw [String.toList_ofList]
        exact List.subset_cons_self first part
      · cases h

/-- The query in the text of a URL is a part of it. -/
theorem query_subset {text : List Char} {query : String}
    (h : (Raw.ofText text).query = some query) : query.toList ⊆ text := by
  have hScheme := splitScheme_subset text
  rw [Raw.ofText] at h
  obtain ⟨⟨scheme, rest⟩, hParts⟩ : ∃ parts, splitScheme text = parts := ⟨_, rfl⟩
  rw [hParts] at h hScheme
  dsimp only at h hScheme
  have hQuery {part : List Char} (hPart : part ⊆ text)
      (hMark : afterMark '?' ((part.dropWhile fun c => c ≠ '?' && c ≠ '#').takeWhile (· ≠ '#')) =
        some query) : query.toList ⊆ text := by
    intro c hMem
    have hTail := (List.takeWhile_sublist _).subset (subset_of_afterMark hMark hMem)
    exact hPart ((List.dropWhile_sublist _).subset hTail)
  split at h
  next behind =>
    refine hQuery (fun c hMem => hScheme ?_) h
    exact List.mem_cons_of_mem _ (List.mem_cons_of_mem _ ((List.dropWhile_sublist _).subset hMem))
  next => exact hQuery hScheme h

end Url

namespace Signature

open Text (IsAscii)

variable {credentials : AwsCredentials} {scope : Scope} {now : Binary64} {time : CivilTime}
  {request prepared after : ApiRequest} {headers dated : Headers} {name : String}

/-- The date of a signing can be written into a header for dates. -/
def DateReadable (time : CivilTime) : Prop :=
  (Stamp.readDate? (Stamp.compactDate time.date).toList).isSome = true

theorem dateReadable_of_year (hTime : CivilTime.ofSeconds? now = some time)
    (hYear : 1000 ≤ time.date.year) : DateReadable time := by
  rw [DateReadable, Stamp.readDate?_compactDate (CivilTime.isValid_of_ofSeconds? hTime) hYear]
  rfl

theorem exists_datedHeaders (h : headers.AllAscii)
    (hDate : headers.has "date" = true → DateReadable time) :
    ∃ dated, datedHeaders time headers = .ok dated ∧ dated.AllAscii := by
  rw [datedHeaders]
  split
  next hHas =>
    obtain ⟨date, hDate⟩ := Option.isSome_iff_exists.mp (hDate hHas)
    refine ⟨_, by rw [dateHeader, hDate]; rfl, ?_⟩
    exact ((h.erase _).append (.single (by decide) (Stamp.isAscii_header _))).erase _
  next =>
    exact ⟨_, rfl, (h.erase _).append (.single (by decide) (Stamp.isAscii_compact time))⟩

theorem allAscii_withToken (h : headers.AllAscii)
    (hToken : ∀ token, credentials.token = some token → IsAscii token) :
    (withToken credentials headers).AllAscii := by
  rw [withToken]
  split
  next token hSome =>
    have hAscii := hToken token (Option.filter_eq_some_iff.mp hSome).1
    exact (h.erase _).append (.single (by decide) hAscii)
  next => exact h

theorem exists_prepare (h : request.headers.AllAscii)
    (hToken : ∀ token, credentials.token = some token → IsAscii token)
    (hDate : request.headers.has "date" = true → DateReadable time) :
    ∃ prepared, prepare credentials time request = .ok prepared ∧
      prepared = { request with headers := prepared.headers } ∧ prepared.headers.AllAscii ∧
      prepared.headers.has "host" = request.headers.has "host" := by
  rw [← has_erase_merged (by decide)] at hDate
  obtain ⟨dated, hDated, hAscii⟩ := exists_datedHeaders (h.merged.erase "authorization") hDate
  refine ⟨{ request with headers := withToken credentials dated }, ?_, rfl,
    allAscii_withToken hAscii hToken, ?_⟩
  · rw [prepare_eq, hDated]
    rfl
  · dsimp only
    rw [Headers.has_of_filter (filter_withToken (by decide) credentials dated),
      Headers.has_of_filter (filter_datedHeaders (by decide) (by decide) hDated),
      has_erase_merged (by decide)]

/-- The host that is signed is named by a header or by the text of the URL. -/
def HostReadable (headers : Headers) (place : UrlPlace) : Prop :=
  headers.has "host" = true ∨ ∃ host, place.hostText = .ok host ∧ IsAscii host

theorem exists_signedHeaders {place : UrlPlace} (h : headers.AllAscii)
    (hHost : HostReadable headers place) :
    ∃ signed, signedHeaders place headers = .ok signed ∧ signed.AllAscii := by
  have hCovered : (coveredHeaders headers).AllAscii := h.merged.filter _
  rw [signedHeaders_eq]
  split
  next => exact ⟨_, rfl, hCovered.sortBy _⟩
  next hNone =>
    obtain ⟨host, hText, hAscii⟩ := hHost.resolve_left hNone
    exact ⟨_, by rw [hText]; rfl, (hCovered.append (.single (by decide) hAscii)).sortBy _⟩

theorem isAscii_headerNames {signed : Headers} (h : signed.AllAscii) :
    IsAscii (headerNames signed) := by
  refine Text.isAscii_intercalate (by decide) fun text hText => ?_
  obtain ⟨entry, hEntry, rfl⟩ := List.mem_map.mp ((sortBy_perm _ _).mem_iff.mp hText)
  exact (h entry hEntry).1.ofList_subset fun c => Text.mem_of_mem_trim

theorem isAscii_trimAll {value : String} (h : IsAscii value) : IsAscii (trimAll value) := by
  refine Text.isAscii_intercalate (by decide) fun text hText => ?_
  obtain ⟨word, hWord, rfl⟩ := List.mem_map.mp hText
  exact h.ofList_subset fun c => Text.mem_of_mem_wordsBy hWord

theorem isAscii_canonicalPath (path : String) : IsAscii (canonicalPath path) := by
  refine Percent.isAscii_encode (fun c hSafe => ?_) _
  rcases Bool.or_eq_true_iff.mp hSafe with hUnreserved | hSlash
  · exact Percent.toNat_lt_of_isUnreserved hUnreserved
  · rw [of_decide_eq_true hSlash]
    decide

theorem isAscii_canonicalQuery {query : Option String}
    (h : ∀ text, query = some text → IsAscii text) : IsAscii (canonicalQuery query) := by
  rw [canonicalQuery]
  split
  next => decide
  next text hSome =>
    have hText := h text (Option.filter_eq_some_iff.mp hSome).1
    refine Text.isAscii_intercalate (by decide) fun part hPart => ?_
    obtain ⟨entry, hEntry, rfl⟩ := List.mem_map.mp hPart
    obtain ⟨piece, hPiece, rfl⟩ := List.mem_map.mp ((sortBy_perm _ _).mem_iff.mp hEntry)
    have hName : IsAscii (queryPair piece).1 :=
      hText.ofList_subset fun c hMem =>
        Text.mem_of_mem_splitOn hPiece ((List.takeWhile_sublist _).subset hMem)
    have hValue : IsAscii (queryPair piece).2 :=
      hText.ofList_subset fun c hMem =>
        Text.mem_of_mem_splitOn hPiece
          ((List.dropWhile_sublist _).subset ((List.drop_sublist 1 _).subset hMem))
    exact (hName.append (by decide)).append hValue

theorem isAscii_bodyDigest (h : headers.AllAscii) (body : Bytes) :
    IsAscii (bodyDigest headers body) := by
  rw [bodyDigest]
  cases hStated : headers.joined? "x-amz-content-sha256" with
  | none => exact Hex.isAscii_encode _
  | some digest => exact h.joined? hStated

theorem isAscii_scopeText {date : String} (hDate : IsAscii date) (hRegion : IsAscii scope.region)
    (hService : IsAscii scope.service) : IsAscii (scopeText date scope) := by
  refine Text.isAscii_intercalate (by decide) fun text hText => ?_
  simp only [List.mem_cons, List.not_mem_nil, or_false] at hText
  rcases hText with rfl | rfl | rfl | rfl
  · exact hDate
  · exact hRegion
  · exact hService
  · decide

/-- A request whose headers and URL are in ASCII has a canonical form. -/
theorem exists_canonicalRequest {place : UrlPlace} (h : request.headers.AllAscii)
    (hUrl : IsAscii request.url.text) (hMethod : Text.isWhole request.method = true)
    (hPlace : UrlPlace.ofRaw (Url.Raw.ofText request.url.text.toList) = .ok place)
    (hHost : HostReadable request.headers place) :
    ∃ canonical names, canonicalRequest request = .ok (canonical, names) ∧
      Text.isWhole canonical = true ∧ IsAscii names := by
  obtain ⟨signed, hSigned, hAscii⟩ := exists_signedHeaders h hHost
  let raw := Url.Raw.ofText request.url.text.toList
  let lines : String :=
    "\n".intercalate (signed.map fun entry => entry.1 ++ ":" ++ trimAll entry.2) ++ "\n"
  have hNames := isAscii_headerNames hAscii
  have hQuery : IsAscii (canonicalQuery raw.query) :=
    isAscii_canonicalQuery fun query hQuery c hMem => hUrl c (Url.query_subset hQuery hMem)
  have hLines : IsAscii lines := by
    refine (Text.isAscii_intercalate (by decide) fun text hText => ?_).append (by decide)
    obtain ⟨entry, hEntry, rfl⟩ := List.mem_map.mp hText
    exact ((hAscii entry hEntry).1.append (by decide)).append
      (isAscii_trimAll (hAscii entry hEntry).2)
  refine ⟨"\n".intercalate [request.method, canonicalPath (String.ofList raw.path),
    canonicalQuery raw.query, lines, headerNames signed,
    bodyDigest request.headers request.body], headerNames signed, ?_, ?_, hNames⟩
  · rw [canonicalRequest, hPlace]
    change (signedHeaders place request.headers >>= _) = _
    rw [hSigned]
    rfl
  -- Only the method may be beyond ASCII; it stands in front of all the rest.
  · rw [String.intercalate_cons_cons, String.append_assoc]
    refine Text.isWhole_append hMethod (IsAscii.append (by decide) ?_)
    refine Text.isAscii_intercalate (by decide) fun text hText => ?_
    simp only [List.mem_cons, List.not_mem_nil, or_false] at hText
    rcases hText with rfl | rfl | rfl | rfl | rfl
    · exact isAscii_canonicalPath _
    · exact hQuery
    · exact hLines
    · exact hNames
    · exact isAscii_bodyDigest h request.body

theorem isAscii_dayOf {stamp : String} (h : IsAscii stamp) : IsAscii (dayOf stamp) :=
  h.ofList_subset fun _ hMem => (List.take_sublist 8 _).subset hMem

theorem exists_signingKey {secret date : String} (hSecret : IsAscii secret) (hDate : IsAscii date)
    (hRegion : IsAscii scope.region) (hService : IsAscii scope.service) :
    ∃ key, signingKey secret date scope = .ok key := by
  have hUtf8 {text : String} (hText : IsAscii text) : ∃ bytes, Outcome.utf8 text = .ok bytes :=
    Outcome.exists_utf8 (Text.isWhole_of_isAscii hText)
  have hMark : IsAscii "AWS4" := by decide
  have hLast : IsAscii "aws4_request" := by decide
  obtain ⟨secretBytes, hSecret⟩ := hUtf8 (hMark.append hSecret)
  obtain ⟨dateBytes, hDate⟩ := hUtf8 hDate
  obtain ⟨regionBytes, hRegion⟩ := hUtf8 hRegion
  obtain ⟨serviceBytes, hService⟩ := hUtf8 hService
  obtain ⟨endBytes, hEnd⟩ := hUtf8 hLast
  simp only [signingKey, hSecret, Outcome.ok_bind, List.foldlM_cons, hDate, hRegion, hService, hEnd,
    Outcome.pure_eq, List.foldlM_nil, Except.ok.injEq, exists_eq']

theorem exists_sign {secret stamp canonical : String} (hSecret : IsAscii secret)
    (hStamp : IsAscii stamp) (hRegion : IsAscii scope.region) (hService : IsAscii scope.service)
    (hCanonical : Text.isWhole canonical = true) :
    ∃ signature, sign secret stamp scope canonical = .ok signature ∧ IsAscii signature := by
  obtain ⟨canonicalBytes, hCanonical⟩ := Outcome.exists_utf8 hCanonical
  obtain ⟨key, hKey⟩ := exists_signingKey hSecret (isAscii_dayOf hStamp) hRegion hService
  let text := "\n".intercalate ["AWS4-HMAC-SHA256", stamp, scopeText (dayOf stamp) scope,
    Hex.encode (Sha256.digest canonicalBytes)]
  have hText : IsAscii text := by
    refine Text.isAscii_intercalate (by decide) fun line hLine => ?_
    simp only [List.mem_cons, List.not_mem_nil, or_false] at hLine
    rcases hLine with rfl | rfl | rfl | rfl
    · decide
    · exact hStamp
    · exact isAscii_scopeText (isAscii_dayOf hStamp) hRegion hService
    · exact Hex.isAscii_encode _
  obtain ⟨textBytes, hTextBytes⟩ := Outcome.exists_utf8 (Text.isWhole_of_isAscii hText)
  have hString : stringToSign stamp scope canonical = .ok text := by
    rw [stringToSign, hCanonical]
    rfl
  refine ⟨Hex.encode (Hmac.tag key textBytes), ?_, Hex.isAscii_encode _⟩
  rw [sign, hString, Outcome.ok_bind, hKey, Outcome.ok_bind, hTextBytes]
  rfl

theorem isAscii_claimText {accessKey stamp names signature : String}
    (hAccessKey : IsAscii accessKey) (hStamp : IsAscii stamp) (hRegion : IsAscii scope.region)
    (hService : IsAscii scope.service) (hNames : IsAscii names) (hSignature : IsAscii signature) :
    IsAscii (claimText accessKey stamp scope names signature) := by
  refine Text.isAscii_intercalate (by decide) fun part hPart => ?_
  simp only [List.mem_cons, List.not_mem_nil, or_false] at hPart
  rcases hPart with rfl | rfl | rfl
  · have hAlgorithm : IsAscii "AWS4-HMAC-SHA256 Credential=" := by decide
    have hSlash : IsAscii "/" := by decide
    have hScope := isAscii_scopeText (isAscii_dayOf hStamp) hRegion hService
    exact ((hAlgorithm.append hAccessKey).append hSlash).append hScope
  · have hLabel : IsAscii "SignedHeaders=" := by decide
    exact hLabel.append hNames
  · have hLabel : IsAscii "Signature=" := by decide
    exact hLabel.append hSignature

/-- Headers in ASCII can be carried back. -/
theorem exists_carry (encoding : HeaderEncoding) {signed : Headers} (h : signed.AllAscii)
    (names : List String) (headers : Headers) :
    ∃ result, carry encoding signed names headers = .ok result := by
  induction names generalizing headers with
  | nil => exact ⟨headers, rfl⟩
  | cons name names ih =>
      rw [carry]
      cases hValue : signed.joined? name with
      | none => exact ih headers
      | some value =>
          dsimp only
          rw [if_pos (encoding.holds_of_isAscii (h.joined? hValue))]
          exact ih _

/-- What a signing needs. The clock shows a time on the calendar, whose date can be written into
a header for dates if there is one. The URL shows a place to a generic reader, and a host that
no header names. The method has a UTF-8 form, and all else is in ASCII. -/
structure Signable (credentials : AwsCredentials) (scope : Scope) (now : Binary64)
    (request : ApiRequest) : Prop where
  clock : ∃ time, CivilTime.ofSeconds? now = some time ∧
    (request.headers.has "date" = true → DateReadable time)
  place : ∃ place, UrlPlace.ofRaw (Url.Raw.ofText request.url.text.toList) = .ok place ∧
    HostReadable request.headers place
  method : Text.isWhole request.method = true
  url : IsAscii request.url.text
  headers : request.headers.AllAscii
  accessKey : IsAscii credentials.accessKey
  secretKey : IsAscii credentials.secretKey
  token : ∀ token, credentials.token = some token → IsAscii token
  region : IsAscii scope.region
  service : IsAscii scope.service

/-- A signing that has what it needs comes to its end. -/
theorem Signable.exists_apply (h : Signable credentials scope now request) :
    ∃ after, apply credentials scope now request = .ok after := by
  obtain ⟨time, hTime, hDate⟩ := h.clock
  obtain ⟨place, hPlace, hHost⟩ := h.place
  obtain ⟨prepared, hPrepare, hPrepared, hAscii, hHas⟩ := exists_prepare h.headers h.token hDate
  have hStamp := Stamp.isAscii_compact time
  obtain ⟨canonical, names, hCanonical, hWhole, hNames⟩ :
      ∃ canonical names, canonicalRequest prepared = .ok (canonical, names) ∧
        Text.isWhole canonical = true ∧ IsAscii names := by
    rw [hPrepared] at hAscii ⊢
    exact exists_canonicalRequest hAscii h.url h.method hPlace (by rwa [HostReadable, hHas])
  obtain ⟨signature, hSign, hSignature⟩ :=
    exists_sign h.secretKey hStamp h.region h.service hWhole
  have hValue := isAscii_claimText h.accessKey hStamp h.region h.service hNames hSignature
  have hName : IsAscii "authorization" := by decide
  obtain ⟨headers, hCarry⟩ :=
    exists_carry request.headerEncoding (hAscii.append (.single hName hValue)) carriedHeaders
      request.headers
  exact ⟨_, apply_eq_ok.mpr ⟨time, prepared, _, headers, hTime, hPrepare,
    authorization_eq_ok.mpr ⟨canonical, names, signature, hCanonical, hSign, rfl⟩, hCarry, rfl⟩⟩

end Signature
end ClientAuth

import ClientAuth.Proofs.DigitPairs
import ClientAuth.Proofs.HeaderValues
import ClientAuth.Proofs.SignedRequest
import ClientAuth.Proofs.SortedList
import ClientAuth.Proofs.TextPieces

/-! What the value of an authorization header says, read by the one who checks it. Main statement:
`readClaim?_claimText`, by which the names and the signature that a signing has put into
the value are read from it again. -/
namespace ClientAuth.Signature

variable {credentials : AwsCredentials} {scope : Scope} {request : ApiRequest}
  {headers signed : Headers} {place : UrlPlace} {name value : String}

/-- A name that can be told from its neighbours in a list: it has no gaps, commas, semicolons and
equals signs. Every token is such a name. -/
def IsListable (name : String) : Prop :=
  ∀ c ∈ name.toList, Text.isGap c = false ∧ c ∉ [',', ';', '=']

instance (name : String) : Decidable (IsListable name) :=
  List.decidableBAll (fun c : Char => Text.isGap c = false ∧ c ∉ [',', ';', '=']) name.toList

/-- Reads the names of the signed headers and the signature. Both stand at the end, where no access
key and no region can be mistaken for them. -/
def readClaim? (value : String) : Option (List String × String) :=
  let (front, signature) := Text.splitLast '=' value.toList
  let (_, listed) := Text.splitLast '=' front
  if listed.dropWhile (· ≠ ',') = ", Signature".toList then
    some ((Text.splitOn ';' (listed.takeWhile (· ≠ ','))).map String.ofList,
      String.ofList signature)
  else none

theorem readClaim?_claimText {names : List String} {signature : String} (accessKey stamp : String)
    (scope : Scope) (hSome : names ≠ []) (hNames : ∀ name ∈ names, IsListable name)
    (hSignature : '=' ∉ signature.toList) :
    readClaim? (claimText accessKey stamp scope (";".intercalate names) signature) =
      some (names, signature) := by
  let listed := Text.joinWith ';' (names.map String.toList)
  have hListed {c : Char} (hMem : c ∈ listed) : c ≠ ',' ∧ c ≠ '=' := by
    rcases Text.mem_joinWith hMem with rfl | ⟨piece, hPiece, hIn⟩
    · decide
    · obtain ⟨name, hName, rfl⟩ := List.mem_map.mp hPiece
      have hPlain := (hNames name hName c hIn).2
      simp only [List.mem_cons, not_or] at hPlain
      exact ⟨hPlain.1, hPlain.2.2.1⟩
  have hComma : ∀ c ∈ listed, decide (c ≠ ',') = true :=
    fun c hMem => decide_eq_true (hListed hMem).1
  -- No equals sign stands behind the two that are looked for.
  have hEquals : '=' ∉ listed ++ ", Signature".toList := by
    rw [List.mem_append, not_or]
    exact ⟨fun hMem => (hListed hMem).2 rfl, by decide⟩
  obtain ⟨front, hText⟩ : ∃ front,
      (claimText accessKey stamp scope (";".intercalate names) signature).toList =
        (front ++ '=' :: (listed ++ ", Signature".toList)) ++ '=' :: signature.toList := by
    refine ⟨("AWS4-HMAC-SHA256 Credential=" ++ accessKey ++ "/" ++
      scopeText (dayOf stamp) scope ++ ", SignedHeaders").toList, ?_⟩
    simp [claimText, String.intercalate_cons_cons, listed, ← Text.toList_intercalate_single]
  have hPieces : Text.splitOn ';' listed = names.map String.toList := by
    refine Text.splitOn_joinWith (by simpa using hSome) fun piece hPiece hMem => ?_
    obtain ⟨name, hName, rfl⟩ := List.mem_map.mp hPiece
    exact absurd (hNames name hName ';' hMem).2 (by decide)
  rw [readClaim?, hText, Text.splitLast_append _ hSignature]
  dsimp only
  rw [Text.splitLast_append _ hEquals]
  dsimp only
  have hDrop : (", Signature".toList).dropWhile (· ≠ ',') = ", Signature".toList := by decide
  have hTake : (", Signature".toList).takeWhile (· ≠ ',') = [] := by decide
  rw [List.dropWhile_append_of_pos hComma, hDrop, if_pos rfl,
    List.takeWhile_append_of_pos hComma, hTake, List.append_nil, hPieces, String.ofList_toList]
  simp

/-- The text that is signed for a request, of the headers that are signed, their names and the
digest of the body. -/
def canonicalText (request : ApiRequest) (signed : Headers) (names digest : String) : String :=
  let raw := Url.Raw.ofText request.url.text.toList
  "\n".intercalate
    [request.method, canonicalPath (String.ofList raw.path), canonicalQuery raw.query,
     "\n".intercalate (signed.map fun (name, value) => name ++ ":" ++ trimAll value) ++ "\n",
     names, digest]

theorem canonicalRequest_eq_ok {canonical names : String} :
    canonicalRequest request = .ok (canonical, names) ↔
      ∃ place signed, UrlPlace.ofRaw (Url.Raw.ofText request.url.text.toList) = .ok place ∧
        signedHeaders place request.headers = .ok signed ∧ names = headerNames signed ∧
        canonical = canonicalText request signed (headerNames signed)
          (bodyDigest request.headers request.body) := by
  rw [canonicalRequest]
  constructor
  · intro h
    obtain ⟨place, hPlace, h⟩ := Outcome.bind_eq_ok.mp h
    obtain ⟨signed, hSigned, h⟩ := Outcome.bind_eq_ok.mp h
    obtain ⟨hCanonical, hNames⟩ := Prod.mk.inj (Except.ok.inj h)
    exact ⟨place, signed, hPlace, hSigned, hNames.symm, hCanonical.symm⟩
  · rintro ⟨place, signed, hPlace, hSigned, rfl, rfl⟩
    rw [hPlace, Outcome.ok_bind, hSigned]
    rfl

/-- A header that a signature covers: the name is not one of those that are left out, and the
value is what the request has for it, or the host of the URL if the request has none. -/
def Covers (place : UrlPlace) (headers : Headers) (name value : String) : Prop :=
  name ∉ unsignedHeaders ∧ (headers.joined? name = some value ∨
    name = "host" ∧ headers.joined? name = none ∧ place.hostText = .ok value)

theorem covers_of_mem (h : (name, value) ∈ coveredHeaders headers) :
    Covers place headers name value := by
  obtain ⟨hMerged, hCovered⟩ := List.mem_filter.mp h
  exact ⟨of_decide_eq_true hCovered, Or.inl (Headers.joined?_of_mem_merged hMerged)⟩

/-- What is signed is what the request has, and the host of the URL if it names none. -/
theorem exists_of_signedHeaders (h : signedHeaders place headers = .ok signed) :
    ∃ covered, signed = sortBy pairBefore covered ∧ Headers.has covered "host" = true ∧
      ∀ name value, (name, value) ∈ covered → Covers place headers name value := by
  rw [signedHeaders_eq] at h
  split at h
  next hHas =>
    refine ⟨coveredHeaders headers, (Except.ok.inj h).symm, ?_, fun _ _ => covers_of_mem⟩
    rw [has_coveredHeaders, hHas]
  next hHas =>
    obtain ⟨host, hHost, h⟩ := Outcome.bind_eq_ok.mp h
    refine ⟨coveredHeaders headers ++ [("host", host)], (Except.ok.inj h).symm, ?_, ?_⟩
    · simp [Headers.has]
    · intro name value hMem
      rcases List.mem_append.mp hMem with hOwn | hAdded
      · exact covers_of_mem hOwn
      · obtain ⟨rfl, rfl⟩ := Prod.mk.inj (List.mem_singleton.mp hAdded)
        rw [Bool.not_eq_true] at hHas
        exact ⟨by decide, Or.inr ⟨rfl, Headers.valueOf?_eq_none.mpr hHas, hHost⟩⟩

theorem covers_of_signedHeaders (h : signedHeaders place headers = .ok signed)
    {entry : String × String} (hMem : entry ∈ signed) : Covers place headers entry.1 entry.2 := by
  obtain ⟨covered, rfl, -, hCovers⟩ := exists_of_signedHeaders h
  exact hCovers entry.1 entry.2 ((sortBy_perm pairBefore covered).mem_iff.mp hMem)

/-- There is a host among the signed headers at least. -/
theorem ne_nil_of_signedHeaders (h : signedHeaders place headers = .ok signed) : signed ≠ [] := by
  obtain ⟨covered, rfl, hHost, -⟩ := exists_of_signedHeaders h
  obtain ⟨entry, hMem, -⟩ := List.any_eq_true.mp hHost
  exact List.ne_nil_of_mem ((sortBy_perm pairBefore covered).mem_iff.mpr hMem)

/-- The names of the signed headers are listed in the order in which the headers are signed. -/
theorem headerNames_of_signedHeaders (h : signedHeaders place headers = .ok signed)
    (hNames : ∀ entry ∈ signed, IsListable entry.1) :
    headerNames signed = ";".intercalate (signed.map (·.1)) := by
  obtain ⟨covered, rfl, -, -⟩ := exists_of_signedHeaders h
  have hTrim : (sortBy pairBefore covered).map
      (fun (name, _) => String.ofList (Text.trim Text.isGap name.toList)) =
        (sortBy pairBefore covered).map (·.1) := by
    refine List.map_congr_left fun entry hMem => ?_
    have hPlain := hNames entry hMem
    dsimp only
    rw [Text.trim_eq_self fun c hIn => (hPlain c hIn).1, String.ofList_toList]
  rw [headerNames, hTrim, sortBy_names]

/-- A signature is written in hexadecimal digits. -/
theorem not_mem_of_sign {secret stamp canonical signature : String}
    (h : sign secret stamp scope canonical = .ok signature) : '=' ∉ signature.toList := by
  obtain ⟨text, -, h⟩ := Outcome.bind_eq_ok.mp h
  obtain ⟨key, -, h⟩ := Outcome.bind_eq_ok.mp h
  obtain ⟨bytes, -, h⟩ := Outcome.bind_eq_ok.mp h
  obtain rfl := Except.ok.inj h
  intro hMem
  have hNone := Hex.decodeChars?_eq_none_of_mem (by decide) (by decide) hMem
  have hSome := Hex.decode?_encode (Hmac.tag key bytes)
  rw [Hex.decode?, hNone] at hSome
  cases hSome

end ClientAuth.Signature

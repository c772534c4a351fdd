import ClientAuth.Api.Request
import ClientAuth.Proofs.AsciiText
import ClientAuth.Proofs.StampText
import ClientAuth.Sorting

/-! Headers: one of them set in others, all of one name merged, and those in ASCII. The headers of
a new request are, by `create_allAscii`. -/
namespace ClientAuth.Headers

open Text (IsAscii)

variable {headers others : Headers} {name other value : String}

theorem filter_erase (headers : Headers) : (erase headers name).filter (·.1 = name) = [] := by
  simp [erase]

theorem filter_erase_ne (h : other ≠ name) (headers : Headers) :
    (erase headers name).filter (·.1 = other) = headers.filter (·.1 = other) := by
  rw [erase, List.filter_filter]
  refine List.filter_congr fun entry _ => ?_
  by_cases hOther : entry.1 = other
  · simp [hOther, h]
  · simp [hOther]

/-- A header that is set has one value. -/
theorem filter_set (headers : Headers) :
    (set name value headers).filter (·.1 = name) = [(name, value)] := by
  induction headers with
  | nil => simp [set]
  | cons entry rest ih =>
      obtain ⟨first, old⟩ := entry
      by_cases hFirst : first = name
      · rw [set, if_pos hFirst, List.filter_cons_of_pos (by simp), filter_erase]
      · rw [set, if_neg hFirst, List.filter_cons_of_neg (by simpa using hFirst), ih]

theorem erase_set (headers : Headers) :
    erase (set name value headers) name = erase headers name := by
  induction headers with
  | nil => simp [set, erase]
  | cons entry rest ih =>
      obtain ⟨first, old⟩ := entry
      by_cases hFirst : first = name
      · subst hFirst
        rw [set, if_pos rfl]
        simp [erase, List.filter_filter]
      · rw [set, if_neg hFirst]
        simpa [erase, hFirst] using ih

/-- Setting a header leaves the others as they are. -/
theorem filter_set_ne (h : other ≠ name) (headers : Headers) :
    (set name value headers).filter (·.1 = other) = headers.filter (·.1 = other) := by
  rw [← filter_erase_ne h (set name value headers), erase_set, filter_erase_ne h]

theorem joined?_of_filter (h : headers.filter (·.1 = name) = [(name, value)]) :
    headers.joined? name = some value := by
  rw [joined?, h]
  rfl

/-- All names and values are in ASCII. -/
def AllAscii (headers : Headers) : Prop := ∀ entry ∈ headers, IsAscii entry.1 ∧ IsAscii entry.2

instance (headers : Headers) : Decidable headers.AllAscii :=
  inferInstanceAs (Decidable (∀ entry ∈ headers, _))

theorem AllAscii.append (h : headers.AllAscii) (hOthers : AllAscii others) :
    AllAscii (headers ++ others) := by
  intro entry hMem
  exact (List.mem_append.mp hMem).elim (h entry) (hOthers entry)

theorem AllAscii.single {value : String} (hName : IsAscii name) (hValue : IsAscii value) :
    AllAscii [(name, value)] := by
  intro entry hMem
  obtain rfl := List.mem_singleton.mp hMem
  exact ⟨hName, hValue⟩

theorem AllAscii.filter (h : headers.AllAscii) (keep : String × String → Bool) :
    AllAscii (List.filter keep headers) :=
  fun entry hMem => h entry (List.mem_filter.mp hMem).1

theorem AllAscii.erase (h : headers.AllAscii) (name : String) : AllAscii (erase headers name) :=
  h.filter _

theorem AllAscii.sortBy (h : headers.AllAscii) (less : String × String → String × String → Bool) :
    AllAscii (sortBy less headers) :=
  fun entry hMem => h entry ((sortBy_perm less headers).mem_iff.mp hMem)

theorem AllAscii.joined? (h : headers.AllAscii) {value : String}
    (hJoined : headers.joined? name = some value) : IsAscii value := by
  rw [Headers.joined?] at hJoined
  split at hJoined
  · nomatch hJoined
  · obtain rfl := Option.some.inj hJoined
    refine Text.isAscii_intercalate (by decide) fun text hText => ?_
    obtain ⟨entry, hEntry, rfl⟩ := List.mem_map.mp hText
    exact (h entry (List.mem_filter.mp hEntry).1).2

theorem has_of_filter (h : headers.filter (·.1 = name) = others.filter (·.1 = name)) :
    has headers name = has others name := by
  have hFilter (headers : Headers) : has headers name = !(headers.filter (·.1 = name)).isEmpty := by
    rw [has, Bool.eq_iff_iff]
    simp [List.filter_eq_nil_iff]
  rw [hFilter, hFilter, h]

/-- One header more in merged ones. -/
def mergeInto (found : Headers) (entry : String × String) : Headers :=
  if has found entry.1 then
    found.map fun (other, old) =>
      if other = entry.1 then (other, old ++ ", " ++ entry.2) else (other, old)
  else found ++ [entry]

theorem merged_eq (headers : Headers) : merged headers = headers.foldl mergeInto [] := rfl

theorem has_mergeInto (found : Headers) (entry : String × String) (name : String) :
    has (mergeInto found entry) name = (has found name || decide (entry.1 = name)) := by
  rw [mergeInto]
  split
  next hFound =>
    have hSame : has (found.map fun (other, old) =>
        if other = entry.1 then (other, old ++ ", " ++ entry.2) else (other, old)) name =
          has found name := by
      rw [has, has, List.any_map]
      congr 1
      funext (other, old)
      by_cases h : other = entry.1 <;> simp [h]
    rw [hSame]
    by_cases hName : entry.1 = name
    · rw [← hName, hFound]
      rfl
    · simp [hName]
  next => simp [has]

theorem has_merged (headers : Headers) (name : String) :
    has (merged headers) name = has headers name := by
  have hFold (found : Headers) :
      has (headers.foldl mergeInto found) name = (has found name || has headers name) := by
    induction headers generalizing found with
    | nil => simp [has]
    | cons entry headers ih =>
        rw [List.foldl_cons, ih, has_mergeInto, Bool.or_assoc]
        rfl
  rw [merged_eq, hFold]
  rfl

theorem AllAscii.merged (h : headers.AllAscii) : AllAscii (merged headers) := by
  have hFold (found : Headers) (hFound : found.AllAscii) :
      AllAscii (headers.foldl mergeInto found) := by
    induction headers generalizing found with
    | nil => exact hFound
    | cons entry headers ih =>
        refine ih (fun other hMem => h other (List.mem_cons_of_mem _ hMem)) _ ?_
        have hEntry := h entry List.mem_cons_self
        rw [mergeInto]
        split
        · intro other hMem
          obtain ⟨old, hOld, rfl⟩ := List.mem_map.mp hMem
          have hOld := hFound old hOld
          dsimp only
          split
          · exact ⟨hOld.1, (hOld.2.append (by decide)).append hEntry.2⟩
          · exact hOld
        · exact hFound.append (.single hEntry.1 hEntry.2)
  exact hFold [] nofun

end ClientAuth.Headers

namespace ClientAuth

open Text (IsAscii)

/-- Either encoding holds what is in ASCII. -/
theorem HeaderEncoding.holds_of_isAscii (encoding : HeaderEncoding) {value : String}
    (h : IsAscii value) : encoding.holds value = true := by
  cases encoding with
  | ascii => simpa [holds, ApiRequest.isAscii, IsAscii] using h
  | utf8 => exact Text.isWhole_of_isAscii h

namespace ApiRequest

variable {method url : String} {headers : Headers} {body : Bytes} {request : ApiRequest}

theorem isAscii_iff {text : String} : isAscii text = true ↔ IsAscii text := by
  simp [isAscii, IsAscii]

theorem isAscii_lowerName {name : String} (h : IsAscii name) : IsAscii (lowerName name) := by
  refine Text.isAscii_ofList fun c hMem => ?_
  obtain ⟨old, hOld, rfl⟩ := List.mem_map.mp hMem
  rw [Numeral.lower]
  split
  next hUpper =>
    have hLast : old.toNat ≤ 90 := hUpper.2
    rw [Text.toNat_ofNat (Or.inl (by omega))]
    omega
  next => exact h old hOld

theorem allAscii_withBodyLength (h : headers.AllAscii) (body : Bytes) :
    (withBodyLength body headers).AllAscii := by
  rw [withBodyLength]
  split
  · exact h
  · exact h.append (.single (by decide) (Stamp.isAscii_toString _))

/-- What is put in front is in ASCII if the host that goes there is. -/
theorem allAscii_leadingHeaders {url : Url}
    (h : headers.has "host" = false → IsAscii url.hostText) (method : String) :
    (leadingHeaders method url headers).AllAscii := by
  rw [leadingHeaders]
  refine Headers.AllAscii.append ?_ ?_
  · split
    · exact nofun
    next hAbsent =>
      rw [Bool.or_eq_true, not_or] at hAbsent
      exact .single (by decide) (h (eq_false_of_ne_true hAbsent.1))
  · split
    · exact nofun
    · exact .single (by decide) (by decide)

theorem isAscii_hostText_of_checkHost {url : Url} (h : url.checkHost = .ok ()) :
    IsAscii url.hostText := by
  rw [Url.checkHost] at h
  cases hName : url.checkName with
  | error cause =>
      rw [hName] at h
      nomatch h
  | ok checked =>
      rw [hName] at h
      change (if isAscii url.hostText then _ else _) = _ at h
      split at h
      next hHost => exact isAscii_iff.mp hHost
      next => nomatch h

/-- The headers that a request is built with, under names in lower case and with the length of the
body. -/
theorem allAscii_given
    (h : headers.all (fun (name, value) => isAscii name && isAscii value) = true) (body : Bytes) :
    (withBodyLength body (headers.map fun (name, value) => (lowerName name, value))).AllAscii := by
  refine allAscii_withBodyLength (fun entry hMem => ?_) body
  obtain ⟨old, hOld, rfl⟩ := List.mem_map.mp hMem
  obtain ⟨hName, hValue⟩ := Bool.and_eq_true_iff.mp (List.all_eq_true.mp h old hOld)
  exact ⟨isAscii_lowerName (isAscii_iff.mp hName), isAscii_iff.mp hValue⟩

theorem headerEncoding_of_allAscii (h : request.headers.AllAscii)
    (hOpen : request.encoding = none) : request.headerEncoding = .ascii := by
  rw [headerEncoding, hOpen]
  refine if_pos (List.all_eq_true.mpr fun entry hMem => ?_)
  obtain ⟨hName, hValue⟩ := h entry hMem
  exact Bool.and_eq_true_iff.mpr ⟨isAscii_iff.mpr hName, isAscii_iff.mpr hValue⟩

/-- The headers of a new request are in ASCII, and they are written in ASCII. -/
theorem create_allAscii (h : create method url headers body = .ok request) :
    request.headers.AllAscii ∧ request.headerEncoding = .ascii := by
  rw [create] at h
  split at h
  next => nomatch h
  next url hUrl =>
    split at h
    next => nomatch h
    next hGiven =>
      rw [Bool.not_eq_true', Bool.not_eq_false] at hGiven
      have hRest := allAscii_given hGiven body
      dsimp only at h
      generalize withBodyLength body _ = given at h hRest
      split at h
      next => nomatch h
      next hHost =>
        obtain rfl := Except.ok.inj h
        have hName (hAbsent : given.has "host" = false) : IsAscii url.hostText :=
          isAscii_hostText_of_checkHost (by rwa [hAbsent, if_neg Bool.false_ne_true] at hHost)
        have hAll := (allAscii_leadingHeaders hName (Text.upper method)).append hRest
        exact ⟨hAll, headerEncoding_of_allAscii hAll rfl⟩

end ApiRequest
end ClientAuth

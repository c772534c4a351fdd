import Mathlib.Data.List.Infix
import ClientAuth.Proofs.HeaderValues

/-! Headers set over others, one after another. Main statements: `merged_set`, by which a header can
be set before or after headers are merged, and `setAll_setAll`, by which headers that are set again
leave nothing of those that were set first. -/
namespace ClientAuth.Headers

variable {headers : Headers} {name other value old : String} {entry : String × String}

theorem set_cons_self (name value old : String) (rest : Headers) :
    set name value ((name, old) :: rest) = (name, value) :: erase rest name := by
  rw [set, if_pos rfl]

theorem set_cons_ne (h : other ≠ name) (value old : String) (rest : Headers) :
    set name value ((other, old) :: rest) = (other, old) :: set name value rest := by
  rw [set, if_neg h]

theorem erase_cons_self (name value : String) (rest : Headers) :
    erase ((name, value) :: rest) name = erase rest name :=
  List.filter_cons_of_neg (by simp)

theorem erase_cons_ne (h : other ≠ name) (value : String) (rest : Headers) :
    erase ((other, value) :: rest) name = (other, value) :: erase rest name :=
  List.filter_cons_of_pos (by simpa using h)

theorem erase_append (first second : Headers) (name : String) :
    erase (first ++ second) name = erase first name ++ erase second name :=
  List.filter_append ..

theorem erase_comm (headers : Headers) (name other : String) :
    erase (erase headers name) other = erase (erase headers other) name :=
  List.filter_comm ..

theorem erase_of_has_eq_false (h : headers.has name = false) : erase headers name = headers := by
  rw [has, List.any_eq_false] at h
  exact List.filter_eq_self.mpr fun entry hMem => by simpa using h entry hMem

theorem has_erase_self (headers : Headers) (name : String) :
    (erase headers name).has name = false :=
  has_eq_false.mpr (filter_erase headers)

theorem has_set_self (name value : String) (headers : Headers) :
    has (set name value headers) name = true := by
  rw [← Bool.not_eq_false, has_eq_false, filter_set]
  exact List.cons_ne_nil _ _

theorem has_cons_ne (h : other ≠ name) (value : String) (rest : Headers) :
    has ((other, value) :: rest) name = has rest name := by
  simp [has, h]

/-- A header that is not among the first ones is set among the others. -/
theorem set_append_of_has_eq_false (h : headers.has name = false) (value : String)
    (others : Headers) : set name value (headers ++ others) = headers ++ set name value others := by
  induction headers with
  | nil => rfl
  | cons entry rest ih =>
      obtain ⟨first, text⟩ := entry
      by_cases hFirst : first = name
      · subst hFirst
        simp [has] at h
      · rw [has_cons_ne hFirst] at h
        rw [List.cons_append, set_cons_ne hFirst, ih h, List.cons_append]

/-- A header that is not there is set behind all others. -/
theorem set_of_has_eq_false (h : headers.has name = false) (value : String) :
    set name value headers = headers ++ [(name, value)] := by
  simpa [set] using set_append_of_has_eq_false h value []

/-- A header that is there is set where it is. -/
theorem set_append_of_has (h : headers.has name = true) (value : String) (others : Headers) :
    set name value (headers ++ others) = set name value headers ++ erase others name := by
  induction headers with
  | nil => cases h
  | cons entry rest ih =>
      obtain ⟨first, text⟩ := entry
      by_cases hFirst : first = name
      · subst hFirst
        rw [List.cons_append, set_cons_self, set_cons_self, erase_append, List.cons_append]
      · rw [has_cons_ne hFirst] at h
        rw [List.cons_append, set_cons_ne hFirst, set_cons_ne hFirst, ih h, List.cons_append]

theorem erase_set_ne (h : name ≠ other) (value : String) (headers : Headers) :
    erase (set other value headers) name = set other value (erase headers name) := by
  induction headers with
  | nil => exact erase_cons_ne h.symm value []
  | cons entry rest ih =>
      obtain ⟨first, text⟩ := entry
      by_cases hFirst : first = other
      · subst hFirst
        rw [set_cons_self, erase_cons_ne h.symm, erase_cons_ne h.symm, set_cons_self, erase_comm]
      · rw [set_cons_ne hFirst]
        by_cases hName : first = name
        · subst hName
          rw [erase_cons_self, erase_cons_self, ih]
        · rw [erase_cons_ne hName, erase_cons_ne hName, set_cons_ne hFirst, ih]

/-- A header that is set twice has its last value. -/
theorem set_set (name value old : String) (headers : Headers) :
    set name value (set name old headers) = set name value headers := by
  induction headers with
  | nil => exact set_cons_self name value old []
  | cons entry rest ih =>
      obtain ⟨first, text⟩ := entry
      by_cases hFirst : first = name
      · subst hFirst
        rw [set_cons_self, set_cons_self, set_cons_self,
          erase_of_has_eq_false (has_erase_self rest first)]
      · rw [set_cons_ne hFirst, set_cons_ne hFirst, set_cons_ne hFirst, ih]

/-- Headers can be set in either order if the one to be set last is there already. -/
theorem set_comm (h : name ≠ other) (hHas : headers.has name = true) (value old : String) :
    set name value (set other old headers) = set other old (set name value headers) := by
  induction headers with
  | nil => cases hHas
  | cons entry rest ih =>
      obtain ⟨first, text⟩ := entry
      by_cases hName : first = name
      · subst hName
        rw [set_cons_ne h, set_cons_self, set_cons_self, set_cons_ne h, erase_set_ne h]
      · rw [has_cons_ne hName] at hHas
        by_cases hOther : first = other
        · subst hOther
          rw [set_cons_self, set_cons_ne hName, set_cons_ne hName, set_cons_self,
            erase_set_ne h.symm]
        · rw [set_cons_ne hOther, set_cons_ne hName, set_cons_ne hName, set_cons_ne hOther, ih hHas]

/-- A header that has one value is not changed by setting it to that value. -/
theorem set_eq_self (h : headers.filter (·.1 = name) = [(name, value)]) :
    set name value headers = headers := by
  induction headers with
  | nil => cases h
  | cons entry rest ih =>
      obtain ⟨first, text⟩ := entry
      by_cases hFirst : first = name
      · subst hFirst
        rw [List.filter_cons_of_pos (by simp), List.cons.injEq] at h
        rw [set_cons_self, erase_of_has_eq_false (has_eq_false.mpr h.2), h.1]
      · rw [List.filter_cons_of_neg (by simpa using hFirst)] at h
        rw [set_cons_ne hFirst, ih h]

/-- Setting a header changes none of those that are looked at, if it is not among them. -/
theorem filter_set_of_not {keep : String × String → Bool} (h : ∀ value, keep (name, value) = false)
    (value : String) (headers : Headers) :
    (set name value headers).filter keep = headers.filter keep := by
  have hErase (headers : Headers) : (erase headers name).filter keep = headers.filter keep := by
    rw [erase, List.filter_filter]
    refine List.filter_congr fun entry _ => ?_
    by_cases hName : entry.1 = name
    · have hNone : keep entry = false := by rw [← h entry.2, ← hName]
      simp [hNone]
    · simp [hName]
  rw [← hErase (set name value headers), erase_set, hErase]

theorem exists_extended (entry : String × String) (name text : String) :
    ∃ longer, extended entry (name, text) = (name, longer) :=
  ⟨(extended entry (name, text)).2, Prod.ext (extended_fst entry (name, text)) rfl⟩

theorem erase_extended (headers : Headers) (entry : String × String) (name : String) :
    erase (headers.map (extended entry)) name = (erase headers name).map (extended entry) := by
  rw [erase, List.filter_map]
  congr 2
  funext header
  rw [Function.comp_apply, extended_fst]

/-- A value is put behind that of one name before or after another name is set. -/
theorem set_extended_ne (h : entry.1 ≠ name) (value : String) (headers : Headers) :
    set name value (headers.map (extended entry)) =
      (set name value headers).map (extended entry) := by
  have hOwn : extended entry (name, value) = (name, value) := if_neg h.symm
  induction headers with
  | nil => rw [List.map_nil, set, List.map_cons, hOwn, List.map_nil]
  | cons header rest ih =>
      obtain ⟨first, text⟩ := header
      obtain ⟨longer, hLonger⟩ := exists_extended entry first text
      rw [List.map_cons, hLonger]
      by_cases hFirst : first = name
      · subst hFirst
        rw [set_cons_self, set_cons_self, List.map_cons, hOwn, erase_extended]
      · rw [set_cons_ne hFirst, set_cons_ne hFirst, List.map_cons, hLonger, ih]

/-- What is put behind a value is lost when the value is set. -/
theorem set_extended_self (entry : String × String) (value : String) (headers : Headers) :
    set entry.1 value (headers.map (extended entry)) = set entry.1 value headers := by
  induction headers with
  | nil => rfl
  | cons header rest ih =>
      obtain ⟨first, text⟩ := header
      by_cases hFirst : first = entry.1
      · subst hFirst
        obtain ⟨longer, hLonger⟩ := exists_extended entry entry.1 text
        rw [List.map_cons, hLonger, set_cons_self, set_cons_self, erase_extended]
        have hOthers : ∀ other ∈ erase rest entry.1, extended entry other = other := by
          intro other hMem
          exact if_neg (by simpa using (List.mem_filter.mp hMem).2)
        rw [List.map_congr_left hOthers, List.map_id']
      · have hOther : extended entry (first, text) = (first, text) := if_neg hFirst
        rw [List.map_cons, hOther, set_cons_ne hFirst, set_cons_ne hFirst, ih]

theorem mergeInto_set_ne (h : entry.1 ≠ name) (hHas : headers.has name = true) (value : String) :
    mergeInto (set name value headers) entry = set name value (mergeInto headers entry) := by
  have hSame : (set name value headers).has entry.1 = headers.has entry.1 :=
    has_of_filter (filter_set_ne h headers)
  rw [mergeInto_eq, mergeInto_eq, hSame]
  split
  · rw [set_extended_ne h]
  · obtain ⟨first, text⟩ := entry
    rw [set_append_of_has hHas, erase_cons_ne h]
    rfl

theorem set_mergeInto_self (h : headers.has name = true) (text value : String) :
    set name value (mergeInto headers (name, text)) = set name value headers := by
  rw [mergeInto_eq, if_pos h]
  exact set_extended_self (name, text) value headers

theorem mergeInto_of_has_eq_false (h : headers.has name = false) (value : String) :
    mergeInto headers (name, value) = headers ++ [(name, value)] := by
  rw [mergeInto_eq, h]
  rfl

/-- A header can be set before or after headers are merged. -/
theorem merged_set (name value : String) (headers : Headers) :
    merged (set name value headers) = set name value (merged headers) := by
  -- On the last header, as merging goes. It is set where the name is first, or as the last one.
  induction headers using List.reverseRec with
  | nil => rfl
  | append_singleton headers entry ih =>
      obtain ⟨first, text⟩ := entry
      have hMerged := has_merged headers name
      rw [merged_append]
      cases hHas : has headers name with
      | true =>
          rw [hHas] at hMerged
          rw [set_append_of_has hHas]
          by_cases hFirst : first = name
          · subst hFirst
            rw [erase_cons_self, set_mergeInto_self hMerged]
            exact (congrArg merged (List.append_nil _)).trans ih
          · rw [erase_cons_ne hFirst, ← mergeInto_set_ne hFirst hMerged, ← ih]
            exact merged_append (set name value headers) (first, text)
      | false =>
          rw [hHas] at hMerged
          rw [set_append_of_has_eq_false hHas]
          by_cases hFirst : first = name
          · subst hFirst
            rw [set_cons_self, mergeInto_of_has_eq_false hMerged,
              set_append_of_has_eq_false hMerged, set_cons_self]
            exact (merged_append headers (first, value)).trans (mergeInto_of_has_eq_false hMerged _)
          · have hNone : (mergeInto (merged headers) (first, text)).has name = false := by
              rw [has_mergeInto, hMerged]
              simpa using hFirst
            have hLast : headers ++ set name value [(first, text)] =
                headers ++ [(first, text)] ++ [(name, value)] := by
              rw [set_cons_ne hFirst, List.append_assoc]
              rfl
            rw [hLast, merged_append, merged_append, mergeInto_of_has_eq_false hNone,
              set_of_has_eq_false hNone]

/-- Headers set one after another. -/
def setAll (entries headers : Headers) : Headers :=
  entries.foldl (fun headers entry => set entry.1 entry.2 headers) headers

theorem setAll_cons (entry : String × String) (entries headers : Headers) :
    setAll (entry :: entries) headers = setAll entries (set entry.1 entry.2 headers) := rfl

theorem merged_setAll (entries headers : Headers) :
    merged (setAll entries headers) = setAll entries (merged headers) := by
  induction entries generalizing headers with
  | nil => rfl
  | cons entry entries ih => rw [setAll_cons, ih, merged_set, setAll_cons]

theorem filter_setAll_of_not {keep : String × String → Bool} {entries : Headers}
    (h : ∀ entry ∈ entries, ∀ value, keep (entry.1, value) = false) (headers : Headers) :
    (setAll entries headers).filter keep = headers.filter keep := by
  induction entries generalizing headers with
  | nil => rfl
  | cons entry entries ih =>
      rw [setAll_cons, ih fun other hMem => h other (List.mem_cons_of_mem _ hMem),
        filter_set_of_not (h entry List.mem_cons_self)]

/-- A header that is there already can be set before or after others are. -/
theorem set_setAll {entries : Headers} (h : entries.has name = false)
    (hHas : headers.has name = true) (value : String) :
    set name value (setAll entries headers) = setAll entries (set name value headers) := by
  induction entries generalizing headers with
  | nil => rfl
  | cons entry entries ih =>
      obtain ⟨other, old⟩ := entry
      have hOther : name ≠ other := by
        rintro rfl
        simp [has] at h
      rw [has_cons_ne hOther.symm] at h
      have hStill : (set other old headers).has name = true :=
        (has_of_filter (filter_set_ne hOther headers)).trans hHas
      rw [setAll_cons, ih h hStill, set_comm hOther hHas, setAll_cons]

/-- Headers that are set again, in the same order and perhaps with more of them, are as if they had
been set only then. -/
theorem setAll_setAll {first second : Headers} (hNames : first.map (·.1) <+: second.map (·.1))
    (hNodup : (second.map (·.1)).Nodup) (headers : Headers) :
    setAll second (setAll first headers) = setAll second headers := by
  induction first generalizing second headers with
  | nil => rfl
  | cons entry first ih =>
      obtain ⟨name, old⟩ := entry
      cases second with
      | nil => exact absurd (List.prefix_nil.mp hNames) (List.cons_ne_nil _ _)
      | cons entry second =>
          obtain ⟨other, value⟩ := entry
          rw [List.map_cons, List.map_cons] at hNames
          obtain ⟨hSame, hRest⟩ := List.cons_prefix_cons.mp hNames
          obtain rfl : name = other := hSame
          obtain ⟨hNew, hNodup⟩ := List.nodup_cons.mp hNodup
          have hLater : has first name = false := by
            rw [has, List.any_eq_false]
            intro later hMem hLater
            have hName : later.1 = name := by simpa using hLater
            exact hNew (hRest.subset (List.mem_map.mpr ⟨later, hMem, hName⟩))
          rw [setAll_cons, setAll_cons, set_setAll hLater (has_set_self name old headers), set_set,
            ih hRest hNodup, setAll_cons]

end ClientAuth.Headers

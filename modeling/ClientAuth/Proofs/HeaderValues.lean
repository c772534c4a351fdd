import Mathlib.Data.List.Induction
import ClientAuth.Proofs.HeaderSet

/-! The values of headers. Main statement: `filter_merged`, by which merging leaves each name once,
with the value that all its occurrences have together. -/
namespace ClientAuth.Headers

variable {headers others : Headers} {name value : String} {entry : String × String}

/-- All values of a name in one text, with a text of choice between them. -/
def valueOf? (between : String) (headers : Headers) (name : String) : Option String :=
  match headers.filter (·.1 = name) with
  | [] => none
  | found => some (between.intercalate (found.map (·.2)))

theorem has_eq_false : headers.has name = false ↔ headers.filter (·.1 = name) = [] := by
  rw [has, List.any_eq_false, List.filter_eq_nil_iff]

theorem joined?_eq (headers : Headers) (name : String) :
    headers.joined? name = headers.valueOf? ", " name := rfl

theorem valueOf?_of_filter (between : String)
    (h : headers.filter (·.1 = name) = [(name, value)]) :
    headers.valueOf? between name = some value := by
  rw [valueOf?, h]
  simp

theorem valueOf?_congr (between : String)
    (h : headers.filter (·.1 = name) = others.filter (·.1 = name)) :
    headers.valueOf? between name = others.valueOf? between name := by
  rw [valueOf?, h, valueOf?]

theorem valueOf?_eq_none {between : String} :
    headers.valueOf? between name = none ↔ headers.has name = false := by
  rw [valueOf?, has_eq_false]
  split
  next h => simp [h]
  next hSome => simpa using hSome

theorem has_of_joined? (h : headers.joined? name = some value) : headers.has name = true := by
  rw [← Bool.not_eq_false]
  intro hNone
  rw [joined?_eq, valueOf?_eq_none.mpr hNone] at h
  nomatch h

/-- What stands between the values of a name does not matter if it has one at most. -/
theorem valueOf?_of_length_le {between : String}
    (h : between = ", " ∨ (headers.filter (·.1 = name)).length ≤ 1) :
    headers.valueOf? between name = headers.joined? name := by
  rcases h with rfl | hSingle
  · rfl
  · rw [joined?_eq, valueOf?, valueOf?]
    cases hFilter : headers.filter (·.1 = name) with
    | nil => rfl
    | cons entry rest =>
        rw [hFilter, List.length_cons] at hSingle
        obtain rfl := List.eq_nil_of_length_eq_zero (by omega : rest.length = 0)
        simp

/-- One header more: its value is put behind those that its name has. -/
theorem joined?_append (headers : Headers) (entry : String × String) :
    joined? (headers ++ [entry]) name =
      if entry.1 = name then some ((headers.joined? name).elim "" (· ++ ", ") ++ entry.2)
      else headers.joined? name := by
  rw [joined?, List.filter_append]
  by_cases hName : entry.1 = name
  · rw [if_pos hName, List.filter_cons_of_pos (by simpa using hName), List.filter_nil, joined?]
    cases headers.filter (·.1 = name) with
    | nil => simp
    | cons first rest =>
        have hJoin := String.intercalate_append_of_ne_nil (s := ", ")
          (List.cons_ne_nil first.2 (rest.map (·.2))) (List.cons_ne_nil entry.2 [])
        rw [String.intercalate_singleton] at hJoin
        simpa using hJoin
  · rw [if_neg hName, List.filter_cons_of_neg (by simpa using hName), List.filter_nil,
      List.append_nil, joined?]

/-- A header with a value behind its own, if the names are the same. -/
def extended (entry header : String × String) : String × String :=
  if header.1 = entry.1 then (header.1, header.2 ++ ", " ++ entry.2) else header

theorem extended_fst (entry header : String × String) : (extended entry header).1 = header.1 := by
  rw [extended]
  split <;> rfl

theorem mergeInto_eq (headers : Headers) (entry : String × String) :
    mergeInto headers entry =
      if headers.has entry.1 then headers.map (extended entry) else headers ++ [entry] := rfl

theorem filter_extended (headers : Headers) (entry : String × String) :
    (headers.map (extended entry)).filter (·.1 = name) =
      (headers.filter (·.1 = name)).map (extended entry) := by
  rw [List.filter_map]
  congr 2
  funext header
  rw [Function.comp_apply, extended_fst]

/-- One header more in merged ones leaves the other names as they are. -/
theorem filter_mergeInto_ne (hName : entry.1 ≠ name) (headers : Headers) :
    (mergeInto headers entry).filter (·.1 = name) = headers.filter (·.1 = name) := by
  rw [mergeInto_eq]
  split
  · rw [filter_extended]
    refine (List.map_congr_left fun header hMem => ?_).trans (List.map_id _)
    have hSame : header.1 = name := by simpa using (List.mem_filter.mp hMem).2
    rw [extended, if_neg (by rw [hSame]; exact hName.symm), id]
  · rw [List.filter_append, List.filter_cons_of_neg (by simpa using hName), List.filter_nil,
      List.append_nil]

/-- One header more in merged ones: its value is put behind the one that its name has. -/
theorem filter_mergeInto (headers : Headers) (entry : String × String) :
    (mergeInto headers entry).filter (·.1 = entry.1) =
      if headers.has entry.1 then
        (headers.filter (·.1 = entry.1)).map fun header =>
          (entry.1, header.2 ++ ", " ++ entry.2)
      else [entry] := by
  rw [mergeInto_eq]
  split
  · rw [filter_extended]
    refine List.map_congr_left fun header hMem => ?_
    have hSame : header.1 = entry.1 := by simpa using (List.mem_filter.mp hMem).2
    rw [extended, if_pos hSame, hSame]
  next hHas =>
    rw [Bool.not_eq_true, has_eq_false] at hHas
    rw [List.filter_append, hHas]
    simp

theorem merged_append (headers : Headers) (entry : String × String) :
    merged (headers ++ [entry]) = mergeInto (merged headers) entry := by
  rw [merged_eq, List.foldl_append]
  rfl

/-- Merged headers have each name once, with its values in one text. -/
theorem filter_merged (headers : Headers) (name : String) :
    headers.merged.filter (·.1 = name) = ((headers.joined? name).map (name, ·)).toList := by
  -- On the last header, which is the last one to be merged.
  induction headers using List.reverseRec with
  | nil => rfl
  | append_singleton headers entry ih =>
      rw [merged_append, joined?_append]
      split
      next hName =>
        subst hName
        rw [filter_mergeInto, has_merged, ih]
        cases hJoined : joined? headers entry.1 with
        | none =>
            rw [joined?_eq, valueOf?_eq_none] at hJoined
            simp [hJoined]
        | some value =>
            simp [has_of_joined? hJoined]
      next hName => rw [filter_mergeInto_ne hName, ih]

theorem valueOf?_merged (between : String) (headers : Headers) (name : String) :
    headers.merged.valueOf? between name = headers.joined? name := by
  have hFilter := filter_merged headers name
  cases hJoined : headers.joined? name with
  | none =>
      rw [hJoined] at hFilter
      exact valueOf?_eq_none.mpr (has_eq_false.mpr hFilter)
  | some value =>
      rw [hJoined] at hFilter
      exact valueOf?_of_filter between hFilter

theorem joined?_of_mem_merged (h : (name, value) ∈ headers.merged) :
    headers.joined? name = some value := by
  have hFilter : (name, value) ∈ headers.merged.filter (·.1 = name) := by
    simpa using h
  rw [filter_merged] at hFilter
  simpa using hFilter

end ClientAuth.Headers

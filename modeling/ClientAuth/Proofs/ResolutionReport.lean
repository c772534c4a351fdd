import Mathlib.Data.Finset.Card
import Mathlib.Data.List.Induction
import ClientAuth.Proofs.Recording
import ClientAuth.Proofs.TextPieces

/-! The report of decisions, in which model and operation are one text. Main statement:
`resolutions_reported`, the report counts every decision exactly if no two of them that differ share
a place in it; of those that do, it keeps one. -/
namespace ClientAuth

/-- The place of a decision in a report: the text for model and operation, and the mechanism. -/
def Resolution.slot (resolution : Resolution) : String × String :=
  (resolution.model ++ " " ++ resolution.operation, resolution.mechanism)

/-- A model without a blank is told from the operation behind it. -/
theorem Resolution.eq_of_slot {x y : Resolution} (hX : ' ' ∉ x.model.toList)
    (hY : ' ' ∉ y.model.toList) (h : x.slot = y.slot) : x = y := by
  obtain ⟨model, operation, mechanism⟩ := x
  obtain ⟨model', operation', mechanism'⟩ := y
  obtain ⟨hText, hMechanism⟩ := Prod.mk.inj h
  have hList : model.toList ++ ' ' :: operation.toList =
      model'.toList ++ ' ' :: operation'.toList := by
    simpa using congrArg String.toList hText
  have hPieces := congrArg (Text.splitOn ' ') hList
  rw [Text.splitOn_append hX, Text.splitOn_append hY] at hPieces
  have hModel := (List.cons.inj hPieces).1
  rw [hModel] at hList
  have hOperation := (List.cons.inj (List.append_cancel_left hList)).2
  rw [Resolution.mk.injEq]
  exact ⟨String.toList_inj.mp hModel, String.toList_inj.mp hOperation, hMechanism⟩

/-- Decisions by the text for model and operation, then by mechanism. -/
abbrev Grouping := List (String × Tally String)

namespace Grouping

/-- The count at a place. -/
def at? (grouping : Grouping) (slot : String × String) : Option Nat :=
  (Json.lookup? slot.1 grouping).bind (Json.lookup? slot.2)

/-- All counts together. -/
def total (grouping : Grouping) : Nat :=
  Tally.total (grouping.map fun entry => (entry.1, entry.2.total))

/-- Puts a count at the place of its decision. -/
def add (grouping : Grouping) (entry : Resolution × Nat) : Grouping :=
  let counts := (Json.lookup? entry.1.slot.1 grouping).getD []
  Json.insert entry.1.slot.1 (Json.insert entry.1.slot.2 entry.2 counts) grouping

/-- The counts of a tally, one after the other. -/
def ofTally (tally : Tally Resolution) : Grouping := tally.foldl add []

theorem ofTally_append (tally : Tally Resolution) (entry : Resolution × Nat) :
    ofTally (tally ++ [entry]) = (ofTally tally).add entry := by
  simp [ofTally]

theorem at?_add (grouping : Grouping) (entry : Resolution × Nat) (slot : String × String) :
    (grouping.add entry).at? slot =
      if entry.1.slot = slot then some entry.2 else grouping.at? slot := by
  obtain ⟨key, mechanism⟩ := slot
  rw [at?, add, Json.lookup?_insert]
  by_cases hKey : entry.1.slot.1 = key
  · by_cases hMechanism : entry.1.slot.2 = mechanism
    · have hSlot : entry.1.slot = (key, mechanism) := Prod.ext hKey hMechanism
      simp [hSlot, Json.lookup?_insert]
    · have hSlot : entry.1.slot ≠ (key, mechanism) := fun h => hMechanism (congrArg Prod.snd h)
      simp only [hKey, if_true, hSlot, if_false, Option.bind_some, Json.lookup?_insert, hMechanism,
        at?]
      cases Json.lookup? key grouping with
      | none => rfl
      | some counts => rfl
  · have hSlot : entry.1.slot ≠ (key, mechanism) := fun h => hKey (congrArg Prod.fst h)
    simp only [hKey, if_false, hSlot, at?]

/-- A new value in place of the one that was there. -/
theorem total_map_insert {α : Type} (weight : α → Nat) (key : String) (value : α)
    (members : List (String × α)) :
    Tally.total ((Json.insert key value members).map fun entry => (entry.1, weight entry.2)) +
        ((Json.lookup? key members).map weight).getD 0 =
      Tally.total (members.map fun entry => (entry.1, weight entry.2)) + weight value := by
  induction members with
  | nil => simp [Json.insert]
  | cons member rest ih =>
      obtain ⟨other, old⟩ := member
      rw [Json.lookup?_cons, Json.insert]
      split
      · simp only [List.map_cons, Tally.total_cons, Option.map_some, Option.getD_some]
        omega
      · simp only [List.map_cons, Tally.total_cons]
        omega

theorem total_insert (key : String) (count : Nat) (tally : Tally String) :
    Tally.total (Json.insert key count tally) + (Json.lookup? key tally).getD 0 =
      tally.total + count := by
  simpa using total_map_insert id key count tally

theorem total_add (grouping : Grouping) (entry : Resolution × Nat) :
    (grouping.add entry).total + (grouping.at? entry.1.slot).getD 0 =
      grouping.total + entry.2 := by
  obtain ⟨counts, hCounts⟩ : ∃ counts,
      counts = (Json.lookup? entry.1.slot.1 grouping).getD [] := ⟨_, rfl⟩
  have hInner := total_insert entry.1.slot.2 entry.2 counts
  have hOuter := total_map_insert Tally.total entry.1.slot.1
    (Json.insert entry.1.slot.2 entry.2 counts) grouping
  have hOld : ((Json.lookup? entry.1.slot.1 grouping).map Tally.total).getD 0 = counts.total := by
    rw [hCounts]
    cases Json.lookup? entry.1.slot.1 grouping with
    | none => rfl
    | some found => rfl
  have hAt : grouping.at? entry.1.slot = Json.lookup? entry.1.slot.2 counts := by
    rw [hCounts, at?]
    cases Json.lookup? entry.1.slot.1 grouping with
    | none => rfl
    | some found => rfl
  rw [hOld] at hOuter
  rw [hAt, total, total, add, ← hCounts]
  omega

/-- A place holds the count that came to it last. -/
theorem at?_ofTally (tally : Tally Resolution) (slot : String × String) :
    (ofTally tally).at? slot =
      (tally.filter fun entry => entry.1.slot = slot).getLast?.map (·.2) := by
  induction tally using List.reverseRecOn with
  | nil => rfl
  | append_singleton rest entry ih =>
      rw [ofTally_append, at?_add, List.filter_append, ih]
      by_cases hSlot : entry.1.slot = slot
      · simp [hSlot]
      · simp [hSlot]

theorem at?_eq_none {tally : Tally Resolution} {slot : String × String} :
    (ofTally tally).at? slot = none ↔ slot ∉ tally.map (·.1.slot) := by
  rw [at?_ofTally, Option.map_eq_none_iff, List.getLast?_eq_none_iff, List.filter_eq_nil_iff]
  simp

/-- Counts that share a place are lost, except for the last of them. -/
theorem total_ofTally {tally : Tally Resolution} (hPos : ∀ entry ∈ tally, 0 < entry.2) :
    (ofTally tally).total ≤ tally.total ∧
      ((ofTally tally).total = tally.total ↔ (tally.map (·.1.slot)).Nodup) := by
  induction tally using List.reverseRecOn with
  | nil => exact ⟨Nat.le_refl 0, iff_of_true rfl List.nodup_nil⟩
  | append_singleton rest entry ih =>
      obtain ⟨hLe, hIff⟩ := ih fun other hMem => hPos other (List.mem_append_left _ hMem)
      have hAdd := total_add (ofTally rest) entry
      have hAll := Tally.total_append_singleton rest entry
      have hOld : ((ofTally rest).at? entry.1.slot).getD 0 = 0 ↔
          entry.1.slot ∉ rest.map (·.1.slot) := by
        rw [← at?_eq_none]
        cases hAt : (ofTally rest).at? entry.1.slot with
        | none => simp
        | some count =>
            rw [at?_ofTally] at hAt
            obtain ⟨other, hLast, rfl⟩ := Option.map_eq_some_iff.mp hAt
            have hMem := List.mem_of_mem_filter (List.mem_of_getLast? hLast)
            have := hPos other (List.mem_append_left _ hMem)
            simp
            omega
      rw [ofTally_append, List.map_append, List.map_singleton, List.nodup_append_comm,
        List.singleton_append, List.nodup_cons, ← hOld, ← hIff]
      omega

end Grouping

/-- Of positive counts the last is all of them only if it is alone. -/
theorem Tally.last_eq_total_iff {κ : Type} {tally : Tally κ}
    (hPos : ∀ entry ∈ tally, 0 < entry.2) :
    (tally.getLast?.map (·.2)).getD 0 = tally.total ↔ tally.length ≤ 1 := by
  cases tally using List.reverseRecOn with
  | nil => exact iff_of_true rfl (Nat.zero_le 1)
  | append_singleton front entry =>
      rw [total_append_singleton, List.getLast?_concat]
      cases front with
      | nil => simp
      | cons first rest =>
          have hFirst := hPos first List.mem_cons_self
          simp only [total_cons, Option.map_some, Option.getD_some, List.length_append,
            List.length_cons]
          omega

/-- A report of decisions counts all of them exactly if none shares its place with another one. A
place is there exactly if there is a decision for it, and counts all decisions for it exactly if
they are the same. Where no model holds a blank, no place is shared. -/
theorem Collector.resolutions_reported (started : Binary64) (recordings : List Recording) :
    let metrics := (start started).recordAll recordings
    let decisions := recordings.filterMap Recording.decision?
    let report : Grouping := metrics.resolutionsByKey
    (∀ now, (metrics.toJson now).field? "resolutions" =
      some (.object (report.map fun (key, counts) => (key, countsToJson counts)))) ∧
    (report.total = decisions.length ↔
      ∀ x ∈ decisions, ∀ y ∈ decisions, x.slot = y.slot → x = y) ∧
    (∀ slot, (report.at? slot).isSome = true ↔ ∃ x ∈ decisions, x.slot = slot) ∧
    (∀ slot, (report.at? slot).getD 0 = decisions.countP (fun x => x.slot = slot) ↔
      ∀ x ∈ decisions, ∀ y ∈ decisions, x.slot = slot → y.slot = slot → x = y) ∧
    ((∀ x ∈ decisions, ' ' ∉ x.model.toList) →
      ∀ x ∈ decisions, ∀ y ∈ decisions, x.slot = y.slot → x = y) := by
  intro metrics decisions report
  have hCounts : metrics.resolutions.Counts decisions :=
    (keeps_recordAll started recordings).resolutions
  have hReport : report = Grouping.ofTally metrics.resolutions := rfl
  refine ⟨fun now => rfl, ?_, ?_, ?_, ?_⟩
  · have hKeys : metrics.resolutions.map (·.1.slot) =
        (metrics.resolutions.map (·.1)).map Resolution.slot := by
      simp
    rw [hReport, ← hCounts.total_eq, (Grouping.total_ofTally hCounts.pos).2, hKeys,
      List.nodup_map_iff_inj_on hCounts.nodup]
    simp only [hCounts.mem_keys]
  · intro slot
    rw [hReport, Option.isSome_iff_ne_none, ne_eq, Grouping.at?_eq_none, not_not]
    constructor
    · intro hMem
      obtain ⟨entry, hEntry, hSlot⟩ := List.mem_map.mp hMem
      exact ⟨entry.1, hCounts.mem_keys.mp (List.mem_map_of_mem hEntry), hSlot⟩
    · rintro ⟨x, hMem, hSlot⟩
      obtain ⟨entry, hEntry, rfl⟩ := List.mem_map.mp (hCounts.mem_keys.mpr hMem)
      exact List.mem_map.mpr ⟨entry, hEntry, hSlot⟩
  · intro slot
    have hTotal := hCounts.total_filter fun x => x.slot = slot
    have hPos : ∀ entry ∈ metrics.resolutions.filter fun entry => entry.1.slot = slot,
        0 < entry.2 := fun entry hMem => hCounts.pos entry (List.mem_of_mem_filter hMem)
    have hKeys : (metrics.resolutions.filter fun entry => entry.1.slot = slot).map (·.1) =
        (metrics.resolutions.map (·.1)).filter fun x => x.slot = slot := by
      rw [List.filter_map]
      rfl
    rw [hReport, Grouping.at?_ofTally, ← hTotal, Tally.last_eq_total_iff hPos,
      ← List.length_map (·.1), hKeys,
      ← List.toFinset_card_of_nodup (hCounts.nodup.filter _), Finset.card_le_one]
    simp only [List.mem_toFinset, List.mem_filter, hCounts.mem_keys, decide_eq_true_eq]
    exact ⟨fun h x hX y hY hSlot hOther => h x ⟨hX, hSlot⟩ y ⟨hY, hOther⟩,
      fun h x hX y hY => h x hX.1 y hY.1 hX.2 hY.2⟩
  · intro hModels x hX y hY hSlot
    exact Resolution.eq_of_slot (hModels x hX) (hModels y hY) hSlot

/-- Three decisions for one model and operation, two of them alike, are reported in full. -/
theorem Collector.resolutions_reported_three :
    let decisions : List Resolution :=
      [⟨"Post", "read", "API_KEY"⟩, ⟨"Post", "read", "API_KEY"⟩, ⟨"Post", "read", "NONE"⟩]
    let metrics := (start (.zero false)).recordAll (decisions.map .decision)
    (∀ x ∈ decisions, ' ' ∉ x.model.toList) ∧ Grouping.total metrics.resolutionsByKey = 3 ∧
      (Grouping.at? metrics.resolutionsByKey ("Post read", "API_KEY")).getD 0 = 2 := by
  intro decisions metrics
  have hModels : ∀ x ∈ decisions, ' ' ∉ x.model.toList := by decide
  obtain ⟨-, hTotal, -, hPlace, hApart⟩ :=
    resolutions_reported (.zero false) (decisions.map .decision)
  have hSame := hApart hModels
  refine ⟨hModels, hTotal.mpr hSame, (hPlace ("Post read", "API_KEY")).mpr ?_⟩
  intro x hX y hY hSlot hOther
  exact hSame x hX y hY (hSlot.trans hOther.symm)

/-- Two decisions whose models and operations make one text share a place, and one of them is
lost. -/
theorem Collector.shared_place_loses_decision :
    let decisions : List Resolution := [⟨"a b", "c", "NONE"⟩, ⟨"a", "b c", "NONE"⟩]
    let metrics := (start (.zero false)).recordAll (decisions.map .decision)
    Grouping.total metrics.resolutionsByKey = 1 ∧ decisions.length = 2 ∧
      Grouping.at? metrics.resolutionsByKey ("a b c", "NONE") = some 1 ∧
      decisions.countP (fun x => x.slot = ("a b c", "NONE")) = 2 := by
  decide

end ClientAuth

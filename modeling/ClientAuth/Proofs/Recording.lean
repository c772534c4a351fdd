import Mathlib.Data.List.Nodup
import ClientAuth.Metrics.Collector
import ClientAuth.Proofs.Outcome

/-! What counters keep of the calls that they are made of. Main statement: `keeps_recordAll`, after
every sequence of recordings each counter holds the keys that were recorded, each once and as often
as it was recorded. -/
namespace ClientAuth

namespace Tally

variable {κ : Type} [DecidableEq κ] {tally : Tally κ} {items : List κ}

theorem map_fst_count (key : κ) (tally : Tally κ) :
    (tally.count key).map (·.1) =
      if key ∈ tally.map (·.1) then tally.map (·.1) else tally.map (·.1) ++ [key] := by
  induction tally with
  | nil => rfl
  | cons entry rest ih =>
      obtain ⟨other, n⟩ := entry
      by_cases hOther : other = key
      · simp [count, hOther]
      · have hKey : key ≠ other := Ne.symm hOther
        simp only [count, hOther, if_false, List.map_cons, ih, List.mem_cons, hKey, false_or]
        split
        · rfl
        · rfl

theorem mem_of_mem_count {key : κ} {entry : κ × Nat} (h : entry ∈ tally.count key) :
    entry ∈ tally ∨ 0 < entry.2 := by
  induction tally with
  | nil =>
      obtain rfl := List.mem_singleton.mp h
      exact Or.inr Nat.one_pos
  | cons first rest ih =>
      obtain ⟨other, n⟩ := first
      rw [count] at h
      split at h
      · rcases List.mem_cons.mp h with rfl | hRest
        · exact Or.inr n.succ_pos
        · exact Or.inl (List.mem_cons_of_mem _ hRest)
      · rcases List.mem_cons.mp h with rfl | hRest
        · exact Or.inl List.mem_cons_self
        · exact (ih hRest).imp_left (List.mem_cons_of_mem _)

theorem of_cons_ne {key other : κ} (h : other ≠ key) (n : Nat) (rest : Tally κ) :
    of ((other, n) :: rest) key = of rest key := by
  simp [of, h]

theorem of_eq_of_mem {key : κ} {n : Nat} (h : (tally.map (·.1)).Nodup) (hMem : (key, n) ∈ tally) :
    tally.of key = n := by
  induction tally with
  | nil => nomatch hMem
  | cons entry rest ih =>
      obtain ⟨name, m⟩ := entry
      rw [List.map_cons, List.nodup_cons] at h
      rcases List.mem_cons.mp hMem with hFirst | hRest
      · cases hFirst
        simp [of]
      · have hName : name ≠ key := by
          rintro rfl
          exact h.1 (List.mem_map.mpr ⟨_, hRest, rfl⟩)
        rw [of_cons_ne hName, ih h.2 hRest]

theorem mem_of_pos {key : κ} (h : 0 < tally.of key) : (key, tally.of key) ∈ tally := by
  induction tally with
  | nil => simp [of] at h
  | cons entry rest ih =>
      obtain ⟨name, m⟩ := entry
      by_cases hName : name = key
      · simp [of, hName]
      · rw [of_cons_ne hName] at h ⊢
        exact List.mem_cons_of_mem _ (ih h)

@[simp] theorem total_nil {κ : Type} : total ([] : Tally κ) = 0 := rfl

@[simp] theorem total_cons {κ : Type} (entry : κ × Nat) (tally : Tally κ) :
    total (entry :: tally) = entry.2 + total tally := rfl

theorem total_append_singleton {κ : Type} (tally : Tally κ) (entry : κ × Nat) :
    total (tally ++ [entry]) = total tally + entry.2 := by
  induction tally with
  | nil => simp
  | cons first rest ih => rw [List.cons_append, total_cons, total_cons, ih, Nat.add_assoc]

/-- The count of all keys of a class. -/
theorem total_filter_count (isIn : κ → Bool) (key : κ) (tally : Tally κ) :
    total ((tally.count key).filter fun entry => isIn entry.1) =
      total (tally.filter fun entry => isIn entry.1) + if isIn key then 1 else 0 := by
  induction tally with
  | nil => cases hIn : isIn key <;> simp [count, total, hIn]
  | cons entry rest ih =>
      obtain ⟨other, n⟩ := entry
      by_cases hOther : other = key
      · subst hOther
        cases hIn : isIn other <;> simp [count, total, hIn]
        omega
      · simp only [count, hOther, if_false, List.filter_cons]
        split
        · simp only [total, List.foldr_cons] at ih ⊢
          omega
        · exact ih

/-- The counts of items: each item is a key once, beside the number of its occurrences. -/
structure Counts (tally : Tally κ) (items : List κ) : Prop where
  nodup : (tally.map (·.1)).Nodup
  pos : ∀ entry ∈ tally, 0 < entry.2
  of_eq : ∀ key, tally.of key = items.count key
  total_filter : ∀ isIn : κ → Bool,
    total (tally.filter fun entry => isIn entry.1) = items.countP isIn

theorem counts_nil : Counts ([] : Tally κ) [] :=
  ⟨List.nodup_nil, nofun, fun _ => rfl, fun _ => rfl⟩

/-- An item more. -/
theorem Counts.count (h : tally.Counts items) (key : κ) :
    (tally.count key).Counts (items ++ [key]) := by
  refine ⟨?_, fun entry hMem => ?_, fun other => ?_, fun isIn => ?_⟩
  · rw [map_fst_count]
    split
    next => exact h.nodup
    next hNew => exact List.nodup_append_comm.mp (List.nodup_cons.mpr ⟨hNew, h.nodup⟩)
  · exact (mem_of_mem_count hMem).elim (h.pos entry) id
  · rw [of_count, h.of_eq, List.count_append, List.count_singleton]
    simp
  · rw [total_filter_count, h.total_filter, List.countP_append, List.countP_singleton]

theorem Counts.mem_iff (h : tally.Counts items) {key : κ} {n : Nat} :
    (key, n) ∈ tally ↔ n = items.count key ∧ 0 < n := by
  constructor
  · intro hMem
    exact ⟨(of_eq_of_mem h.nodup hMem).symm.trans (h.of_eq key), h.pos _ hMem⟩
  · rintro ⟨hCount, hPos⟩
    rw [hCount, ← h.of_eq] at hPos ⊢
    exact mem_of_pos hPos

/-- The keys are the items. -/
theorem Counts.mem_keys (h : tally.Counts items) {key : κ} :
    key ∈ tally.map (·.1) ↔ key ∈ items := by
  constructor
  · intro hKey
    obtain ⟨⟨_, n⟩, hMem, rfl⟩ := List.mem_map.mp hKey
    obtain ⟨hCount, hPos⟩ := h.mem_iff.mp hMem
    exact List.count_pos_iff.mp (hCount ▸ hPos)
  · intro hItem
    exact List.mem_map.mpr ⟨_, h.mem_iff.mpr ⟨rfl, List.count_pos_iff.mpr hItem⟩, rfl⟩

theorem Counts.total_eq (h : tally.Counts items) : tally.total = items.length := by
  simpa using h.total_filter fun _ => true

end Tally

namespace Collector

/-- A text is counted under itself: no other label stands for it. -/
@[simp] theorem countLabel_text (code : String) (tally : Tally Label) :
    countLabel (.text code) tally = tally.count (.text code) := by
  have hNone : (Label.text code).place? = none := rfl
  have hSame (label : Label) : label.same (.text code) = decide (label = .text code) := by
    rw [Label.same, hNone]
    cases label.place? <;> simp
  rw [countLabel]
  simp only [hSame]
  cases hFind : tally.find? fun entry => decide (entry.1 = .text code) with
  | none => rfl
  | some entry =>
      have hEntry : entry.1 = .text code := by simpa using List.find?_some hFind
      rw [Option.map_some, Option.getD_some, hEntry]

section

variable (outcome : Label) (duration : Binary64) (error : Option Label) (metrics : Collector)

@[simp] theorem signIns_recordSignIn : (metrics.recordSignIn outcome duration error).signIns =
    countLabel outcome metrics.signIns := by
  cases error <;> rfl

@[simp] theorem durationCount_recordSignIn :
    (metrics.recordSignIn outcome duration error).durationCount = metrics.durationCount + 1 := by
  cases error <;> rfl

@[simp] theorem resolutions_recordSignIn :
    (metrics.recordSignIn outcome duration error).resolutions = metrics.resolutions := by
  cases error <;> rfl

@[simp] theorem failures_recordSignIn_none :
    (metrics.recordSignIn outcome duration none).failures = metrics.failures := rfl

@[simp] theorem failures_recordSignIn_some (code : Label) :
    (metrics.recordSignIn outcome duration (some code)).failures =
      countLabel code metrics.failures := rfl

end

end Collector

/-- A call that counters are made of: a sign in with its outcome, its duration and perhaps a code,
or a decision. -/
inductive Recording
  | signIn (outcome : String) (duration : Binary64) (code : Option String)
  | decision (resolution : Resolution)

namespace Recording

/-- The outcome that is counted. -/
def outcome? : Recording → Option Label
  | signIn outcome _ _ => some (.text outcome)
  | decision _ => none

/-- The code that is counted, unless it is empty. -/
def code? : Recording → Option Label
  | signIn _ _ (some code) => if code = "" then none else some (.text code)
  | _ => none

theorem code?_eq_some {outcome : String} {duration : Binary64} {code : Option String}
    {label : Label} :
    (signIn outcome duration code).code? = some label ↔
      ∃ text, label = .text text ∧ code = some text ∧ text ≠ "" := by
  cases code with
  | none => simp [code?]
  | some code =>
      by_cases hEmpty : code = ""
      · simp [code?, hEmpty]
      · simp [code?, hEmpty, eq_comm]

/-- The decision that is counted. -/
def decision? : Recording → Option Resolution
  | signIn _ _ _ => none
  | decision resolution => some resolution

end Recording

namespace Collector

/-- What a recording makes of the counters. -/
def record (metrics : Collector) : Recording → Collector
  | .signIn outcome duration code =>
      (metrics.recordValues (.text outcome) (.float duration) (.ofText? code)).2
  | .decision resolution => metrics.recordResolution resolution

def recordAll (metrics : Collector) (recordings : List Recording) : Collector :=
  recordings.foldl record metrics

/-- The counters are those of recordings. -/
structure Keeps (metrics : Collector) (recordings : List Recording) : Prop where
  signIns : metrics.signIns.Counts (recordings.filterMap Recording.outcome?)
  failures : metrics.failures.Counts (recordings.filterMap Recording.code?)
  resolutions : metrics.resolutions.Counts (recordings.filterMap Recording.decision?)

theorem record_signIn (metrics : Collector) (outcome : String) (duration : Binary64)
    (code : Option String) :
    metrics.record (.signIn outcome duration code) =
      metrics.recordSignIn (.text outcome) duration
        (Recording.signIn outcome duration code).code? := by
  have hCode : Label.ofCode (.ofText? code) =
      .ok (Recording.signIn outcome duration code).code? := by
    cases code with
    | none => rfl
    | some code =>
        by_cases hEmpty : code = "" <;> simp [Label.ofCode, Json.ofText?, Json.isVacuous,
          Label.ofJson?, Recording.code?, hEmpty]
  rw [record, recordValues]
  simp only [Label.ofJson?, durationOf, hCode]

variable {metrics : Collector} {recordings : List Recording}

theorem keeps_start (now : Binary64) : (start now).Keeps [] :=
  ⟨Tally.counts_nil, Tally.counts_nil, Tally.counts_nil⟩

theorem Keeps.record (h : metrics.Keeps recordings) (recording : Recording) :
    (metrics.record recording).Keeps (recordings ++ [recording]) := by
  cases recording with
  | signIn outcome duration code =>
      rw [record_signIn]
      refine ⟨?_, ?_, ?_⟩
      · simpa [Recording.outcome?] using h.signIns.count (.text outcome)
      · cases hCode : (Recording.signIn outcome duration code).code? with
        | none => simpa [List.filterMap_cons, hCode] using h.failures
        | some label =>
            obtain ⟨text, rfl, -⟩ := Recording.code?_eq_some.mp hCode
            simpa [List.filterMap_cons, hCode] using h.failures.count (.text text)
      · simpa [List.filterMap_cons, Recording.decision?] using h.resolutions
  | decision resolution =>
      rw [Collector.record, recordResolution]
      refine ⟨?_, ?_, ?_⟩
      · simpa [List.filterMap_cons, Recording.outcome?] using h.signIns
      · simpa [List.filterMap_cons, Recording.code?] using h.failures
      · simpa [Recording.decision?] using h.resolutions.count resolution

theorem Keeps.recordAll (h : metrics.Keeps recordings) (more : List Recording) :
    (metrics.recordAll more).Keeps (recordings ++ more) := by
  induction more generalizing metrics recordings with
  | nil => simpa [Collector.recordAll] using h
  | cons recording more ih =>
      rw [List.append_cons recordings recording more]
      exact ih (h.record recording)

/-- Counters that start at some time keep what was recorded since. -/
theorem keeps_recordAll (now : Binary64) (recordings : List Recording) :
    ((start now).recordAll recordings).Keeps recordings :=
  (keeps_start now).recordAll recordings

end Collector
end ClientAuth

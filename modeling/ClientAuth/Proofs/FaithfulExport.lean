import ClientAuth.Proofs.ExpositionFormat
import ClientAuth.Proofs.Recording

/-! The exported text as a report of counters. Main statement: `export_reads_back`, the text is the
one that its format asks for exactly if no recorded text holds what the format escapes; then every
key is read back from it, once and with its count, and counters that differ have different texts. -/
namespace ClientAuth

namespace Tally

variable {κ : Type} [DecidableEq κ] {tally sorted : Tally κ} {items : List κ}

/-- In every order of the entries a counted key is there once, with its count. -/
theorem Counts.filter_perm (h : tally.Counts items) (hPerm : sorted.Perm tally) (key : κ) :
    sorted.filter (fun entry => entry.1 = key) =
      if items.count key = 0 then [] else [(key, items.count key)] := by
  have hMem (entry : κ × Nat) : entry ∈ sorted.filter (fun entry => entry.1 = key) ↔
      entry.1 = key ∧ entry.2 = items.count key ∧ 0 < entry.2 := by
    obtain ⟨name, n⟩ := entry
    rw [List.mem_filter, hPerm.mem_iff, h.mem_iff, decide_eq_true_eq]
    constructor
    · rintro ⟨hCount, rfl⟩
      exact ⟨rfl, hCount⟩
    · rintro ⟨rfl, hCount⟩
      exact ⟨hCount, rfl⟩
  split
  next hZero =>
    refine List.eq_nil_iff_forall_not_mem.mpr fun entry hIn => ?_
    obtain ⟨-, hCount, hPos⟩ := (hMem entry).mp hIn
    omega
  next hPos =>
    have hNodup : sorted.Nodup := hPerm.nodup_iff.mpr h.nodup.of_map
    refine List.perm_singleton.mp ((List.perm_ext_iff_of_nodup (hNodup.filter _)
      (List.nodup_singleton _)).mpr fun entry => ?_)
    rw [hMem, List.mem_singleton, Prod.ext_iff]
    constructor
    · rintro ⟨hKey, hCount, -⟩
      exact ⟨hKey, hCount⟩
    · rintro ⟨hKey, hCount⟩
      exact ⟨hKey, hCount, hCount ▸ Nat.pos_of_ne_zero hPos⟩

end Tally

/-- A counter, by what it counts and by its key. -/
inductive Counter
  | signIns (outcome : String)
  | failures (code : String)
  | resolutions (resolution : Resolution)
deriving DecidableEq, Repr

namespace Counter

/-- Whether a recording raises a counter. -/
def isRaisedBy : Counter → Recording → Bool
  | signIns outcome, recording => recording.outcome? == some (.text outcome)
  | failures code, recording => recording.code? == some (.text code)
  | resolutions resolution, recording => recording.decision? == some resolution

def name : Counter → String
  | signIns _ => "appauth_sign_ins_total"
  | failures _ => "appauth_sign_in_failures_total"
  | resolutions _ => "appauth_auth_mode_resolutions_total"

def labels : Counter → List (String × String)
  | signIns outcome => [("outcome", outcome)]
  | failures code => [("error", code)]
  | resolutions resolution =>
      [("model", resolution.model), ("operation", resolution.operation),
        ("auth_type", resolution.mechanism)]

/-- The sample that says how far a counter is. -/
def sample (counter : Counter) (count : Nat) : Exposition.Sample :=
  ⟨counter.name, counter.labels, toString count⟩

theorem labels_ne_nil (counter : Counter) : counter.labels ≠ [] := by
  cases counter with
  | signIns outcome => exact List.cons_ne_nil _ _
  | failures code => exact List.cons_ne_nil _ _
  | resolutions resolution => exact List.cons_ne_nil _ _

/-- The names of its labels tell what a counter counts, and their values tell its key. -/
theorem labels_inj {x y : Counter} : x.labels = y.labels ↔ x = y := by
  cases x with
  | signIns outcome => cases y <;> simp [labels]
  | failures code => cases y <;> simp [labels]
  | resolutions resolution =>
      cases y with
      | signIns outcome => simp [labels]
      | failures code => simp [labels]
      | resolutions other =>
          obtain ⟨model, operation, mechanism⟩ := resolution
          obtain ⟨model', operation', mechanism'⟩ := other
          simp [labels]

end Counter

/-- How far a counter is. -/
def Collector.countOf (metrics : Collector) : Counter → Nat
  | .signIns outcome => metrics.signIns.of (.text outcome)
  | .failures code => metrics.failures.of (.text code)
  | .resolutions resolution => metrics.resolutions.of resolution

namespace Recording

/-- The texts of a recording. -/
def texts : Recording → List String
  | signIn outcome _ code => outcome :: code.toList
  | decision resolution => [resolution.model, resolution.operation, resolution.mechanism]

/-- No text of a recording has to be escaped in an exported text. -/
def IsPlain (recording : Recording) : Prop := ∀ text ∈ recording.texts, Exposition.IsPlain text

instance (recording : Recording) : Decidable recording.IsPlain :=
  inferInstanceAs (Decidable (∀ text ∈ _, _))

end Recording

theorem Counter.mem_texts_of_isRaisedBy {counter : Counter} {recording : Recording}
    (h : counter.isRaisedBy recording = true) :
    ∀ entry ∈ counter.labels, entry.2 ∈ recording.texts := by
  cases counter with
  | signIns outcome =>
      cases recording with
      | signIn other duration code =>
          simp_all [isRaisedBy, Recording.outcome?, labels, Recording.texts]
      | decision resolution => cases h
  | failures code =>
      cases recording with
      | signIn outcome duration code =>
          obtain ⟨text, hText, rfl, -⟩ := Recording.code?_eq_some.mp (eq_of_beq h)
          simp_all [labels, Recording.texts]
      | decision resolution => cases h
  | resolutions resolution =>
      cases recording with
      | signIn outcome duration code => cases h
      | decision other => simp_all [isRaisedBy, Recording.decision?, labels, Recording.texts]

/-- Every text that says something is in the key of a counter that is raised. -/
theorem Counter.exists_of_mem_texts {recording : Recording} {text : String}
    (h : text ∈ recording.texts) :
    text = "" ∨ ∃ counter : Counter, counter.isRaisedBy recording = true ∧
      ∃ entry ∈ counter.labels, entry.2 = text := by
  cases recording with
  | signIn outcome duration code =>
      rcases List.mem_cons.mp h with rfl | hCode
      · exact Or.inr ⟨.signIns text, by simp [isRaisedBy, Recording.outcome?],
          ("outcome", text), List.mem_singleton_self _, rfl⟩
      · obtain rfl := Option.mem_toList.mp hCode
        by_cases hEmpty : text = ""
        · exact Or.inl hEmpty
        · have hRaised : (Recording.signIn outcome duration (some text)).code? =
              some (.text text) :=
            Recording.code?_eq_some.mpr ⟨text, rfl, rfl, hEmpty⟩
          exact Or.inr ⟨.failures text, beq_iff_eq.mpr hRaised,
            ("error", text), List.mem_singleton_self _, rfl⟩
  | decision resolution =>
      refine Or.inr ⟨.resolutions resolution, beq_self_eq_true _, ?_⟩
      simpa [labels, Recording.texts, eq_comm] using h

namespace Exposition

def Sample.IsOf (s : Sample) (counter : Counter) : Prop :=
  s.name = counter.name ∧ s.labels = counter.labels

instance (s : Sample) (counter : Counter) : Decidable (s.IsOf counter) :=
  inferInstanceAs (Decidable (_ ∧ _))

def uptimeSample (metrics : Collector) (now : Binary64) : Sample :=
  ⟨"appauth_uptime_seconds", [], (metrics.uptime now).fixed 2⟩

def averageSample (metrics : Collector) : Sample :=
  ⟨"appauth_sign_in_time_seconds", [], (metrics.average?.getD (Binary64.zero false)).fixed 6⟩

/-- The counters for the keys of a tally. -/
def countersOf {κ : Type} (counter : κ → Counter) (tally : Tally κ) : List Sample :=
  tally.map fun entry => (counter entry.1).sample entry.2

def signInSamples (metrics : Collector) : List Sample :=
  countersOf (fun key => .signIns key.toJson.shown)
    (sortByHalving (fun (x, _) (y, _) => x.before y) metrics.signIns)

def failureSamples (metrics : Collector) : List Sample :=
  countersOf (fun key => .failures key.toJson.shown)
    (sortByHalving (fun (x, _) (y, _) => x.before y) metrics.failures)

def resolutionSamples (metrics : Collector) : List Sample :=
  countersOf .resolutions (sortBy (fun (x, _) (y, _) => before x y) metrics.resolutions)

/-- The lines of a family of samples. -/
def family (name help kind : String) (samples : List Sample) : List Line :=
  (header name help kind).map .remark ++ samples.map .sample ++ [.remark ""]

/-- The lines of all families, with the samples in them. -/
def contents (metrics : Collector) (now : Binary64) : List Line :=
  family "appauth_uptime_seconds" "Time since collector start in seconds" "gauge"
    [uptimeSample metrics now] ++
  family "appauth_sign_ins_total" "Sign-in attempts by outcome" "counter"
    (signInSamples metrics) ++
  family "appauth_sign_in_failures_total" "Failed sign-ins by error code" "counter"
    (failureSamples metrics) ++
  family "appauth_sign_in_time_seconds" "Average sign-in time in seconds" "gauge"
    [averageSample metrics] ++
  family "appauth_auth_mode_resolutions_total" "Authorization modes chosen" "counter"
    (resolutionSamples metrics)

theorem map_text_family (name help kind : String) (items : List Sample) :
    (family name help kind items).map (Line.text id) =
      header name help kind ++ items.map (Sample.text id) ++ [""] := by
  simp [family, Function.comp_def, Line.text]

theorem map_text_countersOf {κ : Type} (counter : κ → Counter) (tally : Tally κ) :
    (countersOf counter tally).map (Sample.text id) =
      tally.map fun entry => sample (counter entry.1).name
        ((counter entry.1).labels.map fun (name, value) => label name value) entry.2 := by
  rw [countersOf, List.map_map]
  refine List.map_congr_left fun entry _ => ?_
  show ((counter entry.1).sample entry.2).text id = _
  cases counter entry.1 with
  | signIns outcome => rfl
  | failures code => rfl
  | resolutions resolution => rfl

/-- The lines that are exported hold these samples, their values as they stand. -/
theorem map_text_contents (metrics : Collector) (now : Binary64) :
    (contents metrics now).map (Line.text id) = lines metrics now := by
  simp only [contents, List.map_append, map_text_family, signInSamples, failureSamples,
    resolutionSamples, map_text_countersOf]
  simp [lines, samples, Counter.name, Counter.labels, uptimeSample, averageSample, Sample.text]

theorem filterMap_sample?_family (name help kind : String) (items : List Sample) :
    (family name help kind items).filterMap Line.sample? = items := by
  have hSamples : (items.map Line.sample).filterMap Line.sample? = items := by
    rw [List.filterMap_map]
    exact List.filterMap_some
  simp [family, header, List.filterMap_cons, Line.sample?, hSamples]

theorem break_not_mem_toDigits (n : Nat) : '\n' ∉ Nat.toDigits 10 n := by
  intro hMem
  have hDigit : ('\n').isDigit = true := Nat.isDigit_of_mem_toDigits (by omega) (by omega) hMem
  exact absurd hDigit (by decide)

theorem break_not_mem_fixed (places : Nat) (x : Binary64) : '\n' ∉ (x.fixed places).toList := by
  have hDigits {digits : List Char} (h : '\n' ∉ digits) (count : Nat) :
      '\n' ∉ digits.take count ++ '.' :: digits.drop count := by
    intro hMem
    rcases List.mem_append.mp hMem with hFront | hRest
    · exact h (List.mem_of_mem_take hFront)
    · rcases List.mem_cons.mp hRest with hPoint | hBack
      · exact absurd hPoint (by decide)
      · exact h (List.mem_of_mem_drop hBack)
  have hSign : '\n' ∉ (if x.isNegative then "-" else "").toList := by
    split
    · decide
    · decide
  rw [Binary64.fixed]
  split
  · decide
  dsimp only
  split
  · simpa using hSign
  · rw [String.toList_append, String.toList_ofList, List.mem_append, not_or]
    refine ⟨hSign, hDigits (fun hMem => ?_) _⟩
    rcases List.mem_append.mp hMem with hZeros | hValue
    · exact absurd (List.eq_of_mem_replicate hZeros) (by decide)
    · exact break_not_mem_toDigits _ hValue

theorem isRegular_sample (counter : Counter) (count : Nat) : (counter.sample count).IsRegular := by
  refine ⟨?_, ?_, ?_⟩
  · cases counter with
    | signIns outcome => exact show IsName "appauth_sign_ins_total" by decide
    | failures code => exact show IsName "appauth_sign_in_failures_total" by decide
    | resolutions resolution => exact show IsName "appauth_auth_mode_resolutions_total" by decide
  · cases counter with
    | signIns outcome => exact List.forall_mem_singleton.mpr (show IsName "outcome" by decide)
    | failures code => exact List.forall_mem_singleton.mpr (show IsName "error" by decide)
    | resolutions resolution =>
        have hNames : IsName "model" ∧ IsName "operation" ∧ IsName "auth_type" := by decide
        simpa [Counter.sample, Counter.labels] using hNames
  · rw [Counter.sample, Nat.toString_eq_ofList_toDigits, String.toList_ofList]
    exact break_not_mem_toDigits count

theorem isRegular_family {name help kind : String} {items : List Sample}
    (hWords : '\n' ∉ name.toList ∧ '\n' ∉ help.toList ∧ '\n' ∉ kind.toList)
    (hItems : ∀ s ∈ items, s.IsRegular) :
    ∀ line ∈ family name help kind items, line.IsRegular := by
  obtain ⟨hName, hHelp, hKind⟩ := hWords
  intro line hMem
  rw [family, List.mem_append, List.mem_append] at hMem
  rcases hMem with (hHead | hSample) | hEnd
  · rw [header, List.map_cons, List.map_singleton, List.mem_cons, List.mem_singleton] at hHead
    rcases hHead with rfl | rfl
    · exact ⟨by simp [hName, hHelp], by simp [hasSample]⟩
    · exact ⟨by simp [hName, hKind], by simp [hasSample]⟩
  · obtain ⟨s, hIn, rfl⟩ := List.mem_map.mp hSample
    exact hItems s hIn
  · obtain rfl := List.mem_singleton.mp hEnd
    exact ⟨List.not_mem_nil, rfl⟩

theorem isRegular_contents (metrics : Collector) (now : Binary64) :
    ∀ line ∈ contents metrics now, line.IsRegular := by
  have hUptime : (uptimeSample metrics now).IsRegular :=
    ⟨show IsName "appauth_uptime_seconds" by decide, nofun, break_not_mem_fixed 2 _⟩
  have hAverage : (averageSample metrics).IsRegular :=
    ⟨show IsName "appauth_sign_in_time_seconds" by decide, nofun, break_not_mem_fixed 6 _⟩
  have hCounters {κ : Type} (counter : κ → Counter) (tally : Tally κ) :
      ∀ s ∈ countersOf counter tally, s.IsRegular := by
    intro s hMem
    obtain ⟨entry, -, rfl⟩ := List.mem_map.mp hMem
    exact isRegular_sample _ _
  simp only [contents, List.forall_mem_append]
  refine ⟨⟨⟨⟨?_, ?_⟩, ?_⟩, ?_⟩, ?_⟩
  · exact isRegular_family (by decide) (List.forall_mem_singleton.mpr hUptime)
  · exact isRegular_family (by decide) (hCounters _ _)
  · exact isRegular_family (by decide) (hCounters _ _)
  · exact isRegular_family (by decide) (List.forall_mem_singleton.mpr hAverage)
  · exact isRegular_family (by decide) (hCounters _ _)

/-! ### The samples are those of the counters -/

/-- Samples say how far counters are: there is one for each that was raised, with its count, and
beside them there are two that have no labels. -/
structure Shows (items : List Sample) (metrics : Collector) (now : Binary64) : Prop where
  counter (counter : Counter) : items.filter (·.IsOf counter) =
    if metrics.countOf counter = 0 then [] else [counter.sample (metrics.countOf counter)]
  gauges : items.filter (·.labels = []) = [uptimeSample metrics now, averageSample metrics]
  known : ∀ s ∈ items, s.labels = [] ∨ ∃ counter, s.IsOf counter

theorem Shows.mem_of_ne_zero {items : List Sample} {metrics : Collector} {now : Binary64}
    (h : Shows items metrics now) {counter : Counter} (hCount : metrics.countOf counter ≠ 0) :
    counter.sample (metrics.countOf counter) ∈ items := by
  have hFilter := h.counter counter
  rw [if_neg hCount] at hFilter
  exact List.mem_of_mem_filter (hFilter ▸ List.mem_singleton_self _)

theorem Shows.ne_zero_of_mem {items : List Sample} {metrics : Collector} {now : Binary64}
    (h : Shows items metrics now) {counter : Counter} {s : Sample} (hMem : s ∈ items)
    (hIs : s.IsOf counter) : metrics.countOf counter ≠ 0 := by
  intro hZero
  have hFilter := h.counter counter
  rw [if_pos hZero] at hFilter
  exact List.not_mem_nil (hFilter ▸ List.mem_filter.mpr ⟨hMem, decide_eq_true hIs⟩)

theorem toString_nat_inj {m n : Nat} (h : toString m = toString n) : m = n := by
  rw [Nat.toString_eq_ofList_toDigits, Nat.toString_eq_ofList_toDigits, String.ofList_inj] at h
  rw [← Nat.ofDigitChars_ten_toDigits (n := m), h, Nat.ofDigitChars_ten_toDigits]

/-- What is shown is told by the samples. -/
theorem Shows.countOf_eq {items : List Sample} {metrics others : Collector} {now later : Binary64}
    (h : Shows items metrics now) (hOther : Shows items others later) :
    others.countOf = metrics.countOf := by
  funext counter
  have hSame := (hOther.counter counter).symm.trans (h.counter counter)
  split at hSame
  next hZero =>
    split at hSame
    next hNone => rw [hZero, hNone]
    next => nomatch hSame
  next =>
    split at hSame
    next => nomatch hSame
    next =>
      exact toString_nat_inj (congrArg Sample.value (List.cons.inj hSame).1)

theorem Sample.isOf_sample {x y : Counter} (count : Nat) : (x.sample count).IsOf y ↔ x = y := by
  constructor
  · exact fun h => Counter.labels_inj.mp h.2
  · rintro rfl
    exact ⟨rfl, rfl⟩

theorem filter_isOf_countersOf {κ : Type} [DecidableEq κ] {tally sorted : Tally κ} {keys : List κ}
    (h : tally.Counts keys) (hPerm : sorted.Perm tally) (toCounter : κ → Counter) (key : κ)
    (hKey : ∀ other ∈ keys, toCounter other = toCounter key → other = key) :
    (countersOf toCounter sorted).filter (·.IsOf (toCounter key)) =
      if keys.count key = 0 then [] else [(toCounter key).sample (keys.count key)] := by
  have hSame : sorted.filter (fun entry => toCounter entry.1 = toCounter key) =
      sorted.filter (fun entry => entry.1 = key) := by
    refine List.filter_congr fun entry hMem => decide_eq_decide.mpr ⟨?_, congrArg toCounter⟩
    exact hKey entry.1 (h.mem_keys.mp (List.mem_map_of_mem (hPerm.mem_iff.mp hMem)))
  simp only [countersOf, List.filter_map, Function.comp_def, Sample.isOf_sample]
  rw [hSame, h.filter_perm hPerm]
  split
  · rfl
  · rfl

/-- Of texts each has its counter. -/
theorem filter_isOf_texts {tally sorted : Tally Label} {keys : List Label} (h : tally.Counts keys)
    (hPerm : sorted.Perm tally) (hTexts : ∀ label ∈ keys, ∃ text, label = .text text)
    {toCounter : String → Counter} (hInj : ∀ x y, toCounter x = toCounter y → x = y)
    (text : String) :
    (countersOf (fun key => toCounter key.toJson.shown) sorted).filter (·.IsOf (toCounter text)) =
      if keys.count (.text text) = 0 then []
      else [(toCounter text).sample (keys.count (.text text))] := by
  refine filter_isOf_countersOf h hPerm (fun key => toCounter key.toJson.shown) (.text text) ?_
  intro other hOther hSame
  obtain ⟨shown, rfl⟩ := hTexts other hOther
  exact congrArg Label.text (hInj shown text hSame)

theorem filter_isOf_countersOf_ne {κ : Type} {toCounter : κ → Counter} {counter : Counter}
    (h : ∀ key, toCounter key ≠ counter) (tally : Tally κ) :
    (countersOf toCounter tally).filter (·.IsOf counter) = [] := by
  simp [countersOf, List.filter_map, Function.comp_def, Sample.isOf_sample, h]

theorem filter_labels_countersOf {κ : Type} (toCounter : κ → Counter) (tally : Tally κ) :
    (countersOf toCounter tally).filter (·.labels = []) = [] := by
  simp [countersOf, List.filter_map, Function.comp_def, Counter.sample, Counter.labels_ne_nil]

section

variable {metrics : Collector} {recordings : List Recording}

theorem filterMap_sample?_contents (metrics : Collector) (now : Binary64) :
    (contents metrics now).filterMap Line.sample? =
      [uptimeSample metrics now] ++ signInSamples metrics ++ failureSamples metrics ++
        [averageSample metrics] ++ resolutionSamples metrics := by
  simp only [contents, List.filterMap_append, filterMap_sample?_family]

theorem exists_text_of_outcome {label : Label}
    (h : label ∈ recordings.filterMap Recording.outcome?) : ∃ text, label = .text text := by
  obtain ⟨recording, -, hOutcome⟩ := List.mem_filterMap.mp h
  cases recording with
  | signIn outcome duration code => exact ⟨outcome, (Option.some.inj hOutcome).symm⟩
  | decision resolution => nomatch hOutcome

theorem exists_text_of_code {label : Label}
    (h : label ∈ recordings.filterMap Recording.code?) : ∃ text, label = .text text := by
  obtain ⟨recording, -, hCode⟩ := List.mem_filterMap.mp h
  cases recording with
  | signIn outcome duration code =>
      obtain ⟨text, rfl, -⟩ := Recording.code?_eq_some.mp hCode
      exact ⟨text, rfl⟩
  | decision resolution => nomatch hCode

theorem countOf_eq (h : metrics.Keeps recordings) (counter : Counter) :
    metrics.countOf counter = recordings.countP counter.isRaisedBy := by
  cases counter with
  | signIns outcome =>
      rw [Collector.countOf, h.signIns.of_eq, List.count_filterMap]
      rfl
  | failures code =>
      rw [Collector.countOf, h.failures.of_eq, List.count_filterMap]
      rfl
  | resolutions resolution =>
      rw [Collector.countOf, h.resolutions.of_eq, List.count_filterMap]
      rfl

theorem shows_contents (h : metrics.Keeps recordings) (now : Binary64) :
    Shows ((contents metrics now).filterMap Line.sample?) metrics now := by
  have hSignIns := sortByHalving_perm (fun (x, _) (y, _) => x.before y) metrics.signIns
  have hFailures := sortByHalving_perm (fun (x, _) (y, _) => x.before y) metrics.failures
  have hResolutions := sortBy_perm (fun (x, _) (y, _) => before x y) metrics.resolutions
  have hUptime (counter : Counter) : ¬(uptimeSample metrics now).IsOf counter :=
    fun hIs => counter.labels_ne_nil hIs.2.symm
  have hAverage (counter : Counter) : ¬(averageSample metrics).IsOf counter :=
    fun hIs => counter.labels_ne_nil hIs.2.symm
  rw [filterMap_sample?_contents]
  refine ⟨fun counter => ?_, ?_, fun s hMem => ?_⟩
  · simp only [List.filter_append, List.filter_singleton, hUptime, hAverage, decide_false,
      cond_false, signInSamples, failureSamples, resolutionSamples]
    cases counter with
    | signIns outcome =>
        rw [filter_isOf_texts h.signIns hSignIns (fun _ => exists_text_of_outcome)
            (fun _ _ => Counter.signIns.inj),
          filter_isOf_countersOf_ne nofun, filter_isOf_countersOf_ne nofun,
          Collector.countOf, h.signIns.of_eq]
        simp
    | failures code =>
        rw [filter_isOf_texts h.failures hFailures (fun _ => exists_text_of_code)
            (fun _ _ => Counter.failures.inj),
          filter_isOf_countersOf_ne nofun, filter_isOf_countersOf_ne nofun,
          Collector.countOf, h.failures.of_eq]
        simp
    | resolutions resolution =>
        rw [filter_isOf_countersOf h.resolutions hResolutions .resolutions resolution
            fun _ _ => Counter.resolutions.inj,
          filter_isOf_countersOf_ne nofun, filter_isOf_countersOf_ne nofun,
          Collector.countOf, h.resolutions.of_eq]
        simp
  · simp only [List.filter_append, signInSamples, failureSamples, resolutionSamples,
      filter_labels_countersOf]
    rfl
  · have hKnown {κ : Type} {toCounter : κ → Counter} {tally : Tally κ}
        (hIn : s ∈ countersOf toCounter tally) : ∃ counter, s.IsOf counter := by
      obtain ⟨entry, -, rfl⟩ := List.mem_map.mp hIn
      exact ⟨toCounter entry.1, rfl, rfl⟩
    rw [List.mem_append, List.mem_append, List.mem_append, List.mem_append] at hMem
    rcases hMem with (((hIn | hIn) | hIn) | hIn) | hIn
    · exact Or.inl (List.mem_singleton.mp hIn ▸ rfl)
    · exact Or.inr (hKnown hIn)
    · exact Or.inr (hKnown hIn)
    · exact Or.inl (List.mem_singleton.mp hIn ▸ rfl)
    · exact Or.inr (hKnown hIn)

/-- The values of labels are the texts that were recorded, except for empty ones. -/
theorem forall_plain_iff (h : metrics.Keeps recordings) (now : Binary64) :
    (∀ s ∈ (contents metrics now).filterMap Line.sample?, ∀ entry ∈ s.labels, IsPlain entry.2) ↔
      ∀ recording ∈ recordings, recording.IsPlain := by
  have hShows := shows_contents h now
  constructor
  · intro hPlain recording hMem text hText
    rcases Counter.exists_of_mem_texts hText with rfl | ⟨counter, hRaised, entry, hEntry, rfl⟩
    · exact nofun
    · have hPos : metrics.countOf counter ≠ 0 := by
        rw [countOf_eq h]
        exact Nat.ne_of_gt (List.countP_pos_iff.mpr ⟨recording, hMem, hRaised⟩)
      exact hPlain _ (hShows.mem_of_ne_zero hPos) entry hEntry
  · intro hPlain s hMem entry hEntry
    rcases hShows.known s hMem with hNone | ⟨counter, hIs⟩
    · rw [hNone] at hEntry
      nomatch hEntry
    · have hPos : 0 < recordings.countP counter.isRaisedBy :=
        Nat.pos_of_ne_zero (countOf_eq h counter ▸ hShows.ne_zero_of_mem hMem hIs)
      obtain ⟨recording, hIn, hRaised⟩ := List.countP_pos_iff.mp hPos
      exact hPlain recording hIn entry.2
        (Counter.mem_texts_of_isRaisedBy hRaised entry (hIs.2 ▸ hEntry))

theorem areOrdered_of_texts {labels : List Label}
    (h : ∀ label ∈ labels, ∃ text, label = .text text) : Label.areOrdered labels = true := by
  rw [Label.areOrdered, Bool.or_eq_true, Bool.or_eq_true]
  refine Or.inl (Or.inr (List.all_eq_true.mpr fun label hMem => ?_))
  obtain ⟨text, rfl⟩ := h label hMem
  rfl

/-- Whatever texts were recorded, there is a text to export. -/
theorem text_eq (h : metrics.Keeps recordings) (now : Binary64) :
    text metrics now = .ok (document id (contents metrics now)) := by
  have hSignIns : Label.areOrdered (metrics.signIns.map (·.1)) = true :=
    areOrdered_of_texts fun _ hMem => exists_text_of_outcome (h.signIns.mem_keys.mp hMem)
  have hFailures : Label.areOrdered (metrics.failures.map (·.1)) = true :=
    areOrdered_of_texts fun _ hMem => exists_text_of_code (h.failures.mem_keys.mp hMem)
  rw [text, hSignIns, hFailures, document, map_text_contents]
  rfl

/-- Values that stand for themselves are read as they are. -/
theorem readText?_of_plain (h : metrics.Keeps recordings)
    (hPlain : ∀ recording ∈ recordings, recording.IsPlain) {now : Binary64} {exported : String}
    (hText : text metrics now = .ok exported) :
    readText? exported = some ((contents metrics now).filterMap Line.sample?) := by
  have hAsked := (document_eq_iff _).mpr ((forall_plain_iff h now).mpr hPlain)
  have hExported : document id (contents metrics now) = exported :=
    Except.ok.inj ((text_eq h now).symm.trans hText)
  rw [← hExported, hAsked]
  exact readText?_document (isRegular_contents metrics now)

end

/-- Recorded texts of every kind make a text to export. It is the one that the format asks for, from
which each key is read back once and with its count, exactly if nothing in them has to be escaped.
Among such recordings, counters that differ never make the same text. -/
theorem export_reads_back (started now : Binary64) (recordings : List Recording) :
    let metrics := (Collector.start started).recordAll recordings
    let asked := document escaped (contents metrics now)
    ∃ exported items, text metrics now = .ok exported ∧
      Shows items metrics now ∧
      (∀ counter, metrics.countOf counter = recordings.countP counter.isRaisedBy) ∧
      readText? asked = some items ∧
      (exported = asked ↔ ∀ recording ∈ recordings, recording.IsPlain) ∧
      ((∀ recording ∈ recordings, recording.IsPlain) →
        readText? exported = some items ∧
        ∀ started' now' others, (∀ recording ∈ others, recording.IsPlain) →
          text ((Collector.start started').recordAll others) now' = .ok exported →
          ((Collector.start started').recordAll others).countOf = metrics.countOf) := by
  intro metrics asked
  have hKeeps : metrics.Keeps recordings := Collector.keeps_recordAll started recordings
  have hText := text_eq hKeeps now
  have hShows := shows_contents hKeeps now
  refine ⟨document id (contents metrics now), _, hText, hShows, countOf_eq hKeeps,
    readText?_document (isRegular_contents metrics now),
    (document_eq_iff _).trans (forall_plain_iff hKeeps now), fun hPlain => ?_⟩
  have hRead := readText?_of_plain hKeeps hPlain hText
  refine ⟨hRead, fun started' now' others hOthers hText' => ?_⟩
  have hKeeps' := Collector.keeps_recordAll started' others
  have hRead' := readText?_of_plain hKeeps' hOthers hText'
  rw [hRead] at hRead'
  exact hShows.countOf_eq (Option.some.inj hRead' ▸ shows_contents hKeeps' now')

/-- Two orders of a failure, a success and a decision have one text, and the same counters. -/
theorem export_reads_back_reordered :
    let failure := Recording.signIn "failure" (.zero false) (some "NotAuthorized")
    let success := Recording.signIn "success" (.zero false) none
    let decision := Recording.decision ⟨"Post", "read", "API_KEY"⟩
    let metrics := (Collector.start (.zero false)).recordAll [failure, success, decision]
    let others := (Collector.start (.zero false)).recordAll [success, decision, failure]
    (∀ recording ∈ [failure, success, decision], recording.IsPlain) ∧
      (∀ recording ∈ [success, decision, failure], recording.IsPlain) ∧
      text others (.zero false) = text metrics (.zero false) ∧
      others.countOf = metrics.countOf ∧ metrics.countOf (.failures "NotAuthorized") = 1 := by
  intro failure success decision metrics others
  have hPlain : ∀ recording ∈ [failure, success, decision], recording.IsPlain := by decide
  have hOthers : ∀ recording ∈ [success, decision, failure], recording.IsPlain := by decide
  have hSame : text others (.zero false) = text metrics (.zero false) := by
    rw [text_eq (Collector.keeps_recordAll _ _), text_eq (Collector.keeps_recordAll _ _)]
    exact congrArg Except.ok (by decide +kernel)
  obtain ⟨exported, items, hText, -, hCount, -, -, hBack⟩ :=
    export_reads_back (.zero false) (.zero false) [failure, success, decision]
  refine ⟨hPlain, hOthers, hSame, ?_, hCount _⟩
  exact (hBack hPlain).2 (.zero false) (.zero false) _ hOthers (hSame.trans hText)

/-- An outcome with a quotation mark and a line break in it makes the text of two outcomes. -/
theorem forged_line_hides_outcome :
    let forged := "a\"\x7d 1\nappauth_sign_ins_total\x7boutcome=\"b"
    let metrics := (Collector.start (.zero false)).recordAll [.signIn forged (.zero false) none]
    let others := (Collector.start (.zero false)).recordAll
      [.signIn "a" (.zero false) none, .signIn "b" (.zero false) none]
    text metrics (.zero false) = text others (.zero false) ∧
      metrics.countOf (.signIns forged) = 1 ∧ others.countOf (.signIns forged) = 0 ∧
      metrics.countOf (.signIns "a") = 0 ∧ others.countOf (.signIns "a") = 1 := by
  intro forged metrics others
  refine ⟨?_, by decide, by decide, by decide, by decide⟩
  rw [text_eq (Collector.keeps_recordAll _ _), text_eq (Collector.keeps_recordAll _ _)]
  exact congrArg Except.ok (by decide +kernel)

end Exposition
end ClientAuth

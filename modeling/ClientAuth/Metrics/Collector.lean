import ClientAuth.Json.Writer
import ClientAuth.Metrics.Label

/-! Counters of sign-in attempts and of authorization decisions. -/
namespace ClientAuth

/-- The counts of keys, in the order in which the keys were first counted. -/
abbrev Tally (κ : Type) := List (κ × Nat)

namespace Tally

/-- Counts a key once more. -/
def count {κ : Type} [DecidableEq κ] (key : κ) : Tally κ → Tally κ
  | [] => [(key, 1)]
  | (other, n) :: rest => if other = key then (key, n + 1) :: rest else (other, n) :: count key rest

/-- How often a key was counted. -/
def of {κ : Type} [DecidableEq κ] (tally : Tally κ) (key : κ) : Nat :=
  ((tally.find? fun entry => entry.1 = key).map (·.2)).getD 0

/-- How often any key was counted. -/
def total {κ : Type} (tally : Tally κ) : Nat := tally.foldr (fun entry rest => entry.2 + rest) 0

theorem total_count {κ : Type} [DecidableEq κ] (key : κ) (tally : Tally κ) :
    (tally.count key).total = tally.total + 1 := by
  induction tally with
  | nil => rfl
  | cons entry rest ih =>
      obtain ⟨other, n⟩ := entry
      unfold count
      split
      · simp only [total, List.foldr_cons]
        omega
      · simp only [total, List.foldr_cons] at ih ⊢
        omega

theorem of_count {κ : Type} [DecidableEq κ] (key other : κ) (tally : Tally κ) :
    (tally.count key).of other = tally.of other + if key = other then 1 else 0 := by
  induction tally with
  | nil => by_cases h : key = other <;> simp [count, of, h]
  | cons entry rest ih =>
      obtain ⟨name, n⟩ := entry
      by_cases hKey : name = key
      · subst hKey
        by_cases h : name = other <;> simp [count, of, h]
      · by_cases hName : name = other
        · subst hName
          simp [count, of, hKey, Ne.symm hKey]
        · simpa [count, of, hKey, hName] using ih

end Tally

/-- A decision: the model, the operation and the mechanism, by their texts. -/
structure Resolution where
  model : String
  operation : String
  mechanism : String
deriving DecidableEq, Repr

/-- The counters. -/
structure Collector where
  started : Binary64
  signIns : Tally Label
  failures : Tally Label
  durationSum : Binary64
  durationCount : Nat
  resolutions : Tally Resolution
deriving DecidableEq, Repr

namespace Collector

/-- Counters that start at a time. -/
def start (now : Binary64) : Collector := ⟨now, [], [], Binary64.zero false, 0, []⟩

/-- Counts a label under the first spelling of its value. -/
def countLabel (label : Label) (tally : Tally Label) : Tally Label :=
  tally.count (((tally.find? fun entry => entry.1.same label).map (·.1)).getD label)

/-- Counts an attempt by its outcome. -/
def countOutcome (outcome : Label) (metrics : Collector) : Collector :=
  { metrics with signIns := countLabel outcome metrics.signIns }

/-- Adds the duration of an attempt. -/
def addDuration (duration : Binary64) (metrics : Collector) : Collector :=
  { metrics with
    durationSum := metrics.durationSum.add duration
    durationCount := metrics.durationCount + 1 }

/-- Counts the error code of an attempt, if it has one. -/
def countFailure (error : Option Label) (metrics : Collector) : Collector :=
  match error with
  | some code => { metrics with failures := countLabel code metrics.failures }
  | none => metrics

/-- Records a finished attempt. -/
def recordSignIn (outcome : Label) (duration : Binary64) (error : Option Label)
    (metrics : Collector) : Collector :=
  ((metrics.countOutcome outcome).addDuration duration).countFailure error

/-- The double that is added for a duration of any kind. -/
def durationOf : Json → Outcome Binary64
  | .float value => .ok value
  | .int value => Outcome.orHalt .beyondDouble (Binary64.ofInt? value)
  | .bool value => .ok (Binary64.ofRatio false (if value then 1 else 0) 1)
  | _ => .halt .wrongKind

/-- Records an attempt that is described by values of any kind. What cannot be
counted breaks the recording off after what comes before it is counted. -/
def recordValues (outcome duration error : Json) (metrics : Collector) :
    Outcome Unit × Collector :=
  match Label.ofJson? outcome with
  | none => (.halt .notCountable, metrics)
  | some outcome =>
      match durationOf duration with
      | .error interruption => (.error interruption, metrics.countOutcome outcome)
      | .ok duration =>
          match Label.ofCode error with
          | .error interruption => (.error interruption, metrics.recordSignIn outcome duration none)
          | .ok error => (.ok (), metrics.recordSignIn outcome duration error)

/-- Records a decision. -/
def recordResolution (resolution : Resolution) (metrics : Collector) : Collector :=
  { metrics with resolutions := metrics.resolutions.count resolution }

/-- The average duration in seconds, if there is any. -/
def average? (metrics : Collector) : Option Binary64 :=
  if metrics.durationCount = 0 then none
  else some (metrics.durationSum.divNat metrics.durationCount)

/-- The seconds since the start. -/
def uptime (metrics : Collector) (now : Binary64) : Binary64 := now.sub metrics.started

/-- Decisions by model and operation, then by mechanism. Of several decisions
that share a key and a mechanism the one first recorded last counts. -/
def resolutionsByKey (metrics : Collector) : List (String × List (String × Nat)) :=
  metrics.resolutions.foldl (fun grouped (resolution, count) =>
    let key := resolution.model ++ " " ++ resolution.operation
    let counts := (Json.lookup? key grouped).getD []
    Json.insert key (Json.insert resolution.mechanism count counts) grouped) []

/-- Counts as an object. -/
def countsToJson (counts : List (String × Nat)) : Json :=
  .object (counts.map fun (key, count) => (key, .int count))

/-- Counts of labels as an object. Of labels with one key the last counts. -/
def labelsToJson (tally : Tally Label) : Json :=
  countsToJson (tally.foldl (fun counts (label, count) => Json.insert label.key count counts) [])

/-- All counters as an object. Times are rounded to two places. -/
def toJson (metrics : Collector) (now : Binary64) : Json :=
  .object [
    ("uptime_seconds", .float ((metrics.uptime now).roundTo 2)),
    ("sign_ins_total", .int metrics.signIns.total),
    ("sign_ins_by_outcome", labelsToJson metrics.signIns),
    ("failures_by_error", labelsToJson metrics.failures),
    ("avg_sign_in_time_ms",
      match metrics.average? with
      | some average => .float ((average.mul (Binary64.ofRatio false 1000 1)).roundTo 2)
      | none => .int 0),
    ("resolutions",
      .object (metrics.resolutionsByKey.map fun (key, counts) => (key, countsToJson counts)))]

end Collector
end ClientAuth

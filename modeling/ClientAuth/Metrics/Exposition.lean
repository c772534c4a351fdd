import ClientAuth.Metrics.Collector
import ClientAuth.Sorting.Halving

/-! The counters in the text format that monitoring systems scrape. -/
namespace ClientAuth.Exposition

/-- Resolutions by model, then operation, then mechanism. -/
def before (x y : Resolution) : Bool :=
  if x.model = y.model then
    if x.operation = y.operation then x.mechanism < y.mechanism else x.operation < y.operation
  else x.model < y.model

/-- The two lines that introduce a family of samples. -/
def header (name help kind : String) : List String :=
  ["# HELP " ++ name ++ " " ++ help, "# TYPE " ++ name ++ " " ++ kind]

/-- A label with its value. -/
def label (name value : String) : String := name ++ "=\"" ++ value ++ "\""

/-- A sample with labels. -/
def sample (name : String) (labels : List String) (count : Nat) : String :=
  name ++ "\x7b" ++ ",".intercalate labels ++ "\x7d " ++ toString count

/-- The samples of a tally, its labels in order. -/
def samples (name labelName : String) (tally : Tally Label) : List String :=
  (sortByHalving (fun (x, _) (y, _) => x.before y) tally).map fun (key, count) =>
    sample name [label labelName key.toJson.shown] count

/-- The lines of all families, each family followed by an empty line. -/
def lines (metrics : Collector) (now : Binary64) : List String :=
  header "appauth_uptime_seconds" "Time since collector start in seconds" "gauge" ++
    ["appauth_uptime_seconds " ++ (metrics.uptime now).fixed 2, ""] ++
  header "appauth_sign_ins_total" "Sign-in attempts by outcome" "counter" ++
    samples "appauth_sign_ins_total" "outcome" metrics.signIns ++ [""] ++
  header "appauth_sign_in_failures_total" "Failed sign-ins by error code" "counter" ++
    samples "appauth_sign_in_failures_total" "error" metrics.failures ++ [""] ++
  header "appauth_sign_in_time_seconds" "Average sign-in time in seconds" "gauge" ++
    ["appauth_sign_in_time_seconds " ++
      ((metrics.average?.getD (Binary64.zero false)).fixed 6), ""] ++
  header "appauth_auth_mode_resolutions_total" "Authorization modes chosen" "counter" ++
    ((sortBy (fun (x, _) (y, _) => before x y) metrics.resolutions).map fun (key, count) =>
      sample "appauth_auth_mode_resolutions_total"
        [label "model" key.model, label "operation" key.operation,
          label "auth_type" key.mechanism] count) ++ [""]

/-- The whole text. Every line ends with a line break. Labels without an order
have no text. -/
def text (metrics : Collector) (now : Binary64) : Outcome String :=
  if Label.areOrdered (metrics.signIns.map (·.1)) &&
      Label.areOrdered (metrics.failures.map (·.1)) then
    .ok ("\n".intercalate (lines metrics now) ++ "\n")
  else .halt .notComparable

end ClientAuth.Exposition

/-! Sets of characters as runs of code points. -/
namespace ClientAuth.Text

/-- Whether a code point is in one of several runs, each given by its first and
its last code point. -/
def inRuns (runs : List (Nat × Nat)) (code : Nat) : Bool :=
  runs.any fun (first, last) => first ≤ code && code ≤ last

/-- Code points from `first` to `last`, `step` apart. -/
structure SpacedRun where
  first : Nat
  last : Nat
  step : Nat

/-- Whether a code point is in a run. -/
def SpacedRun.covers (run : SpacedRun) (code : Nat) : Bool :=
  run.first ≤ code && code ≤ run.last && (code - run.first) % run.step = 0

end ClientAuth.Text

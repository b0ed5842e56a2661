/-! Sets and maps of characters given by ranges of their code points. -/

namespace WebCoverage.Text

/-- The code points `first`, `first + step`, … up to `last`, moved so that `first` becomes
`target`. -/
structure CodeRun where
  first : Nat
  last : Nat
  step : Nat
  target : Nat

/-- The place a run moves `code` to, if `code` is in the run. -/
def CodeRun.image? (run : CodeRun) (code : Nat) : Option Nat :=
  if run.first ≤ code ∧ code ≤ run.last ∧ (code - run.first) % run.step = 0 then
    some (run.target + (code - run.first))
  else
    none

/-- The place the first run that holds `code` moves it to. -/
def lookupRun? (runs : List CodeRun) (code : Nat) : Option Nat :=
  runs.findSome? (·.image? code)

/-- Membership in a union of ranges, both ends included. -/
def inRanges (ranges : List (Nat × Nat)) (code : Nat) : Bool :=
  ranges.any fun range => range.1 ≤ code && code ≤ range.2

end WebCoverage.Text

import Provenance.Fault
import Provenance.Number.Total

/-!
# Number — Statistics

Mean, sample deviation and coefficient of variation. Sums and squares are exact rationals; each
statistic is rounded once, at its end. A list with too few values has none.
-/

namespace Provenance.Statistics

/-- The exact mean. -/
def exactMean (xs : List Rat) : Checked Rat :=
  if xs = [] then .error (.list .mean) else .ok (total xs / xs.length)

/-- The exact sample variance. -/
def exactVariance (xs : List Rat) : Checked Rat :=
  if xs.length < 2 then .error (.list .deviation)
  else do
    let mean ← exactMean xs
    return total (xs.map fun x => (x - mean) * (x - mean)) / ((xs.length : Rat) - 1)

/-- The mean of numbers. -/
def mean (xs : List Binary64) : Checked Binary64 := do
  return Binary64.ofRat (← exactMean (xs.map Binary64.toRat))

/-- The sample deviation of integers, relative to their mean. Fewer than two values do not vary, and
neither do values whose mean is not positive. -/
def variation (lengths : List Int) : Checked Binary64 := do
  let exact := lengths.map fun (n : Int) => (n : Rat)
  if lengths.length < 2 then return 0
  let mean := Binary64.ofRat (← exactMean exact)
  if mean ≤ 0 then return 0
  ((Binary64.sqrt (← exactVariance exact)).over mean).mapError .number

end Provenance.Statistics

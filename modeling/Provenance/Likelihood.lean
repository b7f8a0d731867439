import Provenance.Fault

/-!
# Likelihood

How likely it is that a line was generated. A line begins at zero, and each pattern that covers it
takes its confidence as a share of what is still missing to certainty: from `l` the likelihood grows
to `1 - (1 - l) * (1 - c / 100)`. From one half on a line counts as generated.
-/

namespace Provenance.Likelihood

/-- The likelihood after one more pattern of some confidence in percent. -/
def combine (likelihood : Binary64) (confidence : Int) : Binary64 :=
  1 - (1 - likelihood) * (1 - Binary64.ofInt confidence / 100)

/-- The likelihood that patterns of these confidences give, in their order. -/
def ofConfidences (confidences : List Nat) : Binary64 :=
  confidences.foldl (fun l (c : Nat) => combine l c) 0

/-- Whether a likelihood counts as generated. -/
def isGenerated (likelihood : Binary64) : Bool := decide (Binary64.half ≤ likelihood)

/-- The mean likelihood of generated lines, zero when there are none. -/
def strength (generated : List Binary64) : Checked Binary64 :=
  if generated = [] then .ok 0
  else ((Binary64.sum generated).over (Binary64.ofInt generated.length)).mapError .number

/-- The confidence in a whole file, in percent: half of it is the share of its lines that some
pattern covers, half of it the mean likelihood of the generated lines. The likelihoods are those of
the lines by their numbers, and are added in this order. Lines that are only kept as a set have no
order of their own: from a walk through the set, which may come to them in another order, the last
bits of the sum can differ. -/
def fileConfidence (likelihoods : List Binary64) (touched : Int) : Checked Int :=
  if likelihoods = [] then .ok 0
  else do
    let coverage ← countQuotient touched likelihoods.length
    let strength ← strength (likelihoods.filter isGenerated)
    (percentage (.real (Binary64.half * coverage + Binary64.half * strength)) (.integer 1)).mapError
      .number

end Provenance.Likelihood

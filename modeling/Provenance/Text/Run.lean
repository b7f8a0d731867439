/-!
# Text — Run

Sets of characters given as runs of code points. A run has a first and a last code point and a
stride, since the two cases of a script often alternate.
-/

namespace Provenance.Text

/-- The code points from `first` to `last` in steps of `stride`. -/
structure Run where
  first : Nat
  last : Nat
  stride : Nat

/-- Whether a code point lies in a run. -/
def Run.contains (r : Run) (n : Nat) : Bool :=
  decide (r.first ≤ n) && decide (n ≤ r.last) && (n - r.first) % r.stride == 0

/-- Whether a character lies in one of the runs. -/
def inRuns (rs : List Run) (c : Char) : Bool := rs.any fun r => r.contains c.toNat

/-- Runs that begin behind ASCII hold no ASCII character. -/
theorem inRuns_ascii {rs : List Run} (h : ∀ r ∈ rs, 128 ≤ r.first) {c : Char}
    (hc : c.toNat < 128) : inRuns rs c = false := by
  rw [inRuns, List.any_eq_false]
  intro r hr
  have := h r hr
  simp [Run.contains]
  omega

end Provenance.Text

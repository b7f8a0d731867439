import Provenance.Number.Statistics
import Provenance.Proofs.Number.Between

/-!
# Proofs — Number — Statistics

Means and variations have values. A mean needs one value, a variation none: where there are too few
values for a deviation, or no positive mean to divide it by, the variation is zero.
-/

namespace Provenance

open Binary64

/-! ## Divisors -/

/-- A zero of either sign is not above zero. -/
theorem Binary64.le_zero_of_isZero {x : Binary64} (h : x.isZero = true) : x ≤ 0 ∧ ¬ 0 < x := by
  have hx : ∃ negative, x = signedZero negative := by
    cases x with
    | finite negative rank rank_lt =>
      have hrank : rank = 0 := of_decide_eq_true h
      subst hrank
      exact ⟨negative, rfl⟩
    | infinite negative => cases h
    | notANumber => cases h
  obtain ⟨negative, rfl⟩ := hx
  cases negative <;> decide +kernel

/-! ## Least and greatest -/

theorem gives_least {ns : List Nat} (h : ns ≠ []) : Gives (least ns) fun _ => True := by
  rw [least]
  cases hm : ns.min? with
  | none => exact absurd (List.min?_eq_none_iff.1 hm) h
  | some n => exact .ok trivial

theorem gives_greatest {ns : List Nat} (h : ns ≠ []) : Gives (greatest ns) fun _ => True := by
  rw [greatest]
  cases hm : ns.max? with
  | none => exact absurd (List.max?_eq_none_iff.1 hm) h
  | some n => exact .ok trivial

namespace Statistics

/-! ## Means and variations -/

theorem gives_exactMean {xs : List Rat} (h : xs ≠ []) : Gives (exactMean xs) fun _ => True := by
  rw [exactMean, if_neg h]
  exact .ok trivial

theorem gives_exactVariance {xs : List Rat} (h : 2 ≤ xs.length) :
    Gives (exactVariance xs) fun _ => True := by
  have hne : xs ≠ [] := List.ne_nil_of_length_pos (by omega)
  rw [exactVariance, if_neg (by omega)]
  exact (gives_exactMean hne).bind fun _ _ => .pure trivial

theorem gives_mean {xs : List Binary64} (h : xs ≠ []) : Gives (mean xs) fun _ => True := by
  have hne : xs.map Binary64.toRat ≠ [] := fun hnil => h (List.map_eq_nil_iff.1 hnil)
  exact (gives_exactMean hne).bind fun _ _ => .pure trivial

/-- **Whatever the lengths are, they have a variation.** -/
theorem gives_variation (lengths : List Int) : Gives (variation lengths) fun _ => True := by
  rw [variation]
  split
  · exact .pure trivial
  rename_i hlen
  generalize hexact : (lengths.map fun (n : Int) => (n : Rat)) = exact
  have htwo : 2 ≤ exact.length := by
    rw [← hexact, List.length_map]
    omega
  have hne : exact ≠ [] := List.ne_nil_of_length_pos (by omega)
  refine (gives_exactMean hne).bind fun mean _ => ?_
  dsimp only
  split
  · exact .pure trivial
  rename_i hmean
  refine (gives_exactVariance htwo).bind fun variance _ => Gives.mapError ?_
  exact gives_over (eq_false_of_ne_true fun hz => hmean (le_zero_of_isZero hz).1) trivial

end Statistics

end Provenance

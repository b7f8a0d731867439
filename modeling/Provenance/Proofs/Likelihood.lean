import Provenance.Likelihood
import Provenance.Proofs.Number.Percentage

/-!
# Proofs — Likelihood

Likelihoods lie between zero and one whatever patterns cover a line, so the mean of some of them
does, and the confidence in a file is a percentage (`gives_fileConfidence`).
-/

namespace Provenance.Likelihood

open Binary64

/-! ## Likelihoods of lines -/

/-- A certainty that some share is missing from. -/
theorem between_one_sub {x : Binary64} (h : Between 0 1 x) : Between 0 1 (1 - x) := by
  have := between_one.sub h (by simpa using isExact_zero) (by simpa using isExact_one)
  simpa using this

theorem between_combine {likelihood : Binary64} (h : Between 0 1 likelihood) {confidence : Nat}
    (hc : confidence ≤ 100) : Between 0 1 (combine likelihood confidence) := by
  have hcr : (confidence : Rat) ≤ 100 := by exact_mod_cast hc
  have hx : Between 0 100 (ofInt confidence) :=
    (between_count confidence (by omega)).mono (Nat.cast_nonneg _) hcr
  have h100 : Between 100 100 (100 : Binary64) :=
    (between_count 100 (by omega)).mono (by norm_num) (by norm_num)
  have hshare : Between 0 1 (ofInt confidence / 100) := by
    refine hx.div h100 (by norm_num) isExact_one ?_
    have := hx.toRat.2
    have := h100.toRat.1
    linarith
  have hmissing := (between_one_sub h).mul (between_one_sub hshare) (by simpa using isExact_one)
  rw [one_mul] at hmissing
  exact between_one_sub hmissing

/-- Every pattern keeps a likelihood between zero and one. -/
theorem between_foldl_combine {confidences : List Nat} (h : ∀ c ∈ confidences, c ≤ 100)
    {likelihood : Binary64} (hl : Between 0 1 likelihood) :
    Between 0 1 (confidences.foldl (fun l (c : Nat) => combine l c) likelihood) := by
  induction confidences generalizing likelihood with
  | nil => exact hl
  | cons c confidences ih =>
    rw [List.foldl_cons]
    exact ih (fun c' hc' => h c' (List.mem_cons_of_mem _ hc'))
      (between_combine hl (h c List.mem_cons_self))

theorem between_ofConfidences {confidences : List Nat} (h : ∀ c ∈ confidences, c ≤ 100) :
    Between 0 1 (ofConfidences confidences) :=
  between_foldl_combine h (between_zero.mono le_rfl zero_le_one)

/-! ## Sums of likelihoods -/

/-- Where sums reach 53 digits, one more likelihood is rounded away. -/
theorem nearestRank_saturated :
    nearestRank ((2 * blockSize : Nat) + 1) = nearestRank ((2 * blockSize : Nat)) := by
  decide +kernel

theorem isExact_saturated : IsExact ((2 * blockSize : Nat) : Rat) := by
  refine ⟨rankOf 1 blockSize, by decide, ?_⟩
  rw [magnitude_rankOf (by omega) (by omega) (.inr le_rfl), abs_of_nonneg (Nat.cast_nonneg _)]
  push_cast
  ring

/-- One more likelihood on a sum that has reached 53 digits. -/
theorem between_add_saturated {x y : Binary64} (hx : Between 0 (2 * blockSize : Nat) x)
    (hy : Between 0 1 y) : Between 0 (2 * blockSize : Nat) (x + y) := by
  rw [add_eq hx hy]
  have h0 : 0 ≤ x.toRat + y.toRat := add_nonneg hx.toRat.1 hy.toRat.1
  rcases le_or_gt (x.toRat + y.toRat) (2 * blockSize : Nat) with hle | hgt
  · exact between_ofRat isExact_zero isExact_saturated h0 hle _
  · have hpos : 0 < x.toRat + y.toRat := (Nat.cast_nonneg _).trans_lt hgt
    have hrank : nearestRank (x.toRat + y.toRat) = nearestRank ((2 * blockSize : Nat)) := by
      refine le_antisymm ?_ (nearestRank_mono (Nat.cast_pos.2 (by decide)) hgt.le)
      rw [← nearestRank_saturated]
      exact nearestRank_mono hpos (add_le_add hx.toRat.2 hy.toRat.2)
    rw [ofRat_congr hpos (Nat.cast_pos.2 (by decide)) hrank]
    exact between_ofRat isExact_zero isExact_saturated (Nat.cast_nonneg _) le_rfl _

/-- A sum of likelihoods is not above their count. -/
theorem between_foldl_add {xs : List Binary64} (h : ∀ x ∈ xs, Between 0 1 x) {count : Nat}
    {total : Binary64} (ht : Between 0 (min count (2 * blockSize) : Nat) total) :
    Between 0 (min (count + xs.length) (2 * blockSize) : Nat) (xs.foldl (· + ·) total) := by
  induction xs generalizing count total with
  | nil => exact ht
  | cons x xs ih =>
    have hx := h x List.mem_cons_self
    rw [List.foldl_cons, List.length_cons, Nat.add_comm xs.length, ← Nat.add_assoc]
    refine ih (fun y hy => h y (List.mem_cons_of_mem _ hy)) ?_
    -- below 53 digits the bounds add up; from there on the sum stands still
    rcases Nat.lt_or_ge count (2 * blockSize) with hlt | hge
    · rw [Nat.min_eq_left hlt.le] at ht
      rw [Nat.min_eq_left (Nat.succ_le_of_lt hlt)]
      have hexact : IsExact ((count : Rat) + 1) := by
        rcases Nat.lt_or_ge (count + 1) (2 * blockSize) with h | h
        · exact_mod_cast isExact_natCast h
        · have : count + 1 = 2 * blockSize := by omega
          exact_mod_cast this ▸ isExact_saturated
      have hsum := ht.add hx (by simpa using isExact_zero) hexact
      rw [add_zero] at hsum
      exact_mod_cast hsum
    · rw [Nat.min_eq_right hge] at ht
      rw [Nat.min_eq_right (hge.trans (Nat.le_succ _))]
      exact between_add_saturated ht hx

theorem between_sum {xs : List Binary64} (h : ∀ x ∈ xs, Between 0 1 x) :
    Between 0 (min xs.length (2 * blockSize) : Nat) (sum xs) := by
  have h0 : Between 0 (min 0 (2 * blockSize) : Nat) 0 := by simpa using between_zero
  have := between_foldl_add h h0
  rwa [Nat.zero_add] at this

/-! ## Means of likelihoods -/

/-- A count of more than 53 digits is rounded to one of as many, or is above all finite numbers. -/
theorem ofInt_saturated {count : Nat} (h : 2 * blockSize ≤ count) :
    (∃ hi, Between (2 * blockSize : Nat) hi (ofInt count)) ∨ ofInt count = .infinite false := by
  have hle : ((2 * blockSize : Nat) : Rat) ≤ count := by exact_mod_cast h
  have hpos : (0 : Rat) < count := (Nat.cast_pos.2 (by decide)).trans_le hle
  obtain ⟨top, _, htop⟩ := isExact_saturated
  rw [abs_of_nonneg (Nat.cast_nonneg _)] at htop
  have hcast : (((count : Nat) : Int) : Rat) = count := Int.cast_natCast count
  have habs : (count : Rat).abs = count := Rat.abs_of_nonneg hpos.le
  rw [ofInt, hcast, ofRat, if_neg hpos.ne']
  simp only [habs, not_lt.2 hpos.le, decide_false]
  split
  · refine .inl ⟨magnitude (nearestRank count), magnitude (nearestRank count), ?_, ?_, le_rfl⟩
    · simp [toRat?]
    · rw [htop] at hle ⊢
      exact strictMono_magnitude.monotone (le_nearestRank hpos hle)
  · exact .inr rfl

/-- **The mean of some likelihoods lies where they lie.** -/
theorem gives_strength {generated : List Binary64} (h : ∀ x ∈ generated, Between 0 1 x) :
    Gives (strength generated) (Between 0 1) := by
  rw [strength]
  split
  · exact .ok (between_zero.mono le_rfl zero_le_one)
  rename_i hne
  have hpos : 0 < generated.length := List.length_pos_iff.2 hne
  have hsum := between_sum h
  refine Gives.mapError ?_
  rcases Nat.lt_or_ge generated.length (2 * blockSize) with hlt | hge
  · have hcount := between_ofInt hlt
    rw [Nat.min_eq_left hlt.le] at hsum
    have hpos : (0 : Rat) < generated.length := by exact_mod_cast hpos
    refine gives_over (hcount.isZero_eq_false hpos) (hsum.div hcount hpos isExact_one ?_)
    rw [one_mul]
    exact hsum.toRat.2.trans hcount.toRat.1
  · rw [Nat.min_eq_right hge] at hsum
    rcases ofInt_saturated hge with ⟨hi, hcount⟩ | hcount
    · have hpos : (0 : Rat) < (2 * blockSize : Nat) := Nat.cast_pos.2 (by decide)
      refine gives_over (hcount.isZero_eq_false hpos) (hsum.div hcount hpos isExact_one ?_)
      rw [one_mul]
      exact hsum.toRat.2.trans hcount.toRat.1
    · -- a count above all finite numbers leaves nothing of the sum
      rw [hcount]
      refine gives_over rfl ?_
      obtain ⟨negative, rank, rank_lt, he⟩ := hsum.eq_finite
      rw [he]
      exact between_signedZero le_rfl zero_le_one _

/-! ## Confidence in a file -/

theorem between_half_mul {x : Binary64} (h : Between 0 1 x) : Between 0 (1 / 2) (half * x) := by
  have hx : IsExact (1 / 2) := by simpa using isExact_half (n := 1) (by decide)
  have hhalf : Between 0 (1 / 2) half := between_ofRat isExact_zero hx (by norm_num) (by norm_num) _
  have := hhalf.mul h (by simpa using hx)
  rwa [mul_one] at this

/-- **The confidence in a file is a percentage.** -/
theorem gives_fileConfidence {likelihoods : List Binary64} (h : ∀ x ∈ likelihoods, Between 0 1 x)
    {touched : Nat} (ht : touched ≤ likelihoods.length) :
    Gives (fileConfidence likelihoods touched) fun c => 0 ≤ c ∧ c ≤ 100 := by
  rw [fileConfidence]
  split
  · exact .ok (by omega)
  rename_i hne
  refine (gives_share (List.length_pos_iff.2 hne) ht).bind fun coverage hcoverage => ?_
  refine (gives_strength fun x hx => h x (List.mem_of_mem_filter hx)).bind fun strength hs => ?_
  have hsum := (between_half_mul hcoverage).add (between_half_mul hs)
    (by simpa using isExact_zero) (by norm_num; exact isExact_one)
  norm_num at hsum
  exact (gives_percentage_real hsum).mapError

end Provenance.Likelihood

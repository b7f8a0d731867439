import Provenance.Proofs.Number.Between

/-!
# Proofs — Number — Percentage

Quotients of counts and percentages have values, and lie where a share of a whole lies. A number is
cut down or rounded to an integer between the same integer bounds, and a percentage of a part of a
whole lies between 0 and 100 (`gives_countPercentage`). Other percentages of counts may fault, and
all of them in one way (`eq_of_countPercentage_eq_error`).
-/

namespace Provenance

open Binary64

/-! ## Integers near a number -/

/-- A number between bounds is cut down to the integer below its value. -/
theorem Binary64.Between.floor_eq {lo hi : Rat} {x : Binary64} (h : Between lo hi x) :
    x.floor = .ok x.toRat.floor := by
  obtain ⟨negative, rank, rank_lt, rfl⟩ := h.eq_finite
  rfl

theorem gives_floor {lo hi : Rat} {x : Binary64} {m n : Int} (h : Between lo hi x) (hm : m ≤ lo)
    (hn : hi < (n + 1 : Int)) : Gives x.floor fun k => m ≤ k ∧ k ≤ n := by
  refine ⟨_, h.floor_eq, Rat.le_floor_iff.2 (hm.trans h.toRat.1), ?_⟩
  have := Rat.floor_lt_iff.2 (h.toRat.2.trans_lt hn)
  omega

theorem gives_nearestInt {lo hi : Rat} {x : Binary64} {m n : Int} (h : Between lo hi x)
    (hm : m ≤ lo) (hn : hi ≤ n) : Gives x.nearestInt fun k => m ≤ k ∧ k ≤ n := by
  obtain ⟨negative, rank, rank_lt, rfl⟩ := h.eq_finite
  exact ⟨_, rfl, le_nearestEven (hm.trans h.toRat.1), nearestEven_le (h.toRat.2.trans hn)⟩

/-! ## Bounded numbers -/

/-- A number that is cut at an upper bound. -/
theorem between_atMost {lo hi cut : Rat} {bound x : Binary64} (hb : Between cut cut bound)
    (hx : Between lo hi x) (hle : lo ≤ cut) : Between lo cut (atMost bound x) := by
  rw [atMost]
  split
  · rename_i h
    obtain ⟨q, hq, h1, h2⟩ := hx
    have hlt := (lt_iff ⟨q, hq, h1, h2⟩ hb).1 h
    refine ⟨q, hq, h1, ?_⟩
    rw [Binary64.toRat, hq] at hlt
    exact le_of_lt (hlt.trans_le hb.toRat.2)
  · exact hb.mono hle le_rfl

/-- Whatever is cut at zero and one lies between them, also what is not a number. -/
theorem between_clamp (x : Binary64) : Between 0 1 (atLeast 0 (atMost 1 x)) := by
  rw [atLeast]
  split
  · rename_i h0
    rw [atMost] at h0 ⊢
    split at h0
    · rename_i h1
      rw [if_pos h1]
      exact between_of_le (Binary64.le_of_lt h0) (Binary64.le_of_lt h1)
    · rename_i h1
      rw [if_neg h1]
      exact between_one.mono (by norm_num) le_rfl
  · exact between_zero.mono le_rfl (by norm_num)

/-- A number that is cut at an upper bound and rounded to an integer. -/
theorem gives_capped (lo cap : Nat) {hi : Rat} {bound x : Binary64} (hb : Between cap cap bound)
    (hx : Between lo hi x) (hle : lo ≤ cap) :
    Gives ((atMost bound x).nearestInt.mapError Fault.number) fun k => lo ≤ k ∧ k ≤ cap := by
  have hcut : Between lo cap (atMost bound x) := between_atMost hb hx (by exact_mod_cast hle)
  exact (gives_nearestInt hcut (by exact_mod_cast le_rfl) (by exact_mod_cast le_rfl)).mapError

/-! ## Quotients of counts -/

/-- A quotient of two integers stays between exact bounds. -/
theorem between_ofQuotient {part whole : Int} {lo hi : Rat} (hw : 0 < whole) (hlo : IsExact lo)
    (hhi : IsExact hi) (h1 : lo * whole ≤ part) (h2 : part ≤ hi * whole) :
    Between lo hi (ofQuotient part whole) := by
  have hw' : (0 : Rat) < whole := by exact_mod_cast hw
  refine between_ofRat hlo hhi ?_ ?_ false
  · rwa [le_div_iff₀ hw']
  · rwa [div_le_iff₀ hw']

theorem divide_eq {part whole : Int} {lo hi : Rat} (hw : 0 < whole)
    (h : Between lo hi (ofQuotient part whole)) :
    (Quantity.integer part).divide (.integer whole) = .ok (ofQuotient part whole) := by
  obtain ⟨negative, rank, rank_lt, he⟩ := h.eq_finite
  rw [Quantity.divide, if_neg (by omega)]
  rw [he]

theorem gives_divide {part whole : Int} {lo hi : Rat} (hw : 0 < whole) (hlo : IsExact lo)
    (hhi : IsExact hi) (h1 : lo * whole ≤ part) (h2 : part ≤ hi * whole) :
    Gives ((Quantity.integer part).divide (.integer whole)) (Between lo hi) := by
  have h := between_ofQuotient hw hlo hhi h1 h2
  exact ⟨_, divide_eq hw h, h⟩

theorem gives_countQuotient {part whole : Int} {bound : Rat} (hp : 0 ≤ part) (hw : 0 < whole)
    (hb : IsExact bound) (hle : (part : Rat) ≤ bound * whole) :
    Gives (countQuotient part whole) (Between 0 bound) :=
  (gives_divide hw isExact_zero hb (by simpa using hp) hle).mapError

/-- The share that a part has in a whole. -/
theorem gives_share {part whole : Nat} (hw : 0 < whole) (hle : part ≤ whole) :
    Gives (countQuotient part whole) (Between 0 1) := by
  refine gives_countQuotient (by omega) (by omega) isExact_one ?_
  rw [one_mul]
  exact_mod_cast hle

/-! ## Percentages -/

theorem between_half : Between (1 / 2) (1 / 2) half := by
  have hx : IsExact (1 / 2) := by simpa using isExact_half (n := 1) (by decide)
  exact between_ofRat hx hx (by norm_num) (by norm_num) false

/-- One half is added exactly, and the sum is rounded. -/
theorem add_half_eq {lo hi : Rat} {x : Binary64} (h : Between lo hi x) :
    x + half = ofRat (x.toRat + 1 / 2) := by
  have hvalue : half.toRat = 1 / 2 := le_antisymm between_half.toRat.2 between_half.toRat.1
  have hsign : half.isNegative = false := by decide +kernel
  rw [add_eq h between_half, hvalue, hsign, Bool.and_false]

/-- A share of a positive count is divided, moved up by one half and cut down. -/
theorem percentageOfCounts_pos (part : Int) {whole : Int} (hw : 0 < whole) :
    percentageOfCounts part whole =
      (Quantity.integer (100 * part)).divide (.integer whole) >>= fun share =>
        (share + half).floor := by
  rw [percentageOfCounts, percentage, if_neg (by simpa [Quantity.notPositive] using hw)]
  rfl

theorem isExact_hundred : IsExact 100 := by
  exact_mod_cast isExact_count (by omega : 100 ≤ 1000)

theorem isExact_hundred_add_half : IsExact (100 + 1 / 2) := by
  have := isExact_half (n := 201) (by decide)
  norm_num at this ⊢
  exact this

theorem between_add_half {x : Binary64} (h : Between 0 100 x) :
    Between (0 + 1 / 2) (100 + 1 / 2) (x + half) :=
  h.add between_half (by simpa using isExact_half (n := 1) (by decide)) isExact_hundred_add_half

/-- One half is added before a share is cut down, so a percentage ends half a percent above 100. -/
theorem gives_floor_add_half {x : Binary64} (h : Between 0 100 x) :
    Gives (x + half).floor fun p => 0 ≤ p ∧ p ≤ 100 :=
  gives_floor (between_add_half h) (by norm_num) (by norm_num)

/-- A part of a whole is a share of at most a hundred percent. -/
theorem between_share {part whole : Int} (hp : 0 ≤ part) (hle : part ≤ whole) (hw : 0 < whole) :
    Between 0 100 (ofQuotient (100 * part) whole) := by
  refine between_ofQuotient hw isExact_zero isExact_hundred ?_ ?_
  · rw [zero_mul]
    exact_mod_cast (by omega : 0 ≤ 100 * part)
  · exact_mod_cast (by omega : 100 * part ≤ 100 * whole)

/-- **The percentage of a part of a whole.** -/
theorem gives_countPercentage {part whole : Int} (hp : 0 ≤ part) (hle : part ≤ whole) :
    Gives (countPercentage part whole) fun p => 0 ≤ p ∧ p ≤ 100 := by
  refine Gives.mapError ?_
  rcases lt_or_ge 0 whole with hw | hw
  · have hshare := between_share hp hle hw
    rw [percentageOfCounts_pos part hw, divide_eq hw hshare]
    exact gives_floor_add_half hshare
  · rw [percentageOfCounts, percentage, if_pos (by simpa [Quantity.notPositive] using hw)]
    exact .ok (by omega)

/-! ## Percentages that are too large -/

/-- A half above the greatest magnitude is still rounded to it: it lies far from the middle. -/
theorem nearestRank_top : nearestRank (magnitude (rankEnd - 1) + 1 / 2) = rankEnd - 1 := by
  decide +kernel

/-- One half does not carry a finite number over the greatest magnitude. -/
theorem exists_add_half_eq (negative : Bool) (rank : Nat) (rank_lt : rank < rankEnd) :
    ∃ negative' rank' rank_lt',
      finite negative rank rank_lt + half = finite negative' rank' rank_lt' := by
  have hx : Between (finite negative rank rank_lt).toRat (finite negative rank rank_lt).toRat
      (finite negative rank rank_lt) := ⟨_, rfl, le_rfl, le_rfl⟩
  have hbound : |(finite negative rank rank_lt).toRat| ≤ magnitude (rankEnd - 1) := by
    have hle : magnitude rank ≤ magnitude (rankEnd - 1) :=
      strictMono_magnitude.monotone (by omega)
    rw [toRat_finite]
    cases negative
    · rwa [if_neg Bool.false_ne_true, abs_of_nonneg (magnitude_nonneg rank)]
    · rwa [if_pos rfl, abs_neg, abs_of_nonneg (magnitude_nonneg rank)]
  rw [add_half_eq hx, ofRat]
  generalize (finite negative rank rank_lt).toRat = q at hbound ⊢
  split
  · exact ⟨_, _, zero_lt_rankEnd, rfl⟩
  · rename_i hne
    have hle : |q + 1 / 2| ≤ magnitude (rankEnd - 1) + 1 / 2 :=
      (abs_add_le q (1 / 2)).trans (by rw [abs_of_pos (by norm_num : (0 : Rat) < 1 / 2)]; linarith)
    have habs : (q + 1 / 2).abs = |q + 1 / 2| := by
      rcases le_total 0 (q + 1 / 2) with h0 | h0
      · rw [Rat.abs_of_nonneg h0, abs_of_nonneg h0]
      · rw [Rat.abs_of_nonpos h0, abs_of_nonpos h0]
    have hrank : nearestRank (q + 1 / 2).abs < rankEnd := by
      have := nearestRank_mono (abs_pos.2 hne) hle
      rw [nearestRank_top, ← habs] at this
      have := zero_lt_rankEnd
      omega
    rw [dif_pos hrank]
    exact ⟨_, _, hrank, rfl⟩

/-- A percentage of counts fails in one way only, whatever the counts are. -/
theorem eq_of_countPercentage_eq_error {part whole : Int} {fault : Fault}
    (h : countPercentage part whole = .error fault) : fault = .number .quotientTooLarge := by
  rw [countPercentage, percentageOfCounts, percentage] at h
  split at h
  · cases h
  · rename_i hw
    have hw : whole ≠ 0 := by
      intro h0
      exact hw (by simp [Quantity.notPositive, h0])
    rw [Quantity.hundredfold, Quantity.divide, if_neg hw] at h
    cases hq : ofQuotient (100 * part) whole with
    | infinite negative =>
      rw [hq] at h
      cases h
      rfl
    | finite negative rank rank_lt =>
      obtain ⟨negative', rank', rank_lt', he⟩ := exists_add_half_eq negative rank rank_lt
      rw [hq] at h
      simp only [bind, Except.bind] at h
      rw [he] at h
      cases h
    | notANumber =>
      -- a rational is never rounded to what is not a number
      rw [ofQuotient, ofRat] at hq
      split at hq
      · cases hq
      · dsimp only at hq
        split at hq <;> cases hq

/-! ## Percentages of a share -/

theorem divide_real {x y : Binary64} {whole : Quantity} (h : whole.toReal = .ok y) :
    (Quantity.real x).divide whole = x.over y := by
  cases whole with
  | integer n =>
    rw [Quantity.divide, h]
    · rfl
    · intro n d hx
      cases hx
  | real z =>
    cases h
    rfl

/-- The percentage of a share that is computed already. -/
theorem gives_percentage_real {x : Binary64} (h : Between 0 1 x) :
    Gives (percentage (.real x) (.integer 1)) fun p => 0 ≤ p ∧ p ≤ 100 := by
  have hx : Between 0 100 (100 * x) := (h.scale 100 (by omega)).mono le_rfl (by norm_num)
  have hone : Between 1 1 (ofInt 1) := between_one
  have htoReal : (Quantity.integer 1).toReal = .ok (ofInt 1) := by
    obtain ⟨negative, rank, rank_lt, he⟩ := hone.eq_finite
    rw [Quantity.toReal, he]
  have hshare : Gives ((100 * x).over (ofInt 1)) (Between 0 100) := by
    refine gives_over (hone.isZero_eq_false one_pos) (hx.div hone one_pos isExact_hundred ?_)
    exact hx.toRat.2.trans (by linarith [hone.toRat.1])
  rw [percentage, if_neg (by decide), Quantity.hundredfold, divide_real htoReal]
  exact hshare.bind fun share hs => gives_floor_add_half hs

end Provenance

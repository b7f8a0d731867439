import Provenance.Proofs.Number.Percentage

/-!
# Proofs — Number — CountPercentage

Percentages of counts. Two roundings stand between a share and its percentage, and neither carries a
share over a half: counts of up to 45 digits have the percentage that is computed exactly
(`percentageOfCounts_eq`). Whatever the counts are, the larger of two shares has no smaller
percentage (`percentage_mono`).
-/

namespace Provenance

open Binary64

/-! ## Half a percent up -/

/-- The last binary place of numbers that have seven places in front of the point. -/
def lastPlace : Rat := (2 : Rat) ^ (-46 : Int)

theorem isExact_sub_half {n : Nat} (h : n ≤ 1000) : IsExact ((n : Rat) - 1 / 2) := by
  rcases Nat.eq_zero_or_pos n with rfl | hpos
  · simpa using (isExact_half (n := 1) (by decide)).neg
  · have hhalf := isExact_half (n := 2 * n - 1) ((by omega : 2 * n - 1 < 2000).trans (by decide))
    rw [Nat.cast_sub (by omega)] at hhalf
    push_cast at hhalf
    rwa [show (n : Rat) - 1 / 2 = (2 * n - 1) / 2 by ring]

/-- The number right below a count of halves has 53 digits, as long as it stays below 128. -/
theorem isExact_sub_lastPlace {n : Nat} (h : n < 256) (hpos : 0 < n) :
    IsExact ((n : Rat) / 2 - lastPlace) := by
  have hunit : 0 < Nat.pow 2 45 := by decide
  have hcount : n * Nat.pow 2 45 - 1 < 2 * blockSize := by
    have hmul : n * Nat.pow 2 45 < 256 * Nat.pow 2 45 := Nat.mul_lt_mul_of_pos_right h hunit
    have hend : 256 * Nat.pow 2 45 = 2 * blockSize := by decide
    omega
  have hexact := isExact_mul_zpow hcount (by omega : -1074 ≤ (-46 : Int)) (by omega)
  rw [Nat.cast_sub (Nat.mul_pos hpos hunit)] at hexact
  have hpow : ((Nat.pow 2 45 : Nat) : Rat) * (2 : Rat) ^ (-46 : Int) = 1 / 2 := by norm_num
  push_cast at hexact hpow
  rwa [sub_mul, one_mul, mul_assoc, hpow, ← div_eq_mul_one_div] at hexact

/-- A share that lies half a percent below `n` or above it, and does not reach half a percent above,
is told as `n` percent. -/
theorem gives_floor_of_near {n : Nat} (h : n ≤ 100) {x : Binary64}
    (hx : Between ((n : Rat) - 1 / 2) ((n : Rat) + 1 / 2 - lastPlace) x) :
    Gives (x + half).floor fun p => p = n := by
  have hlow : IsExact ((n : Rat) - 1 / 2 + 1 / 2) := by
    rw [sub_add_cancel]
    exact isExact_count (by omega)
  have hhigh : (n : Rat) + 1 / 2 - lastPlace + 1 / 2 = ((2 * n + 2 : Nat) : Rat) / 2 - lastPlace := by
    push_cast
    ring
  have hsum := hx.add between_half hlow
    (by rw [hhigh]; exact isExact_sub_lastPlace (by omega) (by omega))
  have hplace : (0 : Rat) < lastPlace := by
    rw [lastPlace]
    positivity
  refine (gives_floor (m := n) (n := n) hsum ?_ ?_).mono fun p hp => by omega
  · push_cast
    linarith
  · push_cast
    linarith

/-- **Percentages of counts are rounded half up.** The quotient is rounded to the nearest number,
and so is its sum with one half; the integer below is the exact one all the same, for all counts of
up to 45 digits. -/
theorem percentageOfCounts_eq {part whole : Int} (hp : 0 ≤ part) (hle : part ≤ whole)
    (hw : 0 < whole) (hbound : whole ≤ 2 ^ 45) :
    percentageOfCounts part whole = .ok ((200 * part + whole) / (2 * whole)) := by
  obtain ⟨n, hn⟩ : ∃ n : Nat, (200 * part + whole) / (2 * whole) = n :=
    Int.eq_ofNat_of_zero_le (Int.ediv_nonneg (by omega) (by omega))
  have hn100 : (n : Int) < 101 := hn ▸ Int.ediv_lt_of_lt_mul (by omega) (by omega)
  have hlow : n * (2 * whole) ≤ 200 * part + whole := hn ▸ Int.ediv_mul_le _ (by omega)
  have hhigh : 200 * part + whole < (n + 1) * (2 * whole) :=
    hn ▸ Int.lt_ediv_add_one_mul_self _ (by omega)
  -- integers that differ, differ by one, and that is what the last place of `whole` halves makes up
  have hplace : lastPlace * whole ≤ 1 / 2 := by
    have hbound' : (whole : Rat) ≤ (2 : Rat) ^ (45 : Int) := by exact_mod_cast hbound
    calc lastPlace * whole ≤ lastPlace * (2 : Rat) ^ (45 : Int) :=
          mul_le_mul_of_nonneg_left hbound' (by rw [lastPlace]; positivity)
      _ = 1 / 2 := by norm_num [lastPlace]
  have hlow' : ((n : Rat) - 1 / 2) * whole ≤ (100 * part : Int) := by
    have : (n : Rat) * (2 * whole) ≤ 200 * part + whole := by exact_mod_cast hlow
    push_cast
    linarith
  have hhigh' : ((100 * part : Int) : Rat) ≤ ((n : Rat) + 1 / 2 - lastPlace) * whole := by
    have : (200 * part + whole + 1 : Rat) ≤ (n + 1) * (2 * whole) := by
      exact_mod_cast Int.add_one_le_of_lt hhigh
    push_cast
    linarith
  have hexact : IsExact ((n : Rat) + 1 / 2 - lastPlace) := by
    have := isExact_sub_lastPlace (n := 2 * n + 1) (by omega) (by omega)
    push_cast at this
    rwa [show (n : Rat) + 1 / 2 = (2 * n + 1) / 2 by ring]
  obtain ⟨p, he, rfl⟩ : Gives (percentageOfCounts part whole) fun p => p = n := by
    rw [percentageOfCounts_pos part hw]
    exact (gives_divide hw (isExact_sub_half (by omega)) hexact hlow' hhigh').bind
      fun x hx => gives_floor_of_near (by omega) hx
  rw [he, hn]

/-- A part that is one two-hundredth of a line short of 99 and a half percent, of about as many
lines as 45 digits can count, and an eighth, which is exactly a number of percents and a half. -/
theorem short_of_half_percent :
    0 ≤ (35008450228355 : Int) ∧ (35008450228355 : Int) ≤ 35184372088799 ∧
      (35184372088799 : Int) ≤ 2 ^ 45 ∧
      percentageOfCounts 35008450228355 35184372088799 = .ok 99 ∧
      percentageOfCounts 1 8 = .ok 13 := by
  refine ⟨by decide, by decide, by norm_num, ?_, ?_⟩
  · exact percentageOfCounts_eq (by decide) (by decide) (by decide) (by norm_num)
  · exact percentageOfCounts_eq (by decide) (by decide) (by decide) (by norm_num)

/-! ## Order of shares -/

theorem Binary64.toRat_ofRat {q : Rat} (hq : 0 < q) (hr : nearestRank q < rankEnd) :
    (ofRat q).toRat = magnitude (nearestRank q) := by
  have habs : q.abs = q := Rat.abs_of_nonneg hq.le
  rw [ofRat, if_neg hq.ne']
  dsimp only
  rw [habs, dif_pos hr, toRat_finite, if_neg (by simpa using hq.le)]

/-- Rounding keeps the order of rationals that are not negative. -/
theorem Binary64.toRat_ofRat_mono {q r bound : Rat} (h0 : 0 ≤ q) (h : q ≤ r) (hb : IsExact bound)
    (hr : r ≤ bound) : (ofRat q).toRat ≤ (ofRat r).toRat := by
  rcases h0.eq_or_lt with rfl | hpos
  · have hzero := (between_signedZero le_rfl le_rfl false).toRat.2
    rw [ofRat, if_pos rfl]
    exact hzero.trans (between_ofRat isExact_zero hb h hr false).toRat.1
  · have hpos' : 0 < r := hpos.trans_le h
    have hrank : nearestRank r < rankEnd := (nearestRank_between hpos' isExact_zero hb hpos'.le hr).1
    have hle := nearestRank_mono hpos h
    rw [toRat_ofRat hpos (hle.trans_lt hrank), toRat_ofRat hpos' hrank]
    exact strictMono_magnitude.monotone hle

/-- The percentage of a share, rounding by rounding. -/
theorem percentageOfCounts_rounded {part whole : Int} (hp : 0 ≤ part) (hle : part ≤ whole)
    (hw : 0 < whole) :
    percentageOfCounts part whole =
      .ok (ofRat ((ofQuotient (100 * part) whole).toRat + 1 / 2)).toRat.floor := by
  have hshare := between_share hp hle hw
  rw [percentageOfCounts_pos part hw, divide_eq hw hshare]
  show (ofQuotient (100 * part) whole + half).floor = _
  rw [(between_add_half hshare).floor_eq, add_half_eq hshare]

/-- **The larger share has the larger percentage**, or the same. -/
theorem percentage_mono {part whole part' whole' p p' : Int} (hp : 0 ≤ part) (hle : part ≤ whole)
    (hw : 0 < whole) (hp' : 0 ≤ part') (hle' : part' ≤ whole') (hw' : 0 < whole')
    (hshare : part * whole' ≤ part' * whole) (he : countPercentage part whole = .ok p)
    (he' : countPercentage part' whole' = .ok p') : p ≤ p' := by
  rw [countPercentage, percentageOfCounts_rounded hp hle hw] at he
  rw [countPercentage, percentageOfCounts_rounded hp' hle' hw'] at he'
  cases he
  cases he'
  have hbound := (between_share hp hle hw).toRat
  have hbound' := (between_share hp' hle' hw').toRat
  have hquotient :
      (ofQuotient (100 * part) whole).toRat ≤ (ofQuotient (100 * part') whole').toRat := by
    have hwr : (0 : Rat) < whole := by exact_mod_cast hw
    have hwr' : (0 : Rat) < whole' := by exact_mod_cast hw'
    refine toRat_ofRat_mono ?_ ?_ isExact_hundred ?_
    · have : (0 : Rat) ≤ (100 * part : Int) := by exact_mod_cast (by omega : 0 ≤ 100 * part)
      exact div_nonneg this hwr.le
    · rw [div_le_div_iff₀ hwr hwr']
      exact_mod_cast (by linarith : 100 * part * whole' ≤ 100 * part' * whole)
    · rw [div_le_iff₀ hwr']
      exact_mod_cast (by omega : 100 * part' ≤ 100 * whole')
  refine Rat.floor_monotone (toRat_ofRat_mono ?_ ?_ isExact_hundred_add_half ?_)
  · linarith
  · linarith
  · linarith

end Provenance

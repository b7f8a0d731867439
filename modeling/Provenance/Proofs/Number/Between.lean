import Provenance.Proofs.Checked
import Provenance.Proofs.Number.Rounding

/-!
# Proofs — Number — Between

Binary64 numbers between two rationals. A result that lies between two exact values before it is
rounded lies between them afterwards (`between_ofRat`), so bounds of sums, products and quotients
are computed on the bounds of their operands, as long as the bounds are exact themselves.
-/

namespace Provenance.Binary64

/-! ## Exact values -/

/-- A rational that is the value of a finite number. -/
def IsExact (q : Rat) : Prop := ∃ rank < rankEnd, |q| = magnitude rank

theorem IsExact.neg {q : Rat} (h : IsExact q) : IsExact (-q) := by
  obtain ⟨rank, hr, hm⟩ := h
  exact ⟨rank, hr, by rw [abs_neg, hm]⟩

theorem isExact_zero : IsExact 0 := ⟨0, zero_lt_rankEnd, by rw [magnitude_zero, abs_zero]⟩

/-- The spacing of a number of 53 digits is not wider than its last digit. -/
theorem spacing_le {q : Rat} (hq : 0 < q) {e : Int} (he : -1074 ≤ e)
    (h : q < (2 : Rat) ^ (e + 53)) : spacing q ≤ e := by
  rcases (isSpacing_spacing hq).above with hs | hs
  · omega
  · have := (zpow_lt_zpow_iff_right₀ (by norm_num : (1 : Rat) < 2)).1 (hs.trans_lt h)
    omega

/-- A number of 53 digits that does not reach beyond them is exact. -/
theorem isExact_mul_zpow {count : Nat} {e : Int} (hc : count < 2 * blockSize) (he : -1074 ≤ e)
    (he' : e ≤ 0) : IsExact (count * (2 : Rat) ^ e) := by
  rcases Nat.eq_zero_or_pos count with rfl | hpos
  · simpa using isExact_zero
  have hq : (0 : Rat) < count * (2 : Rat) ^ e := by positivity
  have hlt : (count : Rat) * (2 : Rat) ^ e < (2 : Rat) ^ (e + 53) := by
    calc (count : Rat) * (2 : Rat) ^ e < (2 * blockSize : Nat) * (2 : Rat) ^ e := by
          refine mul_lt_mul_of_pos_right ?_ (by positivity)
          exact_mod_cast hc
      _ = (2 : Rat) ^ (e + 53) := by
          push_cast
          rw [blockSize_eq, ← zpow_one_add₀ (by norm_num), ← zpow_add₀ (by norm_num)]
          congr 1
          ring
  obtain ⟨k, hk⟩ := exists_count_of_le (spacing_le hq he hlt) count
  have hcount : nearestCount (count * (2 : Rat) ^ e) = k := by
    have h := nearestCount_cast hq
    rw [show (count : Rat) * (2 : Rat) ^ e / (2 : Rat) ^ spacing (count * (2 : Rat) ^ e) =
        ((k : Int) : Rat) by
      rw [div_eq_iff (by positivity)]
      exact_mod_cast hk, nearestEven_intCast] at h
    exact_mod_cast h
  refine ⟨nearestRank (count * (2 : Rat) ^ e), ?_, ?_⟩
  · -- everything of 53 digits lies below the first number of the next spacing
    have hedge : magnitude (rankOf 1 blockSize) = (2 : Rat) ^ (53 : Int) := by
      rw [magnitude_rankOf (by omega) (by omega) (.inr le_rfl), blockSize_eq,
        ← zpow_add₀ (by norm_num)]
      congr 1
    have hle : (count : Rat) * (2 : Rat) ^ e ≤ magnitude (rankOf 1 blockSize) := by
      rw [hedge]
      exact hlt.le.trans (zpow_le_zpow_right₀ (by norm_num) (by omega))
    exact (nearestRank_le hq hle).trans_lt (by decide)
  · rw [magnitude_nearestRank hq, hcount, ← hk, abs_of_pos hq]

theorem isExact_natCast {n : Nat} (h : n < 2 * blockSize) : IsExact n := by
  simpa using isExact_mul_zpow h (by omega : -1074 ≤ (0 : Int)) le_rfl

theorem isExact_one : IsExact 1 := by
  simpa using isExact_natCast (n := 1) (by decide)

theorem isExact_half {n : Nat} (h : n < 2 * blockSize) : IsExact (n / 2) := by
  have := isExact_mul_zpow h (by omega : -1074 ≤ (-1 : Int)) (by omega)
  rwa [zpow_neg_one, ← div_eq_mul_inv] at this

/-! ## Finite numbers between bounds -/

/-- A finite number whose value lies between two rationals. -/
def Between (lo hi : Rat) (x : Binary64) : Prop := ∃ q, x.toRat? = some q ∧ lo ≤ q ∧ q ≤ hi

theorem Between.mono {lo hi lo' hi' : Rat} {x : Binary64} (h : Between lo hi x) (hl : lo' ≤ lo)
    (hh : hi ≤ hi') : Between lo' hi' x := by
  obtain ⟨q, hq, h1, h2⟩ := h
  exact ⟨q, hq, hl.trans h1, h2.trans hh⟩

theorem Between.toRat {lo hi : Rat} {x : Binary64} (h : Between lo hi x) :
    lo ≤ x.toRat ∧ x.toRat ≤ hi := by
  obtain ⟨q, hq, h1, h2⟩ := h
  rw [Binary64.toRat, hq]
  exact ⟨h1, h2⟩

/-- A number between bounds is finite. -/
theorem Between.eq_finite {lo hi : Rat} {x : Binary64} (h : Between lo hi x) :
    ∃ negative rank rank_lt, x = .finite negative rank rank_lt := by
  obtain ⟨q, hq, _⟩ := h
  cases x with
  | finite negative rank rank_lt => exact ⟨negative, rank, rank_lt, rfl⟩
  | infinite negative => simp [toRat?] at hq
  | notANumber => simp [toRat?] at hq

theorem between_signedZero {lo hi : Rat} (hl : lo ≤ 0) (hh : 0 ≤ hi) (negative : Bool) :
    Between lo hi (signedZero negative) := by
  refine ⟨0, ?_, hl, hh⟩
  cases negative <;> simp [signedZero, toRat?, magnitude_zero]

/-- The positive part of `between_ofRat`: the rank of a positive rational between two bounds. -/
theorem nearestRank_between {lo hi q : Rat} (hq : 0 < q) (hlo : IsExact lo) (hhi : IsExact hi)
    (h1 : lo ≤ q) (h2 : q ≤ hi) : nearestRank q < rankEnd ∧ lo ≤ magnitude (nearestRank q) ∧
      magnitude (nearestRank q) ≤ hi := by
  obtain ⟨top, htop, hmt⟩ := hhi
  rw [abs_of_pos (hq.trans_le h2)] at hmt
  have hle : nearestRank q ≤ top := nearestRank_le hq (hmt ▸ h2)
  refine ⟨hle.trans_lt htop, ?_, ?_⟩
  · rcases le_or_gt lo 0 with hneg | hpos
    · exact hneg.trans (magnitude_nonneg _)
    · obtain ⟨bottom, _, hmb⟩ := hlo
      rw [abs_of_pos hpos] at hmb
      rw [hmb]
      exact strictMono_magnitude.monotone (le_nearestRank hq (hmb ▸ h1))
  · rw [hmt]
    exact strictMono_magnitude.monotone hle

/-- **Rounding stays between exact bounds.** -/
theorem between_ofRat {lo hi q : Rat} (hlo : IsExact lo) (hhi : IsExact hi) (h1 : lo ≤ q)
    (h2 : q ≤ hi) (negativeZero : Bool) : Between lo hi (ofRat q negativeZero) := by
  rw [ofRat]
  split
  · rename_i h
    subst h
    exact between_signedZero h1 h2 negativeZero
  · rename_i h
    rcases lt_or_gt_of_ne h with hneg | hpos
    · -- below zero the bounds change places
      have habs : q.abs = -q := Rat.abs_of_nonpos hneg.le
      obtain ⟨hr, hl, hu⟩ := nearestRank_between (neg_pos.2 hneg) hhi.neg hlo.neg
        (neg_le_neg h2) (neg_le_neg h1)
      rw [habs, dif_pos hr]
      refine ⟨-magnitude (nearestRank (-q)), ?_, by linarith, by linarith⟩
      simp [toRat?, hneg]
    · have habs : q.abs = q := Rat.abs_of_nonneg hpos.le
      obtain ⟨hr, hl, hu⟩ := nearestRank_between hpos hlo hhi h1 h2
      rw [habs, dif_pos hr]
      refine ⟨magnitude (nearestRank q), ?_, hl, hu⟩
      simp [toRat?, not_lt.2 hpos.le]

/-- Positive rationals of one nearest rank are rounded to one number. -/
theorem ofRat_congr {q r : Rat} (hq : 0 < q) (hr : 0 < r) (h : nearestRank q = nearestRank r)
    (negativeZero : Bool) : ofRat q negativeZero = ofRat r negativeZero := by
  have habs : ∀ p : Rat, 0 < p → p.abs = p := fun p hp => Rat.abs_of_nonneg hp.le
  simp only [ofRat, habs q hq, habs r hr, hq.ne', hr.ne', not_lt.2 hq.le, not_lt.2 hr.le, h]

/-! ## Order -/

/-- The value of a finite number. -/
theorem toRat_finite (negative : Bool) (rank : Nat) (rank_lt : rank < rankEnd) :
    (finite negative rank rank_lt).toRat = if negative then -magnitude rank else magnitude rank :=
  rfl

/-- The place of a finite number orders it as its value does. -/
theorem place_lt_iff {negative negative' : Bool} {rank rank' : Nat} :
    (if negative then -(rank : Int) else rank) < (if negative' then -(rank' : Int) else rank') ↔
      (if negative then -magnitude rank else magnitude rank) <
        (if negative' then -magnitude rank' else magnitude rank') := by
  have hr := magnitude_nonneg rank
  have hr' := magnitude_nonneg rank'
  have hz : ∀ n, magnitude n ≤ 0 ↔ n = 0 := fun n => by
    rw [← magnitude_zero, strictMono_magnitude.le_iff_le, Nat.le_zero]
  cases negative <;> cases negative'
  · simp only [Bool.false_eq_true, if_false, strictMono_magnitude.lt_iff_lt, Int.ofNat_lt]
  · simp only [Bool.false_eq_true, if_false, if_true]
    constructor <;> intro h <;> exfalso
    · omega
    · linarith
  · simp only [Bool.false_eq_true, if_false, if_true]
    -- the sign alone decides, unless both are zero
    by_cases hb : rank = 0 ∧ rank' = 0
    · obtain ⟨rfl, rfl⟩ := hb
      simp [magnitude_zero]
    · refine iff_of_true (by omega) ?_
      by_contra hge
      have h := (hz rank).1 (by linarith)
      have h' := (hz rank').1 (by linarith)
      exact hb ⟨h, h'⟩
  · simp only [if_true, neg_lt_neg_iff, strictMono_magnitude.lt_iff_lt]
    omega

/-- The order of finite numbers is the order of their values. -/
theorem lt_iff {lo hi lo' hi' : Rat} {x y : Binary64} (hx : Between lo hi x)
    (hy : Between lo' hi' y) : x < y ↔ x.toRat < y.toRat := by
  obtain ⟨negative, rank, rank_lt, rfl⟩ := hx.eq_finite
  obtain ⟨negative', rank', rank_lt', rfl⟩ := hy.eq_finite
  rw [toRat_finite, toRat_finite, ← place_lt_iff]
  exact decide_eq_true_iff

theorem le_iff {lo hi lo' hi' : Rat} {x y : Binary64} (hx : Between lo hi x)
    (hy : Between lo' hi' y) : x ≤ y ↔ x.toRat ≤ y.toRat := by
  obtain ⟨negative, rank, rank_lt, rfl⟩ := hx.eq_finite
  obtain ⟨negative', rank', rank_lt', rfl⟩ := hy.eq_finite
  rw [toRat_finite, toRat_finite, ← not_lt, ← place_lt_iff, not_lt]
  exact decide_eq_true_iff

theorem le_of_lt {x y : Binary64} (h : x < y) : x ≤ y := by
  have h : x.lt y = true := h
  show x.le y = true
  rw [lt] at h
  rw [le]
  split at h
  · simp only [decide_eq_true_eq] at h ⊢
    omega
  · simp at h

/-! ## Literals -/

theorem between_ofInt {n : Nat} (h : n < 2 * blockSize) : Between n n (ofInt n) := by
  have hx := isExact_natCast h
  have := between_ofRat hx hx le_rfl le_rfl false
  rwa [← Int.cast_natCast (R := Rat) n] at this

/-- The literals of this library have far fewer than 53 digits. -/
theorem isExact_count {n : Nat} (h : n ≤ 1000) : IsExact n :=
  isExact_natCast (h.trans_lt (by decide))

theorem between_count (n : Nat) (h : n ≤ 1000) : Between n n (OfNat.ofNat n : Binary64) :=
  between_ofInt (h.trans_lt (by decide))

theorem between_zero : Between 0 0 (0 : Binary64) := by
  simpa using between_count 0 (by omega)

theorem between_one : Between 1 1 (1 : Binary64) := by
  simpa using between_count 1 (by omega)

/-- What is not below zero and not above one is finite. -/
theorem between_of_le {x : Binary64} (h0 : 0 ≤ x) (h1 : x ≤ 1) : Between 0 1 x := by
  cases x with
  | finite negative rank rank_lt =>
    have hx : Between (finite negative rank rank_lt).toRat (finite negative rank rank_lt).toRat
        (finite negative rank rank_lt) := ⟨_, rfl, le_rfl, le_rfl⟩
    rw [le_iff between_zero hx] at h0
    rw [le_iff hx between_one] at h1
    exact hx.mono (between_zero.toRat.1.trans h0) (h1.trans between_one.toRat.2)
  | infinite negative =>
    exfalso
    obtain ⟨n0, r0, hr0, e0⟩ := between_zero.eq_finite
    obtain ⟨n1, r1, hr1, e1⟩ := between_one.eq_finite
    rw [e0] at h0
    rw [e1] at h1
    have h0 := of_decide_eq_true h0
    have h1 := of_decide_eq_true h1
    split_ifs at h0 h1 <;> omega
  | notANumber => exact absurd h1 (by decide)

/-! ## Arithmetic on bounds -/

theorem Between.neg {lo hi : Rat} {x : Binary64} (h : Between lo hi x) :
    Between (-hi) (-lo) (-x) := by
  obtain ⟨negative, rank, rank_lt, rfl⟩ := h.eq_finite
  obtain ⟨q, hq, h1, h2⟩ := h
  refine ⟨-q, ?_, neg_le_neg h2, neg_le_neg h1⟩
  have hq : (if negative then -magnitude rank else magnitude rank) = q := Option.some.inj hq
  show some (if !negative then -magnitude rank else magnitude rank) = some (-q)
  rw [← hq]
  cases negative
  · rfl
  · exact congrArg some (neg_neg _).symm

theorem toRat_neg {lo hi : Rat} {x : Binary64} (h : Between lo hi x) : (-x).toRat = -x.toRat := by
  obtain ⟨negative, rank, rank_lt, rfl⟩ := h.eq_finite
  show (if !negative then -magnitude rank else magnitude rank) =
    -(if negative then -magnitude rank else magnitude rank)
  cases negative
  · rfl
  · exact (neg_neg _).symm

/-- The sum of finite numbers is the exact sum, rounded. -/
theorem add_eq {lo hi lo' hi' : Rat} {x y : Binary64} (hx : Between lo hi x)
    (hy : Between lo' hi' y) :
    x + y = ofRat (x.toRat + y.toRat) (x.isNegative && y.isNegative) := by
  obtain ⟨negative, rank, rank_lt, rfl⟩ := hx.eq_finite
  obtain ⟨negative', rank', rank_lt', rfl⟩ := hy.eq_finite
  rfl

theorem Between.add {lo hi lo' hi' : Rat} {x y : Binary64} (hx : Between lo hi x)
    (hy : Between lo' hi' y) (hl : IsExact (lo + lo')) (hh : IsExact (hi + hi')) :
    Between (lo + lo') (hi + hi') (x + y) := by
  rw [add_eq hx hy]
  exact between_ofRat hl hh (add_le_add hx.toRat.1 hy.toRat.1) (add_le_add hx.toRat.2 hy.toRat.2) _

theorem Between.sub {lo hi lo' hi' : Rat} {x y : Binary64} (hx : Between lo hi x)
    (hy : Between lo' hi' y) (hl : IsExact (lo - hi')) (hh : IsExact (hi - lo')) :
    Between (lo - hi') (hi - lo') (x - y) := by
  simp only [sub_eq_add_neg] at hl hh ⊢
  exact hx.add hy.neg hl hh

/-- The product of finite numbers is the exact product, rounded. -/
theorem mul_eq {lo hi lo' hi' : Rat} {x y : Binary64} (hx : Between lo hi x)
    (hy : Between lo' hi' y) :
    x * y = ofRat (x.toRat * y.toRat) (x.isNegative != y.isNegative) := by
  obtain ⟨negative, rank, rank_lt, rfl⟩ := hx.eq_finite
  obtain ⟨negative', rank', rank_lt', rfl⟩ := hy.eq_finite
  rfl

/-- A product of numbers that are not below zero. -/
theorem Between.mul {hi hi' : Rat} {x y : Binary64} (hx : Between 0 hi x) (hy : Between 0 hi' y)
    (hh : IsExact (hi * hi')) : Between 0 (hi * hi') (x * y) := by
  rw [mul_eq hx hy]
  refine between_ofRat isExact_zero hh (mul_nonneg hx.toRat.1 hy.toRat.1) ?_ _
  exact mul_le_mul hx.toRat.2 hy.toRat.2 hy.toRat.1 (hx.toRat.1.trans hx.toRat.2)

/-- A share that a count is scaled by. -/
theorem Between.scale {x : Binary64} (hx : Between 0 1 x) (n : Nat) (h : n ≤ 1000) :
    Between 0 n (OfNat.ofNat n * x) := by
  have hn := (between_count n h).mono (Nat.cast_nonneg n) le_rfl
  have := hn.mul hx (by simpa using isExact_count h)
  rwa [mul_one] at this

/-- A number between counts that is raised by what is not below zero. -/
theorem Between.raise {lo hi hi' : Nat} {x y : Binary64} (hx : Between lo hi x)
    (hy : Between 0 hi' y) (h : hi + hi' ≤ 1000) : Between lo (hi + hi' : Nat) (x + y) := by
  have hle : lo ≤ hi := by exact_mod_cast hx.toRat.1.trans hx.toRat.2
  have := hx.add hy (by simpa using isExact_count (by omega)) (by exact_mod_cast isExact_count h)
  rw [add_zero] at this
  exact_mod_cast this

/-! ## Quotients -/

/-- A divisor of at least some positive bound is not zero. -/
theorem Between.isZero_eq_false {lo hi : Rat} {x : Binary64} (h : Between lo hi x) (hl : 0 < lo) :
    x.isZero = false := by
  obtain ⟨negative, rank, rank_lt, rfl⟩ := h.eq_finite
  obtain ⟨q, hq, h1, _⟩ := h
  have hq : (if negative then -magnitude rank else magnitude rank) = q := Option.some.inj hq
  show (rank == 0) = false
  rw [beq_eq_false_iff_ne]
  rintro rfl
  rw [magnitude_zero, neg_zero, ite_self] at hq
  linarith

/-- The quotient of finite numbers is the exact quotient, rounded. -/
theorem div_eq {lo hi lo' hi' : Rat} {x y : Binary64} (hx : Between lo hi x)
    (hy : Between lo' hi' y) (hz : y.isZero = false) :
    x / y = ofRat (x.toRat / y.toRat) (x.isNegative != y.isNegative) := by
  obtain ⟨negative, rank, rank_lt, rfl⟩ := hx.eq_finite
  obtain ⟨negative', rank', rank_lt', rfl⟩ := hy.eq_finite
  show (if _ then _ else _) = _
  rw [if_neg (by simp [hz])]

/-- A quotient of a number that is not below zero and a positive one. -/
theorem Between.div {hi lo' hi' bound : Rat} {x y : Binary64} (hx : Between 0 hi x)
    (hy : Between lo' hi' y) (hl : 0 < lo') (hb : IsExact bound) (hle : x.toRat ≤ bound * y.toRat) :
    Between 0 bound (x / y) := by
  have hpos : 0 < y.toRat := hl.trans_le hy.toRat.1
  rw [div_eq hx hy (hy.isZero_eq_false hl)]
  refine between_ofRat isExact_zero hb (div_nonneg hx.toRat.1 hpos.le) ?_ _
  rwa [div_le_iff₀ hpos]

theorem gives_over {x y : Binary64} {P : Binary64 → Prop} (hz : y.isZero = false)
    (h : P (x / y)) : Gives (x.over y) P := by
  rw [Binary64.over, if_neg (by simp [hz])]
  exact .ok h

end Provenance.Binary64

import Provenance.Number.Binary64
import Mathlib.Algebra.Order.Field.Power
import Mathlib.Tactic.Linarith
import Mathlib.Tactic.NormNum
import Mathlib.Tactic.Positivity
import Mathlib.Tactic.Ring

/-!
# Proofs — Number — Rounding

Rounding respects order: `nearestRank` neither overtakes a magnitude (`nearestRank_le`) nor falls
behind one (`le_nearestRank`), it keeps the order of rationals (`nearestRank_mono`), and it leaves
magnitudes as they are. What is said of sums, products and quotients of binary64 numbers rests on
these bounds.
-/

namespace Provenance

/-! ## Nearest integers -/

/-- The nearest integer is the one below, or the one above from the middle on. -/
theorem nearestEven_cases (q : Rat) :
    nearestEven q = q.floor ∧ q - q.floor ≤ 1 / 2 ∨
      nearestEven q = q.floor + 1 ∧ 1 / 2 ≤ q - q.floor := by
  simp only [nearestEven]
  split
  · rename_i h
    exact .inl ⟨rfl, le_of_lt h⟩
  · rename_i h
    split
    · rename_i h'
      exact .inr ⟨rfl, le_of_lt h'⟩
    · rename_i h'
      split
      · exact .inl ⟨rfl, not_lt.1 h'⟩
      · exact .inr ⟨rfl, not_lt.1 h⟩

/-- A greater rational has no smaller nearest integer. -/
theorem nearestEven_mono {q r : Rat} (h : q ≤ r) : nearestEven q ≤ nearestEven r := by
  have hf := Rat.floor_monotone h
  by_contra hlt
  -- only two rationals with one integer below them are left, and they lie in the middle
  rcases nearestEven_cases q with ⟨hq, _⟩ | ⟨hq, hqm⟩
  · rcases nearestEven_cases r with ⟨hr, _⟩ | ⟨hr, _⟩ <;> omega
  · rcases nearestEven_cases r with ⟨hr, hrm⟩ | ⟨hr, _⟩
    · have he : q.floor = r.floor := by omega
      rw [he] at hqm
      have : q = r := by linarith
      exact hlt (by rw [this])
    · omega

theorem nearestEven_intCast (n : Int) : nearestEven n = n := by
  rcases nearestEven_cases n with ⟨h, _⟩ | ⟨_, h⟩
  · rw [h, Rat.floor_intCast]
  · rw [Rat.floor_intCast, sub_self] at h
    norm_num at h

theorem nearestEven_le {q : Rat} {n : Int} (h : q ≤ n) : nearestEven q ≤ n := by
  rw [← nearestEven_intCast n]
  exact nearestEven_mono h

theorem le_nearestEven {q : Rat} {n : Int} (h : n ≤ q) : n ≤ nearestEven q := by
  rw [← nearestEven_intCast n]
  exact nearestEven_mono h

namespace Binary64

/-! ## Spacing -/

/-- `e` is the exponent of the spacing around `q`: counted in that spacing, `q` has 53 binary
digits, or fewer where no finer spacing is left. -/
structure IsSpacing (q : Rat) (e : Int) : Prop where
  least : -1074 ≤ e
  below : q < (2 : Rat) ^ (e + 53)
  above : e = -1074 ∨ (2 : Rat) ^ (e + 52) ≤ q

/-- The binary logarithms of numerator and denominator enclose a rational. -/
theorem log2_bounds {q : Rat} (hq : 0 < q) :
    (2 : Rat) ^ ((q.num.natAbs.log2 : Int) - q.den.log2 - 1) < q ∧
      q < (2 : Rat) ^ ((q.num.natAbs.log2 : Int) - q.den.log2 + 1) := by
  have hnum : 0 < q.num := Rat.num_pos.2 hq
  have hn : q.num.natAbs ≠ 0 := by omega
  have hd : q.den ≠ 0 := q.den_nz
  have hq' : q = (q.num.natAbs : Rat) / q.den := by
    conv_lhs => rw [← Rat.num_div_den q]
    rw [← Int.cast_natCast (R := Rat) q.num.natAbs, Int.natAbs_of_nonneg hnum.le]
  have hdp : (0 : Rat) < q.den := by exact_mod_cast Nat.pos_of_ne_zero hd
  have two : (2 : Rat) ≠ 0 := by norm_num
  -- numerator and denominator each lie between two powers of two
  have n1 : (2 : Rat) ^ (q.num.natAbs.log2 : Int) ≤ q.num.natAbs := by
    rw [zpow_natCast]
    exact_mod_cast Nat.log2_self_le hn
  have n2 : (q.num.natAbs : Rat) < 2 ^ ((q.num.natAbs.log2 : Int) + 1) := by
    rw [← Nat.cast_one, ← Nat.cast_add, zpow_natCast]
    exact_mod_cast Nat.lt_log2_self
  have d1 : (2 : Rat) ^ (q.den.log2 : Int) ≤ q.den := by
    rw [zpow_natCast]
    exact_mod_cast Nat.log2_self_le hd
  have d2 : (q.den : Rat) < 2 ^ ((q.den.log2 : Int) + 1) := by
    rw [← Nat.cast_one, ← Nat.cast_add, zpow_natCast]
    exact_mod_cast Nat.lt_log2_self
  generalize (q.num.natAbs.log2 : Int) = a at *
  generalize (q.den.log2 : Int) = b at *
  constructor
  · rw [hq', lt_div_iff₀ hdp]
    calc (2 : Rat) ^ (a - b - 1) * q.den < 2 ^ (a - b - 1) * 2 ^ (b + 1) := by
          exact mul_lt_mul_of_pos_left d2 (by positivity)
      _ = 2 ^ a := by rw [← zpow_add₀ two]; congr 1; ring
      _ ≤ q.num.natAbs := n1
  · rw [hq', div_lt_iff₀ hdp]
    calc (q.num.natAbs : Rat) < 2 ^ (a + 1) := n2
      _ = 2 ^ (a - b + 1) * 2 ^ b := by rw [← zpow_add₀ two]; congr 1; ring
      _ ≤ 2 ^ (a - b + 1) * q.den := by
          exact mul_le_mul_of_nonneg_left d1 (by positivity)

/-- The spacing of a positive rational is what it is said to be. -/
theorem isSpacing_spacing {q : Rat} (hq : 0 < q) : IsSpacing q (spacing q) := by
  obtain ⟨hlo, hhi⟩ := log2_bounds hq
  simp only [spacing]
  generalize (q.num.natAbs.log2 : Int) = a at *
  generalize (q.den.log2 : Int) = b at *
  have key : ∀ e : Int, q < (2 : Rat) ^ (e + 53) → (2 : Rat) ^ (e + 52) ≤ q →
      IsSpacing q (max (-1074) e) := by
    intro e hb ha
    refine ⟨le_max_left _ _, lt_of_lt_of_le hb ?_, ?_⟩
    · exact zpow_le_zpow_right₀ (by norm_num) (by omega)
    · rcases le_total e (-1074) with h | h
      · exact .inl (max_eq_left h)
      · rw [max_eq_right h]
        exact .inr ha
  split
  · rename_i h
    refine key _ ?_ ?_
    · rwa [show a - b - 52 - 1 + 53 = a - b - 52 + 52 by ring]
    · rw [show a - b - 52 - 1 + 52 = a - b - 1 by ring]
      exact hlo.le
  · rename_i h
    refine key _ ?_ (not_lt.1 h)
    rw [show a - b - 52 + 53 = a - b + 1 by ring]
    exact hhi

/-! ## Magnitudes -/

theorem blockSize_eq : (blockSize : Rat) = (2 : Rat) ^ (52 : Int) := by
  norm_num [blockSize]

theorem blockSize_pos : 0 < blockSize := Nat.two_pow_pos 52

/-- The rank of a count of spacings: a count of 53 digits, or a shorter one of the least spacing, or
the first count that is too long. -/
def rankOf (e : Int) (count : Nat) : Nat := count + (e + 1074).toNat * blockSize

theorem magnitude_rankOf {e : Int} {count : Nat} (he : -1074 ≤ e) (hc : count ≤ 2 * blockSize)
    (hn : e = -1074 ∨ blockSize ≤ count) :
    magnitude (rankOf e count) = count * (2 : Rat) ^ e := by
  have hb := blockSize_pos
  rcases Nat.lt_or_ge count blockSize with hlt | hge
  · obtain rfl : e = -1074 := by omega
    rw [rankOf, show (-1074 + 1074 : Int).toNat = 0 by rfl, Nat.zero_mul, Nat.add_zero, magnitude,
      if_pos hlt]
  · obtain ⟨block, hblock⟩ : ∃ block : Nat, e = (block : Int) - 1074 :=
      ⟨(e + 1074).toNat, by omega⟩
    subst hblock
    have hrank : rankOf ((block : Int) - 1074) count = (count - blockSize) + (block + 1) * blockSize := by
      rw [rankOf, show ((block : Int) - 1074 + 1074).toNat = block by omega, Nat.add_mul]
      omega
    rw [hrank, magnitude, if_neg (by rw [Nat.add_mul]; omega)]
    rcases Nat.lt_or_ge count (2 * blockSize) with hlt | hge'
    · rw [Nat.add_mul_mod_self_right, Nat.mod_eq_of_lt (by omega), Nat.add_mul_div_right _ _ hb,
        Nat.div_eq_of_lt (by omega), show blockSize + (count - blockSize) = count by omega]
      congr 2
      omega
    · -- a count that is too long begins the next block
      obtain rfl : count = 2 * blockSize := by omega
      rw [show 2 * blockSize - blockSize + (block + 1) * blockSize = (block + 2) * blockSize by
          rw [Nat.add_mul, Nat.add_mul]; omega,
        Nat.mul_mod_left, Nat.mul_div_cancel _ hb, Nat.add_zero]
      push_cast
      rw [show ((block : Int) + 2 - 1075) = (block - 1074) + 1 by ring,
        zpow_add_one₀ (by norm_num)]
      ring

/-- Every rank has a count and a spacing. -/
theorem exists_rankOf (rank : Nat) : ∃ e count, -1074 ≤ e ∧ count < 2 * blockSize ∧
    (e = -1074 ∨ blockSize ≤ count) ∧ rankOf e count = rank := by
  have hb := blockSize_pos
  rcases Nat.lt_or_ge rank blockSize with hlt | hge
  · exact ⟨-1074, rank, by omega, by omega, .inl rfl, by simp [rankOf]⟩
  · have hdiv := Nat.div_add_mod rank blockSize
    have hmod := Nat.mod_lt rank hb
    have hone : 1 ≤ rank / blockSize := (Nat.one_le_div_iff hb).2 hge
    refine ⟨(rank / blockSize : Nat) - 1075, blockSize + rank % blockSize, by omega, by omega,
      .inr (by omega), ?_⟩
    rw [rankOf, show (((rank / blockSize : Nat) : Int) - 1075 + 1074).toNat = rank / blockSize - 1 by
      omega, Nat.sub_mul, Nat.one_mul]
    have := Nat.mul_comm blockSize (rank / blockSize)
    have : blockSize ≤ rank / blockSize * blockSize := Nat.le_mul_of_pos_left _ (by omega)
    omega

/-- A rank is the count of its magnitude in its spacing. -/
theorem exists_spacing_magnitude (rank : Nat) : ∃ e, ∃ count : Nat, -1074 ≤ e ∧
    count < 2 * blockSize ∧ (e = -1074 ∨ blockSize ≤ count) ∧ rankOf e count = rank ∧
    magnitude rank = count * (2 : Rat) ^ e := by
  obtain ⟨e, count, he, hc, hn, hr⟩ := exists_rankOf rank
  exact ⟨e, count, he, hc, hn, hr, by rw [← hr, magnitude_rankOf he hc.le hn]⟩

/-- Magnitudes are numbered in increasing order. -/
theorem strictMono_magnitude : StrictMono magnitude := by
  refine strictMono_nat_of_lt_succ fun rank => ?_
  obtain ⟨e, count, he, hc, hn, rfl⟩ := exists_rankOf rank
  have hsucc : rankOf e count + 1 = rankOf e (count + 1) := by
    rw [rankOf, rankOf]
    omega
  rw [hsucc, magnitude_rankOf he hc.le hn, magnitude_rankOf he (by omega) (by omega)]
  have : (0 : Rat) < 2 ^ e := by positivity
  push_cast
  linarith

theorem magnitude_zero : magnitude 0 = 0 := by
  rw [magnitude, if_pos blockSize_pos]
  norm_num

theorem magnitude_nonneg (rank : Nat) : 0 ≤ magnitude rank := by
  rw [← magnitude_zero]
  exact strictMono_magnitude.monotone (Nat.zero_le rank)

/-! ## The nearest rank -/

/-- A positive rational, counted in its spacing and rounded to an integer. -/
def nearestCount (q : Rat) : Nat := (nearestEven (q / (2 : Rat) ^ spacing q)).toNat

theorem nearestRank_eq (q : Rat) : nearestRank q = rankOf (spacing q) (nearestCount q) := rfl

theorem nearestCount_cast {q : Rat} (hq : 0 < q) :
    (nearestCount q : Int) = nearestEven (q / (2 : Rat) ^ spacing q) := by
  refine Int.toNat_of_nonneg (le_nearestEven ?_)
  push_cast
  positivity

theorem nearestCount_le {q : Rat} (hq : 0 < q) : nearestCount q ≤ 2 * blockSize := by
  have hs := isSpacing_spacing hq
  have h : nearestEven (q / (2 : Rat) ^ spacing q) ≤ (2 * blockSize : Nat) := by
    refine nearestEven_le ?_
    rw [div_le_iff₀ (by positivity)]
    push_cast
    rw [blockSize_eq, ← zpow_one_add₀ (by norm_num), ← zpow_add₀ (by norm_num)]
    refine le_of_lt (lt_of_lt_of_eq hs.below ?_)
    congr 1
    ring
  have := nearestCount_cast hq
  omega

/-- Counted in its own spacing, a rational has 53 digits or the spacing is the least. -/
theorem blockSize_le_nearestCount {q : Rat} (hq : 0 < q) :
    spacing q = -1074 ∨ blockSize ≤ nearestCount q := by
  refine (isSpacing_spacing hq).above.imp_right fun h => ?_
  have h : ((blockSize : Nat) : Int) ≤ nearestEven (q / (2 : Rat) ^ spacing q) := by
    refine le_nearestEven ?_
    rw [le_div_iff₀ (by positivity)]
    push_cast
    rw [blockSize_eq, ← zpow_add₀ (by norm_num), add_comm]
    exact h
  have := nearestCount_cast hq
  omega

theorem magnitude_nearestRank {q : Rat} (hq : 0 < q) :
    magnitude (nearestRank q) = nearestCount q * (2 : Rat) ^ spacing q := by
  rw [nearestRank_eq, magnitude_rankOf (isSpacing_spacing hq).least (nearestCount_le hq)
    (blockSize_le_nearestCount hq)]

/-- A count of a wide spacing is a count of every narrower one. -/
theorem exists_count_of_le {e e' : Int} (h : e ≤ e') (count : Nat) :
    ∃ k : Nat, (count : Rat) * (2 : Rat) ^ e' = k * (2 : Rat) ^ e := by
  obtain ⟨n, rfl⟩ : ∃ n : Nat, e' = e + n := ⟨(e' - e).toNat, by omega⟩
  refine ⟨count * 2 ^ n, ?_⟩
  rw [zpow_add₀ (by norm_num), zpow_natCast]
  push_cast
  ring

/-- A shorter spacing than that of a rational has no room for it: its longest counts end below. -/
theorem mul_zpow_lt {e e' : Int} {count : Nat} (h : e' < e) (hc : count < 2 * blockSize) :
    (count : Rat) * (2 : Rat) ^ e' < blockSize * (2 : Rat) ^ e := by
  calc (count : Rat) * (2 : Rat) ^ e' < (2 * blockSize : Nat) * (2 : Rat) ^ e' := by
        refine mul_lt_mul_of_pos_right ?_ (by positivity)
        exact_mod_cast hc
    _ = blockSize * (2 : Rat) ^ (e' + 1) := by
        rw [zpow_add_one₀ (by norm_num)]
        push_cast
        ring
    _ ≤ blockSize * (2 : Rat) ^ e := by
        refine mul_le_mul_of_nonneg_left ?_ (by positivity)
        exact zpow_le_zpow_right₀ (by norm_num) (by omega)

/-- **Rounding does not fall behind a magnitude.** -/
theorem le_nearestRank {q : Rat} (hq : 0 < q) {rank : Nat} (h : magnitude rank ≤ q) :
    rank ≤ nearestRank q := by
  obtain ⟨e, count, he, hc, hn, hr, hm⟩ := exists_spacing_magnitude rank
  rw [← strictMono_magnitude.le_iff_le, magnitude_nearestRank hq, hm]
  rcases lt_or_ge e (spacing q) with hlt | hge
  · -- a magnitude of a narrower spacing lies below all counts of 53 digits
    have hcount : blockSize ≤ nearestCount q := by
      rcases blockSize_le_nearestCount hq with h' | h'
      · omega
      · exact h'
    refine (mul_zpow_lt hlt hc).le.trans ?_
    refine mul_le_mul_of_nonneg_right ?_ (by positivity)
    exact_mod_cast hcount
  · -- any other is a count of the spacing of `q`, and counts are rounded in order
    obtain ⟨k, hk⟩ := exists_count_of_le hge count
    rw [hm, hk] at h
    rw [hk]
    refine mul_le_mul_of_nonneg_right ?_ (by positivity)
    have hle : (k : Int) ≤ nearestEven (q / (2 : Rat) ^ spacing q) := by
      refine le_nearestEven ?_
      rw [le_div_iff₀ (by positivity)]
      exact_mod_cast h
    rw [← nearestCount_cast hq] at hle
    exact_mod_cast hle

/-- **Rounding does not overtake a magnitude.** -/
theorem nearestRank_le {q : Rat} (hq : 0 < q) {rank : Nat} (h : q ≤ magnitude rank) :
    nearestRank q ≤ rank := by
  obtain ⟨e, count, he, hc, hn, hr, hm⟩ := exists_spacing_magnitude rank
  rw [← strictMono_magnitude.le_iff_le, magnitude_nearestRank hq, hm]
  rw [hm] at h
  rcases lt_or_ge e (spacing q) with hlt | hge
  · -- the magnitude would lie below everything of the spacing of `q`
    exfalso
    have habove : (2 : Rat) ^ (spacing q + 52) ≤ q :=
      (isSpacing_spacing hq).above.resolve_left (by omega)
    have hlow := mul_zpow_lt hlt hc
    rw [blockSize_eq, ← zpow_add₀ (by norm_num), add_comm] at hlow
    linarith
  · obtain ⟨k, hk⟩ := exists_count_of_le hge count
    rw [hk] at h ⊢
    refine mul_le_mul_of_nonneg_right ?_ (by positivity)
    have hle : nearestEven (q / (2 : Rat) ^ spacing q) ≤ (k : Int) := by
      refine nearestEven_le ?_
      rw [div_le_iff₀ (by positivity)]
      exact_mod_cast h
    rw [← nearestCount_cast hq] at hle
    exact_mod_cast hle

/-- **Rounding keeps order.** -/
theorem nearestRank_mono {q r : Rat} (hq : 0 < q) (h : q ≤ r) : nearestRank q ≤ nearestRank r := by
  have hr : 0 < r := lt_of_lt_of_le hq h
  have hsq := isSpacing_spacing hq
  have hsr := isSpacing_spacing hr
  rcases lt_trichotomy (spacing q) (spacing r) with hlt | heq | hgt
  · -- the first number of the wider spacing stands between the two
    have habove : (2 : Rat) ^ (spacing r + 52) ≤ r :=
      hsr.above.resolve_left (by have := hsq.least; omega)
    have hedge : magnitude (rankOf (spacing r) blockSize) = (2 : Rat) ^ (spacing r + 52) := by
      rw [magnitude_rankOf hsr.least (by omega) (.inr le_rfl), blockSize_eq,
        ← zpow_add₀ (by norm_num), add_comm]
    have hbelow : q ≤ (2 : Rat) ^ (spacing r + 52) := by
      refine hsq.below.le.trans ?_
      exact zpow_le_zpow_right₀ (by norm_num) (by omega)
    exact (nearestRank_le hq (hedge ▸ hbelow)).trans (le_nearestRank hr (hedge ▸ habove))
  · have hcount : nearestCount q ≤ nearestCount r := by
      rw [nearestCount, nearestCount, heq]
      refine Int.toNat_le_toNat (nearestEven_mono ?_)
      exact div_le_div_of_nonneg_right h (by positivity)
    rw [nearestRank_eq, nearestRank_eq, rankOf, rankOf, heq]
    omega
  · -- the spacing of the smaller rational is not the wider one
    exfalso
    have habove : (2 : Rat) ^ (spacing q + 52) ≤ q :=
      hsq.above.resolve_left (by have := hsr.least; omega)
    have hbelow : r < (2 : Rat) ^ (spacing q + 52) := by
      refine lt_of_lt_of_le hsr.below ?_
      exact zpow_le_zpow_right₀ (by norm_num) (by omega)
    linarith

end Binary64

end Provenance

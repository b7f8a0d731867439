import Mathlib.Algebra.BigOperators.Group.List.Basic
import Provenance.Proofs.Scoring

/-!
# Proofs — Scoring — Exact

Scoring in exact arithmetic. Each pattern leaves a share of what was missing to certainty, and
shares multiply, so a likelihood is one minus a product over the patterns that cover the line
(`ofConfidences_rational`). A product knows no order, and shrinks with each further share: the order
of the patterns changes no figure of a file, and further patterns make no generated line human
(`exact_union_knows_no_order`). Double precision rounds each step, so the likelihoods of a line may
differ there in their last digits from one order to another.
-/

namespace Provenance

namespace Arithmetic

/-! ## Exact arithmetic -/

/-- The mean of some likelihoods, zero when there are none. -/
def rationalStrength (generated : List Rat) : Rat :=
  if generated = [] then 0 else generated.sum / generated.length

/-- The arithmetic of the program without its rounding. -/
def rational : Arithmetic Rat where
  start := 0
  combine likelihood confidence := 1 - (1 - likelihood) * (1 - confidence / 100)
  isGenerated likelihood := decide (1 / 2 ≤ likelihood)
  fileConfidence likelihoods touched :=
    if likelihoods = [] then .ok 0
    else
      let coverage : Rat := touched / likelihoods.length
      let strength := rationalStrength (likelihoods.filter fun l => decide (1 / 2 ≤ l))
      .ok (100 * (1 / 2 * coverage + 1 / 2 * strength) + 1 / 2).floor

/-! ## Missing certainty -/

/-- The share of certainty that patterns of these confidences leave missing. -/
def missing (confidences : List Nat) : Rat :=
  (confidences.map fun (c : Nat) => 1 - (c : Rat) / 100).prod

theorem missing_cons (c : Nat) (confidences : List Nat) :
    missing (c :: confidences) = (1 - (c : Rat) / 100) * missing confidences := by
  rw [missing, List.map_cons, List.prod_cons, ← missing]

/-- Every pattern leaves its share of what was missing. -/
theorem foldl_combine_rational (likelihood : Rat) (confidences : List Nat) :
    confidences.foldl (fun l (c : Nat) => rational.combine l c) likelihood =
      1 - (1 - likelihood) * missing confidences := by
  induction confidences generalizing likelihood with
  | nil => simp [missing]
  | cons c confidences ih =>
    have hstep : 1 - rational.combine likelihood c = (1 - likelihood) * (1 - (c : Rat) / 100) :=
      sub_sub_cancel _ _
    rw [List.foldl_cons, ih, hstep, missing_cons, mul_assoc]

/-- **A likelihood is what is not missing.** -/
theorem ofConfidences_rational (confidences : List Nat) :
    rational.ofConfidences confidences = 1 - missing confidences := by
  have hstart : rational.start = 0 := rfl
  rw [ofConfidences, foldl_combine_rational, hstart, sub_zero, one_mul]

theorem missing_perm {confidences confidences' : List Nat} (h : confidences'.Perm confidences) :
    missing confidences' = missing confidences :=
  (h.map _).prod_eq

theorem between_share_left {c : Nat} (hc : c ≤ 100) :
    0 ≤ 1 - (c : Rat) / 100 ∧ 1 - (c : Rat) / 100 ≤ 1 := by
  have hcr : (c : Rat) ≤ 100 := by exact_mod_cast hc
  have hc0 : (0 : Rat) ≤ c := Nat.cast_nonneg c
  constructor <;> linarith

theorem missing_nonneg {confidences : List Nat} (h : ∀ c ∈ confidences, c ≤ 100) :
    0 ≤ missing confidences := by
  induction confidences with
  | nil => exact zero_le_one
  | cons c confidences ih =>
    rw [missing_cons]
    exact mul_nonneg (between_share_left (h c List.mem_cons_self)).1
      (ih fun c' hc' => h c' (List.mem_cons_of_mem _ hc'))

/-- Further patterns leave no more missing. -/
theorem missing_le_of_sublist {confidences confidences' : List Nat}
    (hsub : confidences.Sublist confidences') (h : ∀ c ∈ confidences', c ≤ 100) :
    missing confidences' ≤ missing confidences := by
  induction hsub with
  | slnil => exact le_rfl
  | @cons confidences confidences' c hsub ih =>
    have hrest : ∀ c ∈ confidences', c ≤ 100 := fun c' hc' => h c' (List.mem_cons_of_mem _ hc')
    calc missing (c :: confidences')
        = (1 - (c : Rat) / 100) * missing confidences' := missing_cons c confidences'
      _ ≤ 1 * missing confidences' :=
        mul_le_mul_of_nonneg_right (between_share_left (h c List.mem_cons_self)).2
          (missing_nonneg hrest)
      _ = missing confidences' := one_mul _
      _ ≤ missing confidences := ih hrest
  | @cons_cons confidences confidences' c hsub ih =>
    rw [missing_cons, missing_cons]
    exact mul_le_mul_of_nonneg_left (ih fun c' hc' => h c' (List.mem_cons_of_mem _ hc'))
      (between_share_left (h c List.mem_cons_self)).1

/-- Exact likelihoods lie between zero and one. -/
theorem between_ofConfidences_rational {confidences : List Nat} (h : ∀ c ∈ confidences, c ≤ 100) :
    0 ≤ rational.ofConfidences confidences ∧ rational.ofConfidences confidences ≤ 1 := by
  have hnonneg := missing_nonneg h
  have hone : missing confidences ≤ 1 := missing_le_of_sublist (List.nil_sublist _) h
  rw [ofConfidences_rational]
  constructor <;> linarith

end Arithmetic

/-! ## Patterns in another order, and further patterns -/

theorem confidencesAt_le {ps : List Pattern} {n : Nat} : ∀ c ∈ confidencesAt ps n, c ≤ 100 := by
  intro c hc
  obtain ⟨p, _, rfl⟩ := List.mem_map.1 hc
  exact p.confidence_le

theorem touchedLines_perm {ps ps' : List Pattern} (h : ps'.Perm ps) (ls : List Line) :
    touchedLines ls ps' = touchedLines ls ps := by
  rw [touchedLines, touchedLines]
  apply List.countP_congr
  intro n _
  rw [List.any_eq_true, List.any_eq_true]
  simp only [h.mem_iff]

namespace Arithmetic

variable {ls : List Line} {ps ps' : List Pattern}

theorem lineLikelihoods_rational_perm (h : ps'.Perm ps) (ls : List Line) :
    (rational.lineLikelihoods ls ps').map (·.2) = (rational.lineLikelihoods ls ps).map (·.2) := by
  rw [map_snd_lineLikelihoods, map_snd_lineLikelihoods]
  apply List.map_congr_left
  intro n _
  have hperm : (confidencesAt ps' n).Perm (confidencesAt ps n) := (h.filter _).map _
  rw [ofConfidences_rational, ofConfidences_rational, missing_perm hperm]

/-- Further patterns leave the lines generated that are. -/
theorem countP_isGenerated_mono (h : ps.Sublist ps') (ls : List Line) :
    ((rational.lineLikelihoods ls ps).map (·.2)).countP rational.isGenerated ≤
      ((rational.lineLikelihoods ls ps').map (·.2)).countP rational.isGenerated := by
  rw [map_snd_lineLikelihoods, map_snd_lineLikelihoods, List.countP_map, List.countP_map]
  apply List.countP_mono_left
  intro n _ hgenerated
  have hsub : (confidencesAt ps n).Sublist (confidencesAt ps' n) := (h.filter _).map _
  have hmissing := missing_le_of_sublist hsub confidencesAt_le
  have hhalf : 1 / 2 ≤ rational.ofConfidences (confidencesAt ps n) := of_decide_eq_true hgenerated
  rw [ofConfidences_rational] at hhalf
  refine decide_eq_true ?_
  show 1 / 2 ≤ rational.ofConfidences (confidencesAt ps' n)
  rw [ofConfidences_rational]
  linarith

/-- Exact arithmetic has a confidence in every file. -/
theorem gives_fileConfidence_rational (likelihoods : List Rat) (touched : Int) :
    Gives (rational.fileConfidence likelihoods touched) fun _ => True := by
  by_cases hnil : likelihoods = []
  · exact ⟨0, if_pos hnil, trivial⟩
  · exact ⟨_, if_neg hnil, trivial⟩

theorem gives_scoreFile_rational (path language : String) (hdistinct : (ls.map Line.number).Nodup)
    (ps : List Pattern) :
    Gives (rational.scoreFile path language ls ps) fun a => a.generatedLines =
      ((rational.lineLikelihoods ls ps).map (·.2)).countP rational.isGenerated :=
  rational.gives_scoreFile path language hdistinct (gives_fileConfidence_rational _ _)

end Arithmetic

open Arithmetic (rational)

/-- **An exact union knows no order.** In exact arithmetic the likelihood of a line is one minus the
product of what each pattern leaves missing, and lies between zero and one. Lines of distinct
numbers have an analysis, of which patterns in another order change nothing but the list of them,
and further patterns, wherever they are put, do not lower the number of generated lines. -/
theorem exact_union_knows_no_order :
    (∀ confidences : List Nat, (∀ c ∈ confidences, c ≤ 100) →
      rational.ofConfidences confidences =
        1 - (confidences.map fun (c : Nat) => 1 - (c : Rat) / 100).prod ∧
      0 ≤ rational.ofConfidences confidences ∧ rational.ofConfidences confidences ≤ 1) ∧
    ∀ (path language : String) (ls : List Line), (ls.map Line.number).Nodup →
      ∀ ps : List Pattern, ∃ a, rational.scoreFile path language ls ps = .ok a ∧
        (∀ ps' : List Pattern, ps'.Perm ps →
          ∃ b, rational.scoreFile path language ls ps' = .ok b ∧
            b.toFileFigures = { a.toFileFigures with patterns := b.patterns }) ∧
        ∀ ps' : List Pattern, ps.Sublist ps' →
          ∃ b, rational.scoreFile path language ls ps' = .ok b ∧
            a.generatedLines ≤ b.generatedLines := by
  refine ⟨fun confidences h => ⟨Arithmetic.ofConfidences_rational confidences,
    Arithmetic.between_ofConfidences_rational h⟩, ?_⟩
  intro path language ls hdistinct ps
  obtain ⟨a, ha, hgenerated⟩ := Arithmetic.gives_scoreFile_rational path language hdistinct ps
  refine ⟨a, ha, ?_, ?_⟩
  · intro ps' hperm
    exact rational.scoreFile_congr (Arithmetic.lineLikelihoods_rational_perm hperm ls)
      (touchedLines_perm hperm ls) ha
  · intro ps' hsub
    obtain ⟨b, hb, hgenerated'⟩ := Arithmetic.gives_scoreFile_rational path language hdistinct ps'
    refine ⟨b, hb, ?_⟩
    rw [hgenerated, hgenerated']
    exact_mod_cast Arithmetic.countP_isGenerated_mono hsub ls

/-- Two patterns that overlap make a likelihood of 61.5 percent in either order, and a third between
them makes no generated line human. -/
theorem two_patterns_united :
    rational.ofConfidences [30, 45] = 123 / 200 ∧
    ∃ a, rational.scoreFile "calls.py" "python" notedLines [wholePattern, lastPattern] = .ok a ∧
      (∃ b, rational.scoreFile "calls.py" "python" notedLines [lastPattern, wholePattern] = .ok b ∧
        b.toFileFigures = { a.toFileFigures with patterns := b.patterns }) ∧
      ∃ b, rational.scoreFile "calls.py" "python" notedLines
          [wholePattern, remarkPattern, lastPattern] = .ok b ∧
        a.generatedLines ≤ b.generatedLines := by
  obtain ⟨hunion, hscore⟩ := exact_union_knows_no_order
  have hdistinct : (notedLines.map Line.number).Nodup := by decide
  obtain ⟨a, ha, horder, hfurther⟩ :=
    hscore "calls.py" "python" notedLines hdistinct [wholePattern, lastPattern]
  refine ⟨?_, a, ha, horder _ (.swap wholePattern lastPattern []),
    hfurther _ ((List.sublist_cons_self remarkPattern [lastPattern]).cons_cons wholePattern)⟩
  obtain ⟨hproduct, -, -⟩ := hunion [30, 45] (by decide)
  rw [hproduct]
  norm_num

end Provenance

import Provenance.Detect.Complexity
import Provenance.Proofs.Detect.Evidence
import Provenance.Proofs.Grouping
import Provenance.Proofs.Number.Percentage
import Provenance.Proofs.Number.Statistics

/-!
# Proofs — Detect — Complexity

The complexity detector finishes on every file, since the blocks that it judges have lines, and what
it finds is sound: blocks of code (`gives_detect`). It measures the texts of blocks, and not where
in the file they stand (`detect_padded`).
-/

namespace Provenance.Detect.Complexity

open Binary64

variable {settings : ComplexitySettings} {ls : List Line}

/-! ## Blocks -/

/-- Joining a short tail loses nothing. -/
theorem flatten_joinShortTail (minLines : Nat) (bs : List (List Line)) :
    (joinShortTail minLines bs).flatten = bs.flatten := by
  fun_induction joinShortTail minLines bs with
  | case1 => rfl
  | case2 b => rfl
  | case3 b tail _ => simp
  | case4 b tail _ => rfl
  | case5 b rest _ _ ih => rw [List.flatten_cons, List.flatten_cons, ih]

/-- A block that is judged has lines, all of them lines of code. -/
theorem mem_blocks {block : List Line} (h : block ∈ blocks settings (codeLines ls)) :
    block ≠ [] ∧ ∀ l ∈ block, l ∈ codeLines ls := by
  have hsize : 4 ≤ settings.blockLines.val := settings.blockLines.property
  have hmin : 4 ≤ settings.minBlockLines.val := settings.minBlockLines.property
  obtain ⟨hmem, hlen⟩ := List.mem_filter.1 h
  have hlen := of_decide_eq_true hlen
  refine ⟨List.ne_nil_of_length_pos (by omega), fun l hl => ?_⟩
  rw [← flatten_chunks (by omega : 0 < settings.blockLines.val) (codeLines ls),
    ← flatten_joinShortTail settings.minBlockLines.val]
  exact List.mem_flatten_of_mem hmem hl

/-! ## Checks -/

/-- There are five checks. -/
theorem gives_checks {block : List Line} (h : block ≠ []) (unit : AtLeast 1) :
    Gives (checks settings unit block) fun passed => passed.length = 5 := by
  have hmap : ∀ {α : Type} (f : Line → α), block.map f ≠ [] := fun f hnil =>
    h (List.map_eq_nil_iff.1 hnil)
  rw [checks]
  simp only [List.map_map]
  refine (gives_least (hmap _)).bind fun base _ => ?_
  refine (gives_greatest (hmap _)).bind fun longest _ => ?_
  exact (gives_greatest (hmap _)).bind fun deepest _ => .pure rfl

/-! ## Confidence -/

theorem gives_contrast (own : Binary64) (others : List Binary64) :
    Gives (contrast own others) (Between 0 1) := by
  have hstep : ∀ rest : Binary64, Gives (if ¬ 0 < rest then pure 0 else do
      return atLeast 0 (atMost 1 (← ((rest - own).over rest).mapError Fault.number)))
      (Between 0 1) := by
    intro rest
    by_cases hpos : 0 < rest
    · have hz : rest.isZero = false :=
        eq_false_of_ne_true fun hz => (le_zero_of_isZero hz).2 hpos
      have hquotient : Gives ((rest - own).over rest) fun _ => True := gives_over hz trivial
      -- nothing is known of the quotient but that it is cut at zero and one
      rw [if_neg (not_not_intro hpos)]
      exact hquotient.mapError.bind fun quotient _ => .pure (between_clamp quotient)
    · rw [if_pos hpos]
      exact .pure (between_zero.mono le_rfl zero_le_one)
  rw [contrast]
  by_cases hnil : others = []
  · rw [if_pos hnil]
    exact hstep own
  · rw [if_neg hnil]
    exact (Statistics.gives_mean hnil).bind fun rest _ => hstep rest

/-- A share of checks and a contrast. -/
theorem gives_confidence {share contrast : Binary64} (hs : Between 0 1 share)
    (hc : Between 0 1 contrast) :
    Gives (confidence share contrast) fun c => 25 ≤ c ∧ c ≤ 90 := by
  have hbase := (between_count 25 (by omega)).raise (hs.scale 45 (by omega)) (by omega)
  have hsum := hbase.raise (hc.scale 20 (by omega)) (by omega)
  exact gives_capped 25 90 (between_count 90 (by omega)) hsum (by omega)

/-! ## The detector -/

/-- A tidy block makes a sound finding. -/
theorem gives_tidyBlock? {block : List Line} (h : block ∈ blocks settings (codeLines ls))
    (unit : AtLeast 1) (variation : Binary64) (others : List Binary64) :
    Gives (tidyBlock? settings unit variation block others) fun f? =>
      ∀ f ∈ f?, IsSound ls .complexity f := by
  obtain ⟨hne, hcode⟩ := mem_blocks h
  rw [tidyBlock?]
  split
  · exact .pure (by simp)
  refine (gives_checks hne unit).bind fun passed hlen => ?_
  have hle : passed.countP id ≤ passed.length := List.countP_le_length
  refine (gives_share (by omega) hle).bind fun share hs => ?_
  split
  · exact .pure (by simp)
  refine (gives_contrast variation others).bind fun contrast hcontrast => ?_
  refine (gives_confidence hs hcontrast).bind fun confidence hc => .pure fun f hf => ?_
  cases hf
  have hbounds : 0 ≤ confidence ∧ confidence ≤ 100 := by omega
  exact ⟨rfl, hbounds.1, hbounds.2, fun hnil => hne (List.map_eq_nil_iff.1 hnil),
    ofCode_block hcode⟩

/-- **The complexity detector finds only lines of code.** -/
theorem gives_detect (settings : ComplexitySettings) (ls : List Line) :
    Gives (detect settings ls) fun fs => ∀ f ∈ fs, IsSound ls .complexity f := by
  have hvariations : Gives ((blocks settings (codeLines ls)).mapM lengthVariation)
      fun vs => ∀ v ∈ vs, True :=
    Gives.mapM fun block _ => Statistics.gives_variation _
  refine hvariations.bind fun variations _ => Gives.filterMapM fun entry hentry => ?_
  obtain ⟨⟨block, variation⟩, i⟩ := entry
  have hmem : block ∈ blocks settings (codeLines ls) :=
    (List.of_mem_zip (List.fst_mem_of_mem_zipIdx hentry)).1
  exact gives_tidyBlock? hmem _ _ _

/-! ## Files that are moved down -/

section Moved

variable (settings) {moved count : Nat} {padded front back : List Line}

theorem joinShortTail_moveDown (minLines : Nat) (bs : List (List Line)) :
    joinShortTail minLines (bs.map (List.map (Line.moveDown moved))) =
      (joinShortTail minLines bs).map (List.map (Line.moveDown moved)) := by
  fun_induction joinShortTail minLines bs with
  | case1 => rfl
  | case2 b => rfl
  | case3 b tail hshort => simp [joinShortTail, hshort]
  | case4 b tail hlong => simp [joinShortTail, hlong]
  | case5 b rest _ hmore ih =>
    rw [List.map_cons, List.map_cons, ← ih]
    cases rest with
    | nil => contradiction
    | cons c rest =>
      cases rest with
      | nil => exact absurd rfl (hmore c)
      | cons d rest => rfl

theorem blocks_moveDown (code : List Line) :
    blocks settings (code.map (Line.moveDown moved)) =
      (blocks settings code).map (List.map (Line.moveDown moved)) := by
  unfold blocks
  rw [chunks_map, joinShortTail_moveDown, List.filter_map]
  congr 2
  funext b
  simp

theorem lengthVariation_moveDown (block : List Line) :
    lengthVariation (block.map (Line.moveDown moved)) = lengthVariation block := by
  unfold lengthVariation
  rw [List.map_map]
  rfl

theorem checks_moveDown (unit : AtLeast 1) (block : List Line) :
    checks settings unit (block.map (Line.moveDown moved)) = checks settings unit block := by
  unfold checks
  rw [List.map_map]
  rfl

theorem indentUnit_moveDown (code : List Line) :
    indentUnit (code.map (Line.moveDown moved)) = indentUnit code := by
  have hwidths : ((code.map (Line.moveDown moved)).map fun l => Text.indentWidth tabSize l.text) =
      code.map fun l => Text.indentWidth tabSize l.text := by
    rw [List.map_map]
    rfl
  apply Subtype.ext
  simp only [indentUnit, hwidths]

theorem tidyBlock?_moveDown (unit : AtLeast 1) (variation : Binary64) (block : List Line)
    (others : List Binary64) :
    tidyBlock? settings unit variation (block.map (Line.moveDown moved)) others =
      Option.map (Finding.moveDown moved) <$> tidyBlock? settings unit variation block others := by
  unfold tidyBlock?
  rw [checks_moveDown]
  split
  · rfl
  · simp only [map_bind]
    apply bind_congr
    intro checks
    apply bind_congr
    intro share
    split
    · rfl
    · simp only [map_bind, map_pure]
      apply bind_congr
      intro contrast
      apply bind_congr
      intro c
      simp only [tidyFinding, Finding.moveDown, map_number_moveDown, Option.map_some]

theorem detect_padded (h : IsPadded count moved ls padded front back) :
    detect settings padded = List.map (Finding.moveDown moved) <$> detect settings ls := by
  have hvariation : (lengthVariation ∘ List.map (Line.moveDown moved)) = lengthVariation := by
    funext block
    exact lengthVariation_moveDown block
  unfold detect
  simp only [h.codeLines_eq, blocks_moveDown, List.mapM_map, hvariation, indentUnit_moveDown,
    map_bind]
  apply bind_congr
  intro variations
  rw [List.zip_map_left, List.zipIdx_map]
  apply filterMapM_map_of_comm
  intro entry _
  exact tidyBlock?_moveDown settings _ _ _ _

end Moved

end Provenance.Detect.Complexity

import Provenance.Proofs.Detect.Structure.Chain
import Provenance.Proofs.Ranking

/-!
# Proofs — Detect — Structure — Threshold

How many lines of one shape make a pattern has no part in what blocks make one. A file with fewer
lines of code than that is not looked at though, so there the threshold for lines hides the blocks
as well (`line_threshold_hides_blocks`); on all other files the patterns of blocks are the same for
every threshold (`line_threshold_keeps_blocks`). Thresholds for lines, blocks and tokens that are
raised leave a part of what was found: how many tokens are enough is a matter of a whole shape, so
that no block is kept that was left out before (`stricter_thresholds_remove`).
-/

namespace Provenance.Detect.Structure

variable {settings : StructureSettings}

/-! ## Descriptions -/

/-- Whether a finding is one of blocks: its description begins with how many lines they have. -/
def tellsOfBlocks (f : Finding) : Bool := f.description.toList.head?.any Char.isDigit

theorem tellsOfBlocks_lineFinding? {shape : Lexis.Shape} {cluster : List Line} {f : Finding}
    (hf : lineFinding? settings shape cluster = some f) : tellsOfBlocks f = false := by
  cases cluster with
  | nil => cases hf
  | cons first rest =>
    rw [lineFinding?] at hf
    split at hf
    · cases hf
    · obtain rfl := Option.some.inj hf
      simp [tellsOfBlocks, lineFinding, String.toList_append]

theorem tellsOfBlocks_blockFinding? {shape : BlockShape} {places cluster : List Occurrence}
    {f : Finding} (hf : blockFinding? settings shape places cluster = some f) :
    tellsOfBlocks f = true := by
  rw [blockFinding?] at hf
  split at hf
  · cases hf
  · obtain rfl := Option.some.inj hf
    obtain ⟨digit, digits, hdigits⟩ :=
      List.exists_cons_of_ne_nil (Nat.toDigits_ne_nil (n := settings.blockLines.val) (b := 10))
    have hdigit : digit.isDigit = true :=
      Nat.isDigit_of_mem_toDigits (by decide) (by decide) (hdigits ▸ List.mem_cons_self)
    simp [tellsOfBlocks, blockFinding, String.toList_append, Nat.toList_repr, hdigits, hdigit]

/-! ## Order -/

theorem comesBefore_eq_ranksBefore :
    comesBefore = ranksBefore (fun f => -firstLine f) Finding.signature := by
  funext f g
  have hlt : firstLine f < firstLine g ↔ -firstLine g < -firstLine f := by omega
  have heq : (firstLine f == firstLine g) = (-firstLine f == -firstLine g) := by
    rw [Bool.eq_iff_iff, beq_iff_eq, beq_iff_eq]
    omega
  simp only [comesBefore, ranksBefore, hlt, heq]

theorem mergeSort_filter (p : Finding → Bool) (fs : List Finding) :
    (fs.mergeSort comesBefore).filter p = (fs.filter p).mergeSort comesBefore := by
  rw [comesBefore_eq_ranksBefore]
  exact filter_mergeSort ranksBefore_trans ranksBefore_total p fs

/-! ## The detector -/

theorem tellsOfBlocks_lineRepeats {code : List ShapedLine} {lines : List Finding}
    (h : lineRepeats settings code = .ok lines) : ∀ f ∈ lines, tellsOfBlocks f = false := by
  rw [lineRepeats_eq] at h
  obtain rfl := Except.ok.inj h
  intro f hf
  obtain ⟨_, _, _, _, hf⟩ := mem_findingsIn.1 hf
  exact tellsOfBlocks_lineFinding? hf

theorem tellsOfBlocks_blockRepeats {code : List ShapedLine} {blocks : List Finding}
    (h : blockRepeats settings code = .ok blocks) : ∀ f ∈ blocks, tellsOfBlocks f = true := by
  rw [blockRepeats_eq] at h
  obtain rfl := Except.ok.inj h
  intro f hf
  split at hf
  · cases hf
  · obtain ⟨_, _, _, _, hf⟩ := mem_findingsIn.1 hf
    exact tellsOfBlocks_blockFinding? hf

/-- **The threshold for lines has no part in the patterns of blocks**, in files that have as many
lines of code; in other files nothing is found. -/
theorem line_threshold_keeps_blocks (settings : StructureSettings) (ls : List Line) :
    ∃ blocks, blockRepeats settings (shapedLines ls) = .ok blocks ∧
      ∀ minRepeats : AtLeast 2, ∃ found,
        detect { settings with minRepeats := minRepeats } ls = .ok found ∧
          found.filter tellsOfBlocks =
            if (codeLines ls).length < minRepeats.val then [] else blocks.mergeSort comesBefore := by
  obtain ⟨blocks, hblocks, _⟩ : Gives (blockRepeats settings (shapedLines ls)) _ :=
    gives_blockRepeats
  refine ⟨blocks, hblocks, fun minRepeats => ?_⟩
  obtain ⟨lines, hlines, _⟩ :
      Gives (lineRepeats { settings with minRepeats := minRepeats } (shapedLines ls)) _ :=
    gives_lineRepeats
  -- blocks are looked for with the other settings only
  have hsame : blockRepeats { settings with minRepeats := minRepeats } (shapedLines ls) =
      .ok blocks := hblocks
  have hlength : (shapedLines ls).length = (codeLines ls).length := by
    rw [shapedLines, List.length_map]
  rw [detect, hlength]
  split
  · exact ⟨[], rfl, rfl⟩
  · rw [hlines, hsame]
    refine ⟨(lines ++ blocks).mergeSort comesBefore, rfl, ?_⟩
    rw [mergeSort_filter, filter_append_of_right]
    · simpa using tellsOfBlocks_lineRepeats hlines
    · exact tellsOfBlocks_blockRepeats hblocks

/-- A file of two blocks of one shape. -/
def loads : List Line :=
  ["a = load(1)", "if a:", "    out.append(a)", "b = load(2)", "if b:", "    out.append(b)"].zipIdx.map
    fun (text, i) => ⟨i + 1, text.toList, .code⟩

/-- With a threshold for lines above the length of the file its blocks are not found. -/
theorem line_threshold_hides_blocks :
    (fun found => (found.filter tellsOfBlocks).length) <$>
        detect { minRepeats := ⟨3, by decide⟩ } loads = .ok 1 ∧
      (fun found => (found.filter tellsOfBlocks).length) <$>
        detect { minRepeats := ⟨7, by decide⟩ } loads = .ok 0 := by
  decide +kernel

/-! ## Stricter settings -/

section Stricter

variable {stricter : StructureSettings}

/-- Settings that ask for no less: for no fewer lines, blocks or tokens, in the same window and for
blocks of the same length. -/
structure IsStricter (settings stricter : StructureSettings) : Prop where
  window_eq : stricter.window = settings.window
  blockLines_eq : stricter.blockLines = settings.blockLines
  minRepeats_le : settings.minRepeats.val ≤ stricter.minRepeats.val
  minTokens_le : settings.minTokens.val ≤ stricter.minTokens.val
  minBlockRepeats_le : settings.minBlockRepeats.val ≤ stricter.minBlockRepeats.val

theorem findingsIn_sublist (hwindow : stricter.window = settings.window) {α κ : Type}
    {number : α → Nat} {places places' : List (κ × List α)}
    {finding? finding?' : κ → List α → List α → Option Finding} (hplaces : places'.Sublist places)
    (hfinding : ∀ key members c f, finding?' key members c = some f →
      finding? key members c = some f) :
    (findingsIn stricter number finding?' places').Sublist
      (findingsIn settings number finding? places) := by
  rw [findingsIn, findingsIn, hwindow]
  exact flatMap_sublist hplaces fun entry _ =>
    filterMap_sublist fun c _ f hf => hfinding entry.1 entry.2 c f hf

/-- A line that can be repeated under stricter settings is one whose shape still has enough
tokens. -/
theorem IsStricter.repeatable_eq (h : IsStricter settings stricter) (code : List ShapedLine) :
    repeatable stricter code = (repeatable settings code).filter
      fun entry => decide (stricter.minTokens.val ≤ entry.1.length) := by
  rw [repeatable, repeatable, List.filter_map, List.filter_filter]
  congr 1
  refine List.filter_congr fun s _ => ?_
  have htokens := fun hlarge : stricter.minTokens.val ≤ s.shape.length =>
    Nat.le_trans h.minTokens_le hlarge
  rw [Bool.eq_iff_iff]
  simp only [Function.comp_apply, Bool.and_eq_true, decide_eq_true_eq]
  constructor
  · rintro ⟨hlarge, himport⟩
    exact ⟨hlarge, htokens hlarge, himport⟩
  · rintro ⟨hlarge, -, himport⟩
    exact ⟨hlarge, himport⟩

theorem IsStricter.linesByShape_sublist (h : IsStricter settings stricter)
    (code : List ShapedLine) :
    (linesByShape stricter code).Sublist (linesByShape settings code) := by
  show (group (repeatable stricter code)).Sublist (group (repeatable settings code))
  rw [h.repeatable_eq]
  exact group_filter_sublist
    (fun shape : Lexis.Shape => decide (stricter.minTokens.val ≤ shape.length)) _

/-- The blocks of a file, each with its shape and its place. -/
def shapedBlocks (settings : StructureSettings) (code : List ShapedLine) :
    List (BlockShape × Nat × List ShapedLine) :=
  ((windows settings.blockLines.val code).filter fun place => isBlock settings place.2).map
    fun place => (place.2.map ShapedLine.shape, place)

theorem IsStricter.isBlock_eq (h : IsStricter settings stricter) (window : List ShapedLine) :
    isBlock stricter window = (isBlock settings window &&
      decide (stricter.minTokens.val * settings.blockLines.val ≤
        total ((window.map ShapedLine.shape).map List.length))) := by
  have htokens := Nat.mul_le_mul_right settings.blockLines.val h.minTokens_le
  rw [Bool.eq_iff_iff]
  simp only [isBlock, h.blockLines_eq, Bool.and_eq_true, decide_eq_true_eq]
  constructor
  · rintro ⟨⟨hmixed, hlarge⟩, himport⟩
    exact ⟨⟨⟨hmixed, Nat.le_trans htokens hlarge⟩, himport⟩, hlarge⟩
  · rintro ⟨⟨⟨hmixed, -⟩, himport⟩, hlarge⟩
    exact ⟨⟨hmixed, hlarge⟩, himport⟩

theorem IsStricter.shapedBlocks_eq (h : IsStricter settings stricter) (code : List ShapedLine) :
    shapedBlocks stricter code = (shapedBlocks settings code).filter fun entry =>
      decide (stricter.minTokens.val * settings.blockLines.val ≤
        total (entry.1.map List.length)) := by
  rw [shapedBlocks, shapedBlocks, List.filter_map, List.filter_filter, h.blockLines_eq]
  congr 1
  refine List.filter_congr fun place _ => ?_
  rw [h.isBlock_eq, Bool.and_comm]
  rfl

/-- **More tokens leave fewer shapes, and all kept blocks of those that are left**: what overlaps a
block has its shape, so thinning leaves out what it left out before. -/
theorem IsStricter.blocksByShape_sublist (h : IsStricter settings stricter)
    (code : List ShapedLine) :
    (blocksByShape stricter code).Sublist (blocksByShape settings code) := by
  show ((group (shapedBlocks stricter code)).map _).Sublist
    ((group (shapedBlocks settings code)).map _)
  rw [h.shapedBlocks_eq, h.blockLines_eq]
  exact (group_filter_sublist (fun shape : BlockShape =>
    decide (stricter.minTokens.val * settings.blockLines.val ≤ total (shape.map List.length)))
    _).map _

theorem IsStricter.of_lineFinding? (h : IsStricter settings stricter) {shape : Lexis.Shape}
    {cluster : List Line} {f : Finding}
    (hf : lineFinding? stricter shape cluster = some f) :
    lineFinding? settings shape cluster = some f := by
  cases cluster with
  | nil => cases hf
  | cons first rest =>
    rw [lineFinding?] at hf ⊢
    split at hf
    · cases hf
    · rename_i henough
      rwa [if_neg (mt (fun hless => Nat.lt_of_lt_of_le hless h.minRepeats_le) henough)]

theorem IsStricter.of_blockFinding? (h : IsStricter settings stricter) {shape : BlockShape}
    {places cluster : List Occurrence} {f : Finding}
    (hf : blockFinding? stricter shape places cluster = some f) :
    blockFinding? settings shape places cluster = some f := by
  rw [blockFinding?] at hf ⊢
  split at hf
  · cases hf
  · rename_i henough
    rw [if_neg (mt (fun hless => Nat.lt_of_lt_of_le hless h.minBlockRepeats_le) henough), ← hf]
    rw [blockFinding, blockFinding, h.blockLines_eq]

theorem IsStricter.lineRepeats_sublist (h : IsStricter settings stricter)
    (code : List ShapedLine) :
    ∃ found kept, lineRepeats settings code = .ok found ∧ lineRepeats stricter code = .ok kept ∧
      kept.Sublist found :=
  ⟨_, _, lineRepeats_eq settings code, lineRepeats_eq stricter code,
    findingsIn_sublist h.window_eq (h.linesByShape_sublist code) fun _ _ _ _ => h.of_lineFinding?⟩

theorem IsStricter.blockRepeats_sublist (h : IsStricter settings stricter)
    (code : List ShapedLine) :
    ∃ found kept, blockRepeats settings code = .ok found ∧ blockRepeats stricter code = .ok kept ∧
      kept.Sublist found := by
  refine ⟨_, _, blockRepeats_eq settings code, blockRepeats_eq stricter code, ?_⟩
  have hroom := Nat.mul_le_mul_left settings.blockLines.val h.minBlockRepeats_le
  rw [h.blockLines_eq]
  split
  · exact List.nil_sublist _
  · rename_i hlong
    rw [if_neg (mt (fun hshort => Nat.lt_of_lt_of_le hshort hroom) hlong)]
    exact findingsIn_sublist h.window_eq (h.blocksByShape_sublist code)
      fun _ _ _ _ => h.of_blockFinding?

theorem IsStricter.detect_sublist (h : IsStricter settings stricter) (ls : List Line) :
    ∃ found kept, detect settings ls = .ok found ∧ detect stricter ls = .ok kept ∧
      kept.Sublist found := by
  obtain ⟨lines, lines', hlines, hlines', hsub⟩ := h.lineRepeats_sublist (shapedLines ls)
  obtain ⟨blocks, blocks', hblocks, hblocks', hsub'⟩ := h.blockRepeats_sublist (shapedLines ls)
  have hsorted : ((lines' ++ blocks').mergeSort comesBefore).Sublist
      ((lines ++ blocks).mergeSort comesBefore) := by
    rw [comesBefore_eq_ranksBefore]
    exact mergeSort_sublist ranksBefore_trans ranksBefore_total (hsub.append hsub')
  rw [detect, detect, hlines, hlines', hblocks, hblocks']
  split
  · rename_i hshort
    have hshort' := Nat.lt_of_lt_of_le hshort h.minRepeats_le
    exact ⟨[], [], rfl, if_pos hshort', .slnil⟩
  · split
    · exact ⟨_, [], rfl, rfl, List.nil_sublist _⟩
    · exact ⟨_, _, rfl, rfl, hsorted⟩

/-- **Stricter thresholds only remove findings.** Settings that ask for no fewer lines, blocks and
tokens, and are the same in all else, find a part of what the others find, in the same order. What
the others find makes patterns where lines are numbered from one, and wherever it does, the part
makes a part of the patterns. -/
theorem stricter_thresholds_remove (h : IsStricter settings stricter) (ls : List Line) :
    ∃ found kept, detect settings ls = .ok found ∧ detect stricter ls = .ok kept ∧
      kept.Sublist found ∧
      ((∀ l ∈ ls, 1 ≤ l.number) → ∃ patterns, found.mapM Finding.check = .ok patterns) ∧
      ∀ patterns, found.mapM Finding.check = .ok patterns →
        ∃ kept', kept.mapM Finding.check = .ok kept' ∧ kept'.Sublist patterns := by
  obtain ⟨found, kept, hfound, hkept, hpart⟩ := h.detect_sublist ls
  refine ⟨found, kept, hfound, hkept, hpart, fun hpos => ?_,
    fun _ hpatterns => mapM_sublist hpart hpatterns⟩
  obtain ⟨_, hfound', hsound⟩ := gives_detect settings ls
  obtain rfl := Except.ok.inj (hfound.symm.trans hfound')
  have hchecked : Gives (found.mapM Finding.check) fun ps => ∀ p ∈ ps, p.kind = .structural :=
    Gives.mapM fun f hf => (gives_check hpos (hsound f hf)).mono fun _ hp => hp.1
  obtain ⟨patterns, hpatterns, -⟩ := hchecked
  exact ⟨patterns, hpatterns⟩

/-- A file of two lines of one shape and one of another. -/
def twoCalls : List Line :=
  ["a = f(b)", "b = f(c)", "return b"].zipIdx.map fun (text, i) => ⟨i + 1, text.toList, .code⟩

/-- Two lines of one shape are no repetition where three are asked for. -/
theorem two_calls_removed :
    let strict := Settings.standard.structural
    let lax : StructureSettings := { strict with minRepeats := ⟨2, by decide⟩ }
    IsStricter lax strict ∧
      ∃ found kept, detect lax twoCalls = .ok found ∧ detect strict twoCalls = .ok kept ∧
        kept.Sublist found ∧
        (∃ patterns kept', found.mapM Finding.check = .ok patterns ∧
          kept.mapM Finding.check = .ok kept' ∧ kept'.Sublist patterns) ∧
        found.map Finding.lines = [[1, 2]] ∧ kept = [] := by
  intro strict lax
  have hstricter : IsStricter lax strict := ⟨rfl, rfl, by decide, by decide, by decide⟩
  obtain ⟨found, kept, hfound, hkept, hsub, hsome, hpart⟩ :=
    stricter_thresholds_remove hstricter twoCalls
  obtain ⟨patterns, hpatterns⟩ := hsome (by decide)
  obtain ⟨kept', hkept', hsub'⟩ := hpart patterns hpatterns
  have hlax : List.map Finding.lines <$> detect lax twoCalls = .ok [[1, 2]] := by
    decide +kernel
  have hstrict : detect strict twoCalls = .ok [] := by decide +kernel
  rw [hfound] at hlax
  rw [hkept] at hstrict
  exact ⟨hstricter, found, kept, hfound, hkept, hsub,
    ⟨patterns, kept', hpatterns, hkept', hsub'⟩, Except.ok.inj hlax, Except.ok.inj hstrict⟩

end Stricter

end Provenance.Detect.Structure

import Provenance.Proofs.Detect.Structure

/-!
# Proofs — Detect — Structure — Block

Where a block shape is repeated. Blocks of one shape are thinned from the top of the file before
their distances are looked at, so a block that is repeated can be left out for one that overlaps it
and is far from the next repetition (`thinning_hides_repetition`). When every block that overlaps
one of the repeated ones from above is near the next one as well (`IsUnobstructed`), the blocks that
are kept in their places are near each other, and the repetition is found (`repeated_blocks_found`).
-/

namespace Provenance.Detect.Structure

open Lexis

variable {settings : StructureSettings} {code : List ShapedLine} {shape : BlockShape}

/-! ## Blocks in their places -/

/-- The number of the line in a place of the code. -/
def lineNumber (code : List ShapedLine) (i : Nat) : Nat :=
  (code[i]?.map fun s => s.line.number).getD 0

/-- The lines of a block from a place of the code on. -/
def stretch (settings : StructureSettings) (code : List ShapedLine) (i : Nat) : List ShapedLine :=
  (code.drop i).take settings.blockLines.val

/-- A block of a shape begins in a place of the code: its lines have the shape line by line, not all
of them one shape; they have enough tokens, and none of them is an import. -/
structure IsBlockAt (settings : StructureSettings) (code : List ShapedLine) (shape : BlockShape)
    (i : Nat) : Prop where
  inside : i + settings.blockLines.val ≤ code.length
  alike : (stretch settings code i).map ShapedLine.shape = shape
  mixed : ∃ s ∈ shape, ∃ t ∈ shape, s ≠ t
  large : settings.minTokens.val * settings.blockLines.val ≤ total (shape.map List.length)
  no_import : ∀ s ∈ stretch settings code i, isImport s.line.text = false

instance (settings : StructureSettings) (code : List ShapedLine) (shape : BlockShape) (i : Nat) :
    Decidable (IsBlockAt settings code shape i) :=
  decidable_of_iff (i + settings.blockLines.val ≤ code.length ∧
      (stretch settings code i).map ShapedLine.shape = shape ∧
      (∃ s ∈ shape, ∃ t ∈ shape, s ≠ t) ∧
      settings.minTokens.val * settings.blockLines.val ≤ total (shape.map List.length) ∧
      ∀ s ∈ stretch settings code i, isImport s.line.text = false)
    ⟨fun ⟨inside, alike, mixed, large, no_import⟩ => ⟨inside, alike, mixed, large, no_import⟩,
      fun h => ⟨h.inside, h.alike, h.mixed, h.large, h.no_import⟩⟩

/-- The blocks of a shape, each in its place. -/
def blocksOf (settings : StructureSettings) (code : List ShapedLine) (shape : BlockShape) :
    List (Nat × List ShapedLine) :=
  ((windows settings.blockLines.val code).filter fun (_, window) => isBlock settings window).filter
    fun (_, window) => window.map ShapedLine.shape = shape

theorem isUniform_eq_false_iff {shape : BlockShape} (hshape : shape ≠ []) :
    isUniform shape = false ↔ ∃ s ∈ shape, ∃ t ∈ shape, s ≠ t := by
  obtain ⟨first, rest, rfl⟩ := List.exists_cons_of_ne_nil hshape
  rw [isUniform, List.all_eq_false]
  constructor
  · rintro ⟨t, ht, hne⟩
    exact ⟨t, List.mem_cons_of_mem _ ht, first, List.mem_cons_self, by simpa using hne⟩
  · rintro ⟨s, hs, t, ht, hne⟩
    -- one of the two is not the first shape
    by_cases hfirst : s = first
    · subst hfirst
      exact ⟨t, (List.mem_cons.1 ht).resolve_left hne.symm, by simpa using hne.symm⟩
    · exact ⟨s, (List.mem_cons.1 hs).resolve_left hfirst, by simpa using hfirst⟩

theorem length_stretch {i : Nat} (hinside : i + settings.blockLines.val ≤ code.length) :
    (stretch settings code i).length = settings.blockLines.val := by
  rw [stretch, List.length_take, List.length_drop]
  omega

theorem stretch_ne_nil {i : Nat} (hinside : i + settings.blockLines.val ≤ code.length) :
    stretch settings code i ≠ [] :=
  List.ne_nil_of_length_pos (length_stretch hinside ▸ blockLines_pos settings)

/-- **The blocks of a shape are where its blocks begin.** -/
theorem mem_blocksOf {i : Nat} {window : List ShapedLine} :
    (i, window) ∈ blocksOf settings code shape ↔
      IsBlockAt settings code shape i ∧ window = stretch settings code i := by
  have hcut : (i, window) ∈ blocksOf settings code shape ↔
      ((i + settings.blockLines.val ≤ code.length ∧ window = stretch settings code i) ∧
        isBlock settings window = true) ∧ window.map ShapedLine.shape = shape := by
    simp only [blocksOf, List.mem_filter, mem_windows_iff, decide_eq_true_eq, stretch]
  rw [hcut]
  constructor
  · rintro ⟨⟨⟨hinside, rfl⟩, hblock⟩, rfl⟩
    have hshape : (stretch settings code i).map ShapedLine.shape ≠ [] :=
      mt List.map_eq_nil_iff.1 (stretch_ne_nil hinside)
    simp only [isBlock, Bool.and_eq_true, Bool.not_eq_true', decide_eq_true_eq,
      List.any_eq_false, Bool.not_eq_true] at hblock
    exact ⟨⟨hinside, rfl, (isUniform_eq_false_iff hshape).1 hblock.1.1, hblock.1.2, hblock.2⟩, rfl⟩
  · rintro ⟨h, rfl⟩
    have hshape : shape ≠ [] := by
      rw [← h.alike]
      exact mt List.map_eq_nil_iff.1 (stretch_ne_nil h.inside)
    refine ⟨⟨⟨h.inside, rfl⟩, ?_⟩, h.alike⟩
    simp only [isBlock, h.alike, Bool.and_eq_true, Bool.not_eq_true', decide_eq_true_eq,
      List.any_eq_false, Bool.not_eq_true]
    exact ⟨⟨(isUniform_eq_false_iff hshape).2 h.mixed, h.large⟩, h.no_import⟩

theorem pairwise_blocksOf : (blocksOf settings code shape).Pairwise fun x y => x.1 < y.1 :=
  ((pairwise_windows _ _).filter _).filter _

/-- The places where the blocks of a shape are kept. -/
def keptPlaces (settings : StructureSettings) (code : List ShapedLine) (shape : BlockShape) :
    List Nat :=
  (thin settings.blockLines.val 0 (blocksOf settings code shape)).map Prod.fst

theorem isBlockAt_of_mem_keptPlaces {i : Nat} (h : i ∈ keptPlaces settings code shape) :
    IsBlockAt settings code shape i := by
  obtain ⟨⟨_, window⟩, hkept, rfl⟩ := List.mem_map.1 h
  exact (mem_blocksOf.1 ((thin_sublist _ _ _).subset hkept)).1

theorem pairwise_keptPlaces : (keptPlaces settings code shape).Pairwise (· < ·) := by
  apply List.pairwise_map.2
  exact pairwise_blocksOf.sublist (thin_sublist _ _ _)

/-- **A block that is left out overlaps a kept one above it.** -/
theorem exists_keptPlace {i : Nat} (h : IsBlockAt settings code shape i) :
    ∃ j ∈ keptPlaces settings code shape, j ≤ i ∧ i < j + settings.blockLines.val := by
  obtain ⟨kept, hkept, hover⟩ := exists_mem_thin (blockLines_pos settings) pairwise_blocksOf
    (mem_blocksOf.2 ⟨h, rfl⟩) (Nat.zero_le i)
  exact ⟨kept.1, List.mem_map_of_mem hkept, hover⟩

/-- A block in its place. -/
def occurrenceAt (settings : StructureSettings) (code : List ShapedLine) (i : Nat) : Occurrence :=
  ⟨lineNumber code i, stretch settings code i⟩

/-- **The kept blocks of a shape are the places that it is looked for in.** -/
theorem mem_blocksByShape_of_isBlockAt {i : Nat} (h : IsBlockAt settings code shape i) :
    (shape, (keptPlaces settings code shape).map (occurrenceAt settings code)) ∈
      blocksByShape settings code := by
  have hlisted : (shape, (i, stretch settings code i)) ∈
      ((windows settings.blockLines.val code).filter fun (_, window) => isBlock settings window).map
        fun (i, window) => (window.map ShapedLine.shape, (i, window)) := by
    have hblock := List.mem_of_mem_filter (mem_blocksOf.2 ⟨h, rfl⟩)
    exact List.mem_map.2 ⟨_, hblock, by simpa using h.alike⟩
  refine List.mem_map.2 ⟨_, group_of_mem hlisted, ?_⟩
  simp only [List.filter_map, List.map_map, Function.comp_def, List.map_id', Prod.mk.injEq,
    true_and, keptPlaces]
  apply List.map_congr_left
  rintro ⟨j, window⟩ hentry
  obtain ⟨_, rfl⟩ := mem_blocksOf.1 ((thin_sublist _ _ _).subset hentry)
  have hsize := blockLines_pos settings
  have hfirst : (stretch settings code j).head? = code[j]? := by
    rw [stretch, List.head?_take, if_neg (Nat.ne_of_gt hsize), List.head?_drop]
  simp only [occurrenceAt, lineNumber, hfirst]

/-! ## Repetitions -/

/-- Blocks of a shape that are repeated: they do not overlap, each of them begins near the one
before it, and they are enough. -/
structure IsRepeated (settings : StructureSettings) (code : List ShapedLine) (shape : BlockShape)
    (starts : List Nat) : Prop where
  blocks : ∀ i ∈ starts, IsBlockAt settings code shape i
  apart : starts.IsChain fun i j => i + settings.blockLines.val ≤ j
  near : starts.IsChain fun i j =>
    lineNumber code j ≤ lineNumber code i + settings.window.val
  enough : settings.minBlockRepeats.val ≤ starts.length

/-- No block of the shape that overlaps a repeated one from above is too far from the next one. -/
def IsUnobstructed (settings : StructureSettings) (code : List ShapedLine) (shape : BlockShape)
    (starts : List Nat) : Prop :=
  starts.IsChain fun i j => ∀ o, IsBlockAt settings code shape o → o ≤ i →
    i < o + settings.blockLines.val → lineNumber code j ≤ lineNumber code o + settings.window.val

/-- A shape whose blocks never overlap has none that gets in the way. -/
theorem IsRepeated.isUnobstructed {starts : List Nat} (h : IsRepeated settings code shape starts)
    (happart : ∀ o i, IsBlockAt settings code shape o → IsBlockAt settings code shape i → o ≤ i →
      i < o + settings.blockLines.val → o = i) : IsUnobstructed settings code shape starts := by
  refine h.near.imp_of_mem_imp ?_
  intro i j hi _ hnear o ho hle hlt
  rwa [happart o i ho (h.blocks i hi) hle hlt]

/-- The code has room for all repeated blocks. -/
theorem IsRepeated.length_le {starts : List Nat} (h : IsRepeated settings code shape starts) :
    settings.blockLines.val * settings.minBlockRepeats.val ≤ code.length := by
  have hroom := length_le_of_apart (fun i hi => (h.blocks i hi).inside) h.apart
  have henough := Nat.mul_le_mul_left settings.blockLines.val h.enough
  cases starts with
  | nil => exact Nat.le_trans henough (Nat.zero_le _)
  | cons i starts =>
    have := hroom i rfl
    omega

theorem IsRepeated.ne_nil {starts : List Nat} (h : IsRepeated settings code shape starts) :
    starts ≠ [] := by
  have hrepeats : 2 ≤ settings.minBlockRepeats.val := settings.minBlockRepeats.property
  have := h.enough
  apply List.ne_nil_of_length_pos
  omega

/-- The line in a place of a block. -/
theorem exists_mem_stretch {i j : Nat} (hinside : j + settings.blockLines.val ≤ code.length)
    (hle : i ≤ j) (hlt : j < i + settings.blockLines.val) :
    ∃ s ∈ stretch settings code i, s.line.number = lineNumber code j := by
  have hsize := blockLines_pos settings
  have hj : j < code.length := by omega
  refine ⟨code[j], ?_, by rw [lineNumber, List.getElem?_eq_getElem hj]; rfl⟩
  rw [stretch, List.mem_take_iff_getElem]
  refine ⟨j - i, by rw [List.length_drop]; omega, ?_⟩
  rw [List.getElem_drop]
  congr 1
  omega

theorem lineNumber_lt (hnumbers : NumbersIncrease code)
    {i j : Nat} (hij : i < j) (hj : j < code.length) : lineNumber code i < lineNumber code j := by
  have hi : i < code.length := Nat.lt_trans hij hj
  rw [lineNumber, lineNumber, List.getElem?_eq_getElem hi, List.getElem?_eq_getElem hj]
  exact List.pairwise_iff_getElem.1 hnumbers i j hi hj hij

theorem lineNumber_le (hnumbers : NumbersIncrease code)
    {i j : Nat} (hij : i ≤ j) (hj : j < code.length) : lineNumber code i ≤ lineNumber code j := by
  rcases Nat.lt_or_eq_of_le hij with hij | rfl
  · exact Nat.le_of_lt (lineNumber_lt hnumbers hij hj)
  · exact Nat.le_refl _

/-- **What is kept in the places of repeated blocks is near each other.** -/
theorem IsRepeated.exists_keptChain {starts : List Nat}
    (hnumbers : NumbersIncrease code)
    (h : IsRepeated settings code shape starts)
    (hfree : IsUnobstructed settings code shape starts) :
    ∃ kept : Nat → Nat, (∀ i ∈ starts, kept i ∈ keptPlaces settings code shape ∧
        kept i ≤ i ∧ i < kept i + settings.blockLines.val) ∧
      IsNearChain (lineNumber code) settings.window.val (starts.map kept) := by
  choose! kept hkept using fun i hi => exists_keptPlace (h.blocks i hi)
  refine ⟨kept, hkept, (List.isChain_map kept).2 ?_⟩
  refine (isChain_and h.apart hfree).imp_of_mem_imp ?_
  rintro i j hi hj ⟨hapart, hnear⟩
  obtain ⟨hmem, hle, hlt⟩ := hkept i hi
  obtain ⟨hmem', hle', hlt'⟩ := hkept j hj
  have hblock := isBlockAt_of_mem_keptPlaces hmem
  have hinside := (isBlockAt_of_mem_keptPlaces hmem').inside
  have hsize := blockLines_pos settings
  constructor
  · exact lineNumber_lt hnumbers (by omega) (by omega)
  · have hbefore : lineNumber code (kept j) ≤ lineNumber code j :=
      lineNumber_le hnumbers hle' (by have := (h.blocks j hj).inside; omega)
    have := hnear (kept i) hblock hle hlt
    omega

theorem pairwise_occurrences (hnumbers : NumbersIncrease code) :
    ((keptPlaces settings code shape).map (occurrenceAt settings code)).Pairwise
      fun o o' => o.number < o'.number := by
  have hsize := blockLines_pos settings
  refine List.pairwise_map.2 (pairwise_keptPlaces.imp_of_mem ?_)
  intro i j _ hj hij
  have hinside := (isBlockAt_of_mem_keptPlaces hj).inside
  exact lineNumber_lt hnumbers hij (by omega)

/-- **Repeated blocks are found**, as far as no block that overlaps them from above gets in the way.
The pattern has their shape, and it covers the first line of each of them. -/
theorem repeated_blocks_found {starts : List Nat}
    (hnumbers : NumbersIncrease code)
    (h : IsRepeated settings code shape starts)
    (hfree : IsUnobstructed settings code shape starts) :
    ∃ found, blockRepeats settings code = .ok found ∧
      ∃ f ∈ found, f.signature = " / ".intercalate (shape.map Shape.text) ∧
        ∀ i ∈ starts, (lineNumber code i : Int) ∈ f.lines := by
  obtain ⟨kept, hkept, hchain⟩ := h.exists_keptChain hnumbers hfree
  let places := (keptPlaces settings code shape).map (occurrenceAt settings code)
  let chain := starts.map fun i => occurrenceAt settings code (kept i)
  have hne : starts ≠ [] := h.ne_nil
  have hplaces : ∀ o ∈ chain, o ∈ places := by
    intro o ho
    obtain ⟨i, hi, rfl⟩ := List.mem_map.1 ho
    exact List.mem_map_of_mem (hkept i hi).1
  have hnear : IsNearChain Occurrence.number settings.window.val chain :=
    (List.isChain_map _).2 ((List.isChain_map kept).1 hchain)
  obtain ⟨c, hc, hcluster, hlength⟩ := exists_cluster_of_chain (pairwise_occurrences hnumbers)
    (mt List.map_eq_nil_iff.1 hne) hplaces hnear
  have henough : settings.minBlockRepeats.val ≤ c.length :=
    Nat.le_trans h.enough (by simpa [chain] using hlength)
  obtain ⟨i₀, hi₀⟩ := List.exists_mem_of_ne_nil starts hne
  have hlisted : (shape, places) ∈ blocksByShape settings code :=
    mem_blocksByShape_of_isBlockAt (h.blocks i₀ hi₀)
  have hfinding : blockFinding? settings shape places c =
      some (blockFinding settings shape places c) := if_neg (Nat.not_lt.2 henough)
  refine ⟨_, blockRepeats_eq settings code, blockFinding settings shape places c, ?_, rfl, ?_⟩
  · rw [if_neg (Nat.not_lt.2 h.length_le)]
    exact mem_findingsIn.2 ⟨_, hlisted, c, hc, hfinding⟩
  · intro i hi
    have ho : occurrenceAt settings code (kept i) ∈ chain := List.mem_map_of_mem hi
    have hcovered := mem_covered.2 ⟨hplaces _ ho, _, hcluster _ ho, rfl⟩
    obtain ⟨s, hs, hnumber⟩ := exists_mem_stretch (h.blocks i hi).inside (hkept i hi).2.1
      (hkept i hi).2.2
    refine List.mem_flatMap.2 ⟨_, hcovered, List.mem_map.2 ⟨s, hs, ?_⟩⟩
    rw [hnumber]

/-! ## Blocks that overlap -/

/-- Some texts as the lines of code of a file. -/
def codeOf (texts : List String) : List ShapedLine :=
  shapedLines (texts.zipIdx.map fun (text, i) => ⟨i + 1, text.toList, .code⟩)

/-- The shape of a line, another line and a line like the first. -/
def bracketShape : BlockShape :=
  [Lexis.shape "a = f(b)".toList, Lexis.shape "g(c)".toList, Lexis.shape "a = f(b)".toList]

/-- Two blocks of this shape, one right behind the other. -/
theorem brackets_found :
    let tight : StructureSettings := { window := ⟨3, by decide⟩ }
    let code := codeOf ["a = f(b)", "g(c)", "a = f(b)", "a = f(b)", "g(c)", "a = f(b)"]
    NumbersIncrease code ∧
      IsRepeated tight code bracketShape [0, 3] ∧ IsUnobstructed tight code bracketShape [0, 3] ∧
      ∃ found, blockRepeats tight code = .ok found ∧
        ∃ f ∈ found, f.signature = " / ".intercalate (bracketShape.map Shape.text) ∧
          ∀ i ∈ [0, 3], (lineNumber code i : Int) ∈ f.lines := by
  intro tight code
  have hnumbers : NumbersIncrease code := by decide +kernel
  have hrepeated : IsRepeated tight code bracketShape [0, 3] :=
    ⟨by decide +kernel, by decide, by decide +kernel, by decide⟩
  have hfree : IsUnobstructed tight code bracketShape [0, 3] := by
    refine List.isChain_pair.2 ?_
    intro o _ hle _
    obtain rfl := Nat.le_zero.1 hle
    decide +kernel
  exact ⟨hnumbers, hrepeated, hfree, repeated_blocks_found hnumbers hrepeated hfree⟩

/-- A block above the first of two that are near each other overlaps it, and is too far from the
second: neither is found. -/
theorem thinning_hides_repetition :
    let tight : StructureSettings := { window := ⟨3, by decide⟩ }
    let code := codeOf ["a = f(b)", "g(c)", "a = f(b)", "g(c)", "a = f(b)", "a = f(b)", "g(c)",
      "a = f(b)"]
    NumbersIncrease code ∧
      IsRepeated tight code bracketShape [2, 5] ∧ blockRepeats tight code = .ok [] := by
  intro tight code
  exact ⟨by decide +kernel, ⟨by decide +kernel, by decide, by decide +kernel, by decide⟩,
    by decide +kernel⟩

end Provenance.Detect.Structure

import Provenance.Proofs.Detect.Structure.Block
import Provenance.Proofs.Grouping.Chain

/-!
# Proofs — Detect — Structure — Coverage

Which lines a finding of blocks covers. Blocks are thinned by their places in the code, clustered by
the numbers of their first lines, and looked up by these numbers again when a finding is made. In
code whose lines are in the order of their numbers the three agree: a finding that tells of so many
blocks covers as many stretches of the code, all of one shape, which share no line
(`told_blocks_repeated`).
-/

namespace Provenance.Detect.Structure

open Lexis

variable {settings : StructureSettings} {code : List ShapedLine} {shape : BlockShape}

/-! ## Lines of blocks -/

/-- The numbers of the lines of the blocks that begin in some places. -/
def coveredLines (settings : StructureSettings) (code : List ShapedLine) (starts : List Nat) :
    List Nat :=
  starts.flatMap fun i => (stretch settings code i).map fun s => s.line.number

/-- A line of a block stands less than the length of a block behind its beginning. -/
theorem exists_place_of_mem_stretch {i : Nat} {s : ShapedLine} (h : s ∈ stretch settings code i) :
    ∃ k, i ≤ k ∧ k < i + settings.blockLines.val ∧ k < code.length ∧
      s.line.number = lineNumber code k := by
  obtain ⟨j, hj, rfl⟩ := List.mem_take_iff_getElem.1 h
  rw [List.length_drop] at hj
  have hk : i + j < code.length := by omega
  refine ⟨i + j, Nat.le_add_right i j, by omega, hk, ?_⟩
  rw [List.getElem_drop, lineNumber, List.getElem?_eq_getElem hk]
  rfl

/-- Each block takes up its length. -/
theorem length_coveredLines {starts : List Nat}
    (hinside : ∀ i ∈ starts, i + settings.blockLines.val ≤ code.length) :
    (coveredLines settings code starts).length = starts.length * settings.blockLines.val := by
  induction starts with
  | nil => simp [coveredLines]
  | cons i starts ih =>
    have ih := ih fun j hj => hinside j (List.mem_cons_of_mem _ hj)
    rw [coveredLines, List.flatMap_cons, List.length_append, List.length_map,
      length_stretch (hinside i List.mem_cons_self), ← coveredLines, ih, List.length_cons,
      Nat.succ_mul, Nat.add_comm]

/-- **Blocks that do not overlap cover each line once.** -/
theorem pairwise_coveredLines (hnumbers : NumbersIncrease code) {starts : List Nat}
    (hapart : starts.Pairwise fun i j => i + settings.blockLines.val ≤ j) :
    (coveredLines settings code starts).Pairwise (· < ·) := by
  refine List.pairwise_flatMap.2 ⟨?_, ?_⟩
  · intro i _
    exact List.pairwise_map.2 ((hnumbers.drop).take)
  · refine hapart.imp ?_
    intro i j hij n hn m hm
    obtain ⟨s, hs, rfl⟩ := List.mem_map.1 hn
    obtain ⟨t, ht, rfl⟩ := List.mem_map.1 hm
    obtain ⟨k, _, hk, _, hs⟩ := exists_place_of_mem_stretch hs
    obtain ⟨k', hk', _, hlength, ht⟩ := exists_place_of_mem_stretch ht
    rw [hs, ht]
    exact lineNumber_lt hnumbers (by omega) hlength

/-! ## Blocks of a cluster -/

theorem apart_keptPlaces :
    (keptPlaces settings code shape).Pairwise fun i j => i + settings.blockLines.val ≤ j :=
  List.pairwise_map.2 (pairwise_thin _ _ _)

/-- **A block shape is looked for in the places where its blocks are kept.** -/
theorem eq_of_mem_blocksByShape {places : List Occurrence}
    (h : (shape, places) ∈ blocksByShape settings code) :
    places = (keptPlaces settings code shape).map (occurrenceAt settings code) := by
  have hkeys : ((blocksByShape settings code).map (·.1)).Nodup := by
    rw [blocksByShape, List.map_map]
    exact nodup_keys_group _
  obtain ⟨⟨_, found⟩, hfound, he⟩ := List.mem_map.1 h
  cases he
  obtain ⟨hne, hmem⟩ := mem_group hfound
  obtain ⟨⟨i, window⟩, hentry⟩ := List.exists_mem_of_ne_nil found hne
  obtain ⟨⟨_, _⟩, hblock, he⟩ := List.mem_map.1 (hmem _ hentry)
  cases he
  have hlisted : (i, window) ∈ blocksOf settings code (window.map ShapedLine.shape) :=
    List.mem_filter.2 ⟨hblock, decide_eq_true rfl⟩
  -- the shape has a block, so that its kept places are listed, and it is listed once
  have hkept := mem_blocksByShape_of_isBlockAt (mem_blocksOf.1 hlisted).1
  exact (Prod.mk.inj (List.inj_on_of_nodup_map hkeys h hkept rfl)).2

/-- **The blocks of a cluster are repeated**, if they are enough. -/
theorem exists_isRepeated (hnumbers : NumbersIncrease code) {c : List Occurrence}
    (hc : c ∈ clusters Occurrence.number settings.window.val
      ((keptPlaces settings code shape).map (occurrenceAt settings code)))
    (henough : settings.minBlockRepeats.val ≤ c.length) :
    ∃ starts, IsRepeated settings code shape starts ∧
      c = starts.map (occurrenceAt settings code) := by
  obtain ⟨starts, hstarts, rfl⟩ := List.sublist_map_iff.1 (sublist_of_mem_clusters hc)
  have hnear := isNearChain_of_mem_clusters (pairwise_occurrences hnumbers) hc
  refine ⟨starts, ⟨?_, ?_, ?_, ?_⟩, rfl⟩
  · exact fun i hi => isBlockAt_of_mem_keptPlaces (hstarts.subset hi)
  · exact (apart_keptPlaces.sublist hstarts).isChain
  · exact ((List.isChain_map _).1 hnear).imp fun _ _ h => h.2
  · rwa [List.length_map] at henough

/-- The blocks that are looked up by the numbers of a cluster are those of the cluster. -/
theorem filter_places {places cluster : List Occurrence}
    (hincrease : places.Pairwise fun o o' => o.number < o'.number)
    (hsub : cluster.Sublist places) :
    places.filter (fun o => (cluster.map Occurrence.number).contains o.number) = cluster := by
  refine eq_of_increasing (hincrease.filter _) (hincrease.sublist hsub) fun o => ?_
  rw [mem_covered]
  constructor
  · rintro ⟨ho, o', ho', he⟩
    have hnumbers := List.pairwise_map.2 (hincrease.imp Nat.ne_of_lt)
    rwa [← List.inj_on_of_nodup_map hnumbers (hsub.subset ho') ho he]
  · exact fun ho => ⟨hsub.subset ho, o, ho, rfl⟩

theorem IsRepeated.apart_all {starts : List Nat} (h : IsRepeated settings code shape starts) :
    starts.Pairwise fun i j => i + settings.blockLines.val ≤ j := by
  have : Trans (fun i j => i + settings.blockLines.val ≤ j)
      (fun i j => i + settings.blockLines.val ≤ j) (fun i j => i + settings.blockLines.val ≤ j) :=
    ⟨fun {_ _ _} hij hjk => by omega⟩
  exact h.apart.pairwise

/-! ## Findings -/

/-- What a finding says of blocks: how many they are, their shape, and their lines, which are as
many times the length of a block as there are blocks. Where lines are numbered from one the finding
is a pattern on just these lines. -/
structure TellsOfBlocks (settings : StructureSettings) (code : List ShapedLine)
    (shape : BlockShape) (starts : List Nat) (f : Finding) : Prop where
  kind_eq : f.kind = .structural
  description_eq : f.description = Nat.repr settings.blockLines.val ++
    "-line block shape repeated " ++ Nat.repr starts.length ++ " times"
  confidence_eq : f.confidence = confidence starts.length (total (shape.map List.length))
  signature_eq : f.signature = " / ".intercalate (shape.map Shape.text)
  lines_eq : f.lines = (coveredLines settings code starts).map fun (n : Nat) => (n : Int)
  increase : (coveredLines settings code starts).Pairwise (· < ·)
  length_eq : (coveredLines settings code starts).length =
    starts.length * settings.blockLines.val
  pattern : (∀ s ∈ code, 1 ≤ s.line.number) →
    ∃ p, f.check = .ok p ∧ p.lines = coveredLines settings code starts

theorem IsRepeated.tellsOfBlocks (hnumbers : NumbersIncrease code) {starts : List Nat}
    (h : IsRepeated settings code shape starts) {places : List Occurrence}
    (hplaces : places.Pairwise fun o o' => o.number < o'.number)
    (hsub : (starts.map (occurrenceAt settings code)).Sublist places) :
    TellsOfBlocks settings code shape starts
      (blockFinding settings shape places (starts.map (occurrenceAt settings code))) := by
  have hlines : (blockFinding settings shape places
        (starts.map (occurrenceAt settings code))).lines =
      (coveredLines settings code starts).map fun (n : Nat) => (n : Int) := by
    rw [blockFinding, filter_places hplaces hsub, List.flatMap_map, coveredLines,
      List.map_flatMap]
    simp only [List.map_map]
    rfl
  have hincrease := pairwise_coveredLines hnumbers h.apart_all
  have hlength := length_coveredLines fun i hi => (h.blocks i hi).inside
  have hrepeats := List.length_pos_of_ne_nil h.ne_nil
  refine ⟨rfl, ?_, ?_, rfl, hlines, hincrease, hlength, ?_⟩
  · rw [blockFinding, List.length_map]
  · rw [blockFinding, List.length_map]
  · intro hpos
    have hbounds := confidence_bounds hrepeats (total (shape.map List.length))
    refine Finding.gives_pattern_of_increasing hlines ?_ ?_ hincrease ?_
    · apply List.ne_nil_of_length_pos
      rw [hlength]
      exact Nat.mul_pos hrepeats (blockLines_pos settings)
    · rw [blockFinding, List.length_map]
      exact ⟨Int.le_trans (by decide) hbounds.1, Int.le_trans hbounds.2 (by decide)⟩
    · intro n hn
      obtain ⟨i, _, hn⟩ := List.mem_flatMap.1 hn
      obtain ⟨s, hs, rfl⟩ := List.mem_map.1 hn
      exact hpos s (List.mem_of_mem_drop (List.mem_of_mem_take hs))

/-- **What is told of blocks is repeated.** In code whose lines are in the order of their numbers,
each finding of blocks tells of blocks of one shape that do not overlap, each of which begins near
the one before it, and it covers the lines of these blocks, all of them different. No shape is
looked for without a place, and no cluster of places is empty. -/
theorem told_blocks_repeated (settings : StructureSettings) {code : List ShapedLine}
    (hnumbers : NumbersIncrease code) :
    (∀ entry ∈ blocksByShape settings code, entry.2 ≠ [] ∧
      ∀ c ∈ clusters Occurrence.number settings.window.val entry.2, c ≠ []) ∧
    ∃ found, blockRepeats settings code = .ok found ∧ ∀ f ∈ found, ∃ shape starts,
      IsRepeated settings code shape starts ∧ TellsOfBlocks settings code shape starts f := by
  refine ⟨fun entry hentry => ⟨blocksByShape_ne_nil entry hentry,
    fun c hc => ne_nil_of_mem_clusters hc⟩, _, blockRepeats_eq settings code, ?_⟩
  intro f hf
  split at hf
  · cases hf
  · obtain ⟨⟨shape, places⟩, hentry, c, hc, hf⟩ := mem_findingsIn.1 hf
    obtain rfl := eq_of_mem_blocksByShape hentry
    rw [blockFinding?] at hf
    split at hf
    · cases hf
    · rename_i henough
      cases hf
      obtain ⟨starts, hrepeated, rfl⟩ := exists_isRepeated hnumbers hc (Nat.not_lt.1 henough)
      exact ⟨shape, starts, hrepeated, hrepeated.tellsOfBlocks hnumbers
        (pairwise_occurrences hnumbers) (sublist_of_mem_clusters hc)⟩

/-- Of three blocks of one shape the second overlaps the first: two are told, and the lines between
them are not covered. -/
theorem overlapping_block_not_told :
    let settings := Settings.standard.structural
    let code := codeOf ["a = f(b)", "g(c)", "a = f(b)", "g(c)", "a = f(b)", "a = f(b)", "g(c)",
      "a = f(b)"]
    NumbersIncrease code ∧
      (∀ entry ∈ blocksByShape settings code, entry.2 ≠ [] ∧
        ∀ c ∈ clusters Occurrence.number settings.window.val entry.2, c ≠ []) ∧
      ∃ found, blockRepeats settings code = .ok found ∧
        (∀ f ∈ found, ∃ shape starts, IsRepeated settings code shape starts ∧
          TellsOfBlocks settings code shape starts f) ∧
        found.map Finding.lines = [[1, 2, 3, 6, 7, 8]] := by
  intro settings code
  have hnumbers : NumbersIncrease code := by decide +kernel
  obtain ⟨hgroups, found, hfound, htells⟩ := told_blocks_repeated settings hnumbers
  have hlines : List.map Finding.lines <$> blockRepeats settings code =
      .ok [[1, 2, 3, 6, 7, 8]] := by
    decide +kernel
  rw [hfound] at hlines
  exact ⟨hnumbers, hgroups, found, hfound, htells, Except.ok.inj hlines⟩

end Provenance.Detect.Structure

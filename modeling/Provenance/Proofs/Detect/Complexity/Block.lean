import Provenance.Proofs.Detect.Complexity

/-!
# Proofs — Detect — Complexity — Block

Which lines of code the complexity detector judges. Code of more than two pieces gives up its first
piece, as a block if it is long enough, and goes on with what is left (`blocks_of_more`). So the
blocks end where the code ends, and nothing is left out if pieces are long enough to be judged, or
if there are no more than two of them; otherwise at most the end of the code is judged
(`blocks_end_code`).
-/

namespace Provenance.Detect.Complexity

variable {settings : ComplexitySettings} {code : List Line}

/-! ## Blocks by the length of the code -/

theorem blockLines_pos (settings : ComplexitySettings) : 0 < settings.blockLines.val := by
  have h : 4 ≤ settings.blockLines.val := settings.blockLines.property
  omega

theorem minBlockLines_pos (settings : ComplexitySettings) : 0 < settings.minBlockLines.val := by
  have h : 4 ≤ settings.minBlockLines.val := settings.minBlockLines.property
  omega

/-- Blocks in front of the last two are not joined. -/
theorem joinShortTail_cons {minLines : Nat} {b : List Line} {bs : List (List Line)}
    (h : 2 ≤ bs.length) : joinShortTail minLines (b :: bs) = b :: joinShortTail minLines bs := by
  cases bs with
  | nil => simp at h
  | cons c bs =>
    cases bs with
    | nil => simp at h
    | cons d bs => rfl

/-- Code that fits into one piece is one block. -/
theorem blocks_of_le (h : code.length ≤ settings.blockLines.val) :
    blocks settings code =
      if settings.minBlockLines.val ≤ code.length then [code] else [] := by
  have hmin := minBlockLines_pos settings
  by_cases hne : code = []
  · subst hne
    simp [blocks, chunks, joinShortTail, Nat.ne_of_gt hmin]
  · rw [blocks, chunks_of_le hne h, joinShortTail]
    by_cases hlong : settings.minBlockLines.val ≤ code.length <;> simp [hlong]

/-- Two pieces are joined if the second is too short to be judged. -/
theorem blocks_of_two (hlt : settings.blockLines.val < code.length)
    (hle : code.length ≤ 2 * settings.blockLines.val) :
    blocks settings code =
      ((if code.length - settings.blockLines.val < settings.minBlockLines.val then [code]
        else [code.take settings.blockLines.val, code.drop settings.blockLines.val]).filter
          fun b => decide (settings.minBlockLines.val ≤ b.length)) := by
  have hne : code.drop settings.blockLines.val ≠ [] := by
    intro hnil
    have := List.drop_eq_nil_iff.1 hnil
    omega
  have hchunks : chunks settings.blockLines.val code =
      [code.take settings.blockLines.val, code.drop settings.blockLines.val] := by
    rw [chunks_of_lt (blockLines_pos settings) hlt,
      chunks_of_le hne (by rw [List.length_drop]; omega)]
  rw [blocks, hchunks, joinShortTail, List.length_drop, List.take_append_drop]

/-- **Of more than two pieces the first is a block by itself**, if it is long enough. -/
theorem blocks_of_more (h : 2 * settings.blockLines.val < code.length) :
    blocks settings code =
      (if settings.minBlockLines.val ≤ settings.blockLines.val then
        [code.take settings.blockLines.val] else []) ++
      blocks settings (code.drop settings.blockLines.val) := by
  have hsize := blockLines_pos settings
  have hrest : settings.blockLines.val < (code.drop settings.blockLines.val).length := by
    rw [List.length_drop]
    omega
  have hpieces : 2 ≤ (chunks settings.blockLines.val
      (code.drop settings.blockLines.val)).length := by
    rw [chunks_of_lt hsize hrest, List.length_cons]
    have hmore : chunks settings.blockLines.val
        ((code.drop settings.blockLines.val).drop settings.blockLines.val) ≠ [] := by
      intro hnil
      have hflat := flatten_chunks hsize
        ((code.drop settings.blockLines.val).drop settings.blockLines.val)
      rw [hnil, List.flatten_nil] at hflat
      have := List.drop_eq_nil_iff.1 hflat.symm
      omega
    have := List.length_pos_iff.2 hmore
    omega
  have hlength : (code.take settings.blockLines.val).length = settings.blockLines.val := by
    rw [List.length_take]
    omega
  rw [blocks, chunks_of_lt hsize (by omega), joinShortTail_cons hpieces, List.filter_cons, hlength]
  by_cases hlong : settings.minBlockLines.val ≤ settings.blockLines.val
  · simp [hlong, blocks]
  · simp [hlong, blocks]

/-! ## Judged code -/

theorem long_of_mem_blocks {b : List Line} (h : b ∈ blocks settings code) :
    settings.minBlockLines.val ≤ b.length :=
  of_decide_eq_true (List.mem_filter.1 h).2

/-- Code of two pieces at most is judged, if it is long enough. -/
theorem flatten_blocks_of_le (hlong : settings.minBlockLines.val ≤ code.length)
    (h : code.length ≤ 2 * settings.blockLines.val) : (blocks settings code).flatten = code := by
  by_cases hone : code.length ≤ settings.blockLines.val
  · rw [blocks_of_le hone]
    simp [hlong]
  · rw [blocks_of_two (by omega) h]
    by_cases hjoin : code.length - settings.blockLines.val < settings.minBlockLines.val
    · simp [hjoin, hlong]
    · -- the second piece is long enough, and so is the first, which is no shorter
      have hsecond : settings.minBlockLines.val ≤ code.length - settings.blockLines.val := by omega
      have hfirst : settings.minBlockLines.val ≤ settings.blockLines.val := by omega
      simp [hjoin, hsecond, hfirst, hlong]

/-- **Pieces that are long enough to be judged leave no line out.** -/
theorem flatten_blocks (hpieces : settings.minBlockLines.val ≤ settings.blockLines.val)
    {code : List Line} (hlong : settings.minBlockLines.val ≤ code.length) :
    (blocks settings code).flatten = code := by
  by_cases h : code.length ≤ 2 * settings.blockLines.val
  · exact flatten_blocks_of_le hlong h
  · have hsize := blockLines_pos settings
    have hrest : settings.minBlockLines.val ≤ (code.drop settings.blockLines.val).length := by
      rw [List.length_drop]
      omega
    rw [blocks_of_more (by omega), if_pos hpieces, List.flatten_append,
      flatten_blocks hpieces hrest]
    simp
termination_by code.length
decreasing_by
  rw [List.length_drop]
  omega

/-- **Of pieces that are too short to be judged only the last two can make a block.** -/
theorem exists_blocks_eq (hpieces : settings.blockLines.val < settings.minBlockLines.val)
    (code : List Line) :
    ∃ back, back <:+ code ∧ back.length ≤ 2 * settings.blockLines.val ∧
      blocks settings code = if settings.minBlockLines.val ≤ back.length then [back] else [] := by
  by_cases h : code.length ≤ 2 * settings.blockLines.val
  · refine ⟨code, List.suffix_refl code, h, ?_⟩
    by_cases hone : code.length ≤ settings.blockLines.val
    · exact blocks_of_le hone
    · rw [blocks_of_two (by omega) h, if_pos (by omega)]
      by_cases hlong : settings.minBlockLines.val ≤ code.length <;> simp [hlong]
  · have hsize := blockLines_pos settings
    obtain ⟨back, hback, hlength, hblocks⟩ :=
      exists_blocks_eq hpieces (code.drop settings.blockLines.val)
    refine ⟨back, hback.trans (List.drop_suffix _ code), hlength, ?_⟩
    rw [blocks_of_more (by omega), if_neg (by omega), hblocks, List.nil_append]
termination_by code.length
decreasing_by
  rw [List.length_drop]
  omega

/-- How much of some code its blocks hold. -/
structure EndsCode (settings : ComplexitySettings) (code : List Line) (bs : List (List Line)) :
    Prop where
  /-- Each block is long enough to be judged. -/
  long : ∀ b ∈ bs, settings.minBlockLines.val ≤ b.length
  /-- The blocks are consecutive stretches of the code, and end where it ends. -/
  suffix : bs.flatten <:+ code
  /-- They are the whole code if pieces are long enough to be judged, or two at most. -/
  whole_iff : bs.flatten = code ↔
    settings.minBlockLines.val ≤ settings.blockLines.val ∨
      code.length ≤ 2 * settings.blockLines.val
  /-- Of pieces that are too short there is one block at most, of two pieces at most. -/
  short : settings.blockLines.val < settings.minBlockLines.val →
    bs.length ≤ 1 ∧ bs.flatten.length ≤ 2 * settings.blockLines.val

/-- **The blocks of code hold the code up to its end**: the whole of it if pieces are long enough to
be judged or two at most, and the last two pieces at most in all other cases. -/
theorem blocks_end_code (settings : ComplexitySettings) {code : List Line}
    (hlong : settings.minBlockLines.val ≤ code.length) :
    EndsCode settings code (blocks settings code) := by
  by_cases hpieces : settings.minBlockLines.val ≤ settings.blockLines.val
  · have hflatten := flatten_blocks hpieces hlong
    refine ⟨fun b hb => long_of_mem_blocks hb, ?_, ?_, ?_⟩
    · rw [hflatten]
    · simp [hflatten, hpieces]
    · intro hshort
      omega
  · obtain ⟨back, hback, hlength, hblocks⟩ := exists_blocks_eq (Nat.not_le.1 hpieces) code
    have hflatten : (blocks settings code).flatten <:+ back := by
      rw [hblocks]
      split <;> simp
    refine ⟨fun b hb => long_of_mem_blocks hb, hflatten.trans hback, ⟨?_, ?_⟩, fun _ => ⟨?_, ?_⟩⟩
    · intro hwhole
      have := hflatten.length_le
      rw [hwhole] at this
      omega
    · intro h
      exact flatten_blocks_of_le hlong (h.resolve_left hpieces)
    · rw [hblocks]
      split <;> simp
    · exact hflatten.length_le.trans hlength

/-- Lines of code that all look the same. -/
def uniformCode (count : Nat) : List Line :=
  (List.range count).map fun i => ⟨i + 1, "total = total + value".toList, .code⟩

/-- Twenty-six lines are three pieces, of which the last is too short to stand by itself. -/
theorem standard_blocks_end_code :
    let settings := Settings.standard.complexity
    let code := uniformCode 26
    settings.minBlockLines.val ≤ code.length ∧ EndsCode settings code (blocks settings code) ∧
      (blocks settings code).map List.length = [12, 14] := by
  intro settings code
  have hlong : settings.minBlockLines.val ≤ code.length := by decide
  refine ⟨hlong, blocks_end_code settings hlong, ?_⟩
  decide +kernel

/-- Twelve lines are three pieces of four lines: the first is not judged, since a block has eight
lines. -/
theorem short_pieces_not_judged :
    let settings : ComplexitySettings := { blockLines := ⟨4, by decide⟩ }
    let code := uniformCode 12
    settings.minBlockLines.val ≤ code.length ∧
      (blocks settings code).map (List.map Line.number) = [[5, 6, 7, 8, 9, 10, 11, 12]] ∧
      (blocks settings code).flatten ≠ code := by
  decide +kernel

end Provenance.Detect.Complexity

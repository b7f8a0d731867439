import Provenance.Detect.Structure
import Provenance.Proofs.Detect.Evidence
import Provenance.Proofs.Grouping

/-!
# Proofs — Detect — Structure

The structure detector finishes on every file, since a shape is only looked for where it occurs:
repetitions are read off the clusters of each shape (`lineRepeats_eq`, `blockRepeats_eq`). What it
finds is sound, lines of code in clusters or in blocks (`gives_detect`). It looks at the distances
of lines, at their shapes and at imports only, so a change of the lines that keeps these keeps what
is found (`detect_changed`).
-/

namespace Provenance.Detect.Structure

open Lexis

variable {settings : StructureSettings} {ls : List Line}

/-- Lines in the order of their file. -/
abbrev NumbersIncrease (code : List ShapedLine) : Prop :=
  code.Pairwise fun s t => s.line.number < t.line.number

theorem blockLines_pos (settings : StructureSettings) : 0 < settings.blockLines.val :=
  Nat.lt_of_lt_of_le Nat.two_pos settings.blockLines.property

/-! ## Repetitions -/

/-- The findings in the clusters of each shape. -/
def findingsIn {κ α : Type} (settings : StructureSettings) (number : α → Nat)
    (finding? : κ → List α → List α → Option Finding) (places : List (κ × List α)) :
    List Finding :=
  places.flatMap fun entry =>
    (clusters number settings.window.val entry.2).filterMap (finding? entry.1 entry.2)

theorem mapM_clustersOf {κ α : Type} {number : α → Nat} {places : List (κ × List α)}
    (finding? : κ → List α → List α → Option Finding) (hne : ∀ entry ∈ places, entry.2 ≠ []) :
    (places.mapM fun (key, members) => do
      return (← clustersOf settings number members).filterMap (finding? key members)) =
    .ok (places.map fun entry =>
      (clusters number settings.window.val entry.2).filterMap (finding? entry.1 entry.2)) := by
  induction places with
  | nil => rfl
  | cons entry places ih =>
    have ih := ih fun entry' hentry' => hne entry' (List.mem_cons_of_mem _ hentry')
    have hclusters : clustersOf settings number entry.2 =
        .ok (clusters number settings.window.val entry.2) :=
      if_neg (hne entry List.mem_cons_self)
    simp only [List.mapM_cons, ih, hclusters]
    rfl

theorem linesByShape_ne_nil {code : List ShapedLine} :
    ∀ entry ∈ linesByShape settings code, entry.2 ≠ [] :=
  fun _ hentry => (mem_group hentry).1

theorem blocksByShape_ne_nil {code : List ShapedLine} :
    ∀ entry ∈ blocksByShape settings code, entry.2 ≠ [] := by
  intro entry hentry hnil
  obtain ⟨found, hfound, rfl⟩ := List.mem_map.1 hentry
  -- the first place of a shape overlaps none before it
  exact thin_ne_nil (mem_group hfound).1 (List.map_eq_nil_iff.1 hnil)

/-- **Line shapes are repeated in the clusters of each shape.** -/
theorem lineRepeats_eq (settings : StructureSettings) (code : List ShapedLine) :
    lineRepeats settings code =
      .ok (findingsIn settings Line.number (fun shape _ => lineFinding? settings shape)
        (linesByShape settings code)) := by
  rw [lineRepeats, mapM_clustersOf (fun shape _ => lineFinding? settings shape) linesByShape_ne_nil]
  rfl

/-- **Block shapes are repeated in the clusters of each shape**, in files that are long enough. -/
theorem blockRepeats_eq (settings : StructureSettings) (code : List ShapedLine) :
    blockRepeats settings code =
      .ok (if code.length < settings.blockLines.val * settings.minBlockRepeats.val then []
        else findingsIn settings Occurrence.number (blockFinding? settings)
          (blocksByShape settings code)) := by
  rw [blockRepeats]
  split
  · rfl
  · rw [mapM_clustersOf (blockFinding? settings) blocksByShape_ne_nil]
    rfl

/-- A finding is one of a cluster of the places of a shape. -/
theorem mem_findingsIn {κ α : Type} {number : α → Nat} {places : List (κ × List α)}
    {finding? : κ → List α → List α → Option Finding} {f : Finding} :
    f ∈ findingsIn settings number finding? places ↔
      ∃ entry ∈ places, ∃ c ∈ clusters number settings.window.val entry.2,
        finding? entry.1 entry.2 c = some f := by
  simp only [findingsIn, List.mem_flatMap, List.mem_filterMap]

/-! ## Confidence -/

theorem confidence_bounds {repeats : Nat} (h : 0 < repeats) (tokens : Nat) :
    25 ≤ confidence repeats tokens ∧ confidence repeats tokens ≤ 95 := by
  rw [confidence]
  omega

/-- Lines of code that are repeated make a sound finding. -/
theorem isSound_of_code {repeats tokens : Nat} (h : 0 < repeats) {f : Finding}
    (hk : f.kind = .structural) (hc : f.confidence = confidence repeats tokens)
    (hne : f.lines ≠ []) (hcode : OfCode ls f.lines) : IsSound ls .structural f := by
  have hbounds := confidence_bounds h tokens
  exact ⟨hk, by omega, by omega, hne, hcode⟩

theorem mem_shapedLines {s : ShapedLine} (h : s ∈ shapedLines ls) : s.line ∈ codeLines ls := by
  obtain ⟨l, hl, rfl⟩ := List.mem_map.1 h
  exact hl

/-! ## Line shapes -/

theorem mem_linesByShape {shape : Shape} {lines : List Line}
    (h : (shape, lines) ∈ linesByShape settings (shapedLines ls)) :
    ∀ l ∈ lines, l ∈ codeLines ls := by
  intro l hl
  obtain ⟨s, hs, he⟩ := List.mem_map.1 ((mem_group h).2 l hl)
  cases he
  exact mem_shapedLines (List.mem_of_mem_filter hs)

/-- A cluster of lines of code makes a sound finding. -/
theorem isSound_of_lineFinding? {shape : Shape} {cluster : List Line}
    (hcode : ∀ l ∈ cluster, l ∈ codeLines ls) {f : Finding}
    (hf : lineFinding? settings shape cluster = some f) : IsSound ls .structural f := by
  cases cluster with
  | nil => cases hf
  | cons first rest =>
    rw [lineFinding?] at hf
    split at hf
    · cases hf
    · cases hf
      refine isSound_of_code (List.length_pos_of_ne_nil (List.cons_ne_nil first rest)) rfl rfl
        (List.cons_ne_nil _ _) (ofCode_block hcode)

theorem gives_lineRepeats :
    Gives (lineRepeats settings (shapedLines ls)) fun fs => ∀ f ∈ fs, IsSound ls .structural f := by
  rw [lineRepeats_eq]
  refine .ok fun f hf => ?_
  obtain ⟨entry, hentry, c, hc, hf⟩ := mem_findingsIn.1 hf
  exact isSound_of_lineFinding?
    (fun l hl => mem_linesByShape hentry l (mem_of_mem_clusters hc hl)) hf

/-! ## Block shapes -/

/-- Each block has lines, all of them lines of code. -/
theorem mem_blocksByShape {shape : BlockShape} {places : List Occurrence}
    (h : (shape, places) ∈ blocksByShape settings (shapedLines ls)) :
    ∀ o ∈ places, o.lines ≠ [] ∧ ∀ s ∈ o.lines, s.line ∈ codeLines ls := by
  obtain ⟨⟨shape', found⟩, hfound, he⟩ := List.mem_map.1 h
  cases he
  intro o ho
  obtain ⟨⟨i, window⟩, hthin, rfl⟩ := List.mem_map.1 ho
  obtain ⟨⟨j, window'⟩, hwindow, he⟩ :=
    List.mem_map.1 ((mem_group hfound).2 _ ((thin_sublist _ _ _).subset hthin))
  cases he
  obtain ⟨hlen, hcode⟩ := mem_windows (List.mem_of_mem_filter hwindow)
  refine ⟨?_, fun s hs => mem_shapedLines (hcode s hs)⟩
  exact List.ne_nil_of_length_pos (hlen ▸ blockLines_pos settings)

/-- The places that a cluster covers are places of the shape, those of the cluster among them. -/
theorem mem_covered {places cluster : List Occurrence} {o : Occurrence} :
    o ∈ places.filter (fun o => (cluster.map Occurrence.number).contains o.number) ↔
      o ∈ places ∧ ∃ c ∈ cluster, c.number = o.number := by
  simp only [List.mem_filter, List.contains_iff_mem, List.mem_map]

/-- A cluster of blocks makes a sound finding. -/
theorem isSound_of_blockFinding? {shape : BlockShape} {places cluster : List Occurrence}
    (hne : cluster ≠ []) (hplaces : ∀ o ∈ cluster, o ∈ places)
    (hcode : ∀ o ∈ places, o.lines ≠ [] ∧ ∀ s ∈ o.lines, s.line ∈ codeLines ls) {f : Finding}
    (hf : blockFinding? settings shape places cluster = some f) : IsSound ls .structural f := by
  rw [blockFinding?] at hf
  split at hf
  · cases hf
  · cases hf
    refine isSound_of_code (List.length_pos_of_ne_nil hne) rfl rfl ?_ ?_
    · obtain ⟨o, ho⟩ := List.exists_mem_of_ne_nil cluster hne
      have hcovered := mem_covered.2 ⟨hplaces o ho, o, ho, rfl⟩
      obtain ⟨s, hs⟩ := List.exists_mem_of_ne_nil o.lines (hcode o (hplaces o ho)).1
      exact List.ne_nil_of_mem (List.mem_flatMap.2 ⟨o, hcovered, List.mem_map_of_mem hs⟩)
    · intro n hn
      obtain ⟨o, ho, hn⟩ := List.mem_flatMap.1 hn
      obtain ⟨s, hs, rfl⟩ := List.mem_map.1 hn
      exact ⟨s.line, (hcode o (mem_covered.1 ho).1).2 s hs, rfl⟩

theorem gives_blockRepeats :
    Gives (blockRepeats settings (shapedLines ls)) fun fs =>
      ∀ f ∈ fs, IsSound ls .structural f := by
  rw [blockRepeats_eq]
  split
  · exact .ok fun f hf => absurd hf List.not_mem_nil
  refine .ok fun f hf => ?_
  obtain ⟨entry, hentry, c, hc, hf⟩ := mem_findingsIn.1 hf
  exact isSound_of_blockFinding? (ne_nil_of_mem_clusters hc)
    (fun o ho => mem_of_mem_clusters hc ho) (mem_blocksByShape hentry) hf

/-! ## The detector -/

/-- **The structure detector finds only lines of code.** -/
theorem gives_detect (settings : StructureSettings) (ls : List Line) :
    Gives (detect settings ls) fun fs => ∀ f ∈ fs, IsSound ls .structural f := by
  rw [detect]
  split
  · exact .pure (by simp)
  refine gives_lineRepeats.bind fun lines hl => gives_blockRepeats.bind fun blocks hb => .pure ?_
  intro f hf
  rcases List.mem_append.1 (List.mem_mergeSort.1 hf) with hf | hf
  · exact hl f hf
  · exact hb f hf

/-! ## Changed lines -/

section Changed

variable (settings) {moved count : Nat} {change : Line → Line} {padded front back : List Line}

/-- A change of lines that keeps their distances, and which of them are imports. -/
structure KeepsPlaces (moved : Nat) (change : Line → Line) : Prop where
  number : ∀ l, (change l).number = l.number + moved
  isImport : ∀ l, isImport (change l).text = isImport l.text

/-- A changed line of the same shape. -/
def ShapedLine.changed (change : Line → Line) (s : ShapedLine) : ShapedLine :=
  { s with line := change s.line }

def Occurrence.changed (moved : Nat) (change : Line → Line) (o : Occurrence) : Occurrence :=
  ⟨o.number + moved, o.lines.map (ShapedLine.changed change)⟩

/-- Both kinds of repetitions are found in the same way, in the clusters of each shape. -/
theorem findingsIn_map {κ α β : Type} {f : α → β} {number : α → Nat} {number' : β → Nat}
    {places : List (κ × List α)} {finding? : κ → List α → List α → Option Finding}
    {finding?' : κ → List β → List β → Option Finding}
    (hnumber : ∀ x, number' (f x) = number x + moved)
    (hfinding : ∀ key members c, finding?' key (members.map f) (c.map f) =
      (finding? key members c).map (Finding.moveDown moved)) :
    findingsIn settings number' finding?' (places.map fun entry => (entry.1, entry.2.map f)) =
      (findingsIn settings number finding? places).map (Finding.moveDown moved) := by
  rw [findingsIn, findingsIn, List.flatMap_map, List.map_flatMap]
  congr 1
  funext entry
  rw [clusters_map f (fun x _ => hnumber x), List.filterMap_map, List.map_filterMap]
  congr 1
  funext c
  exact hfinding entry.1 entry.2 c

theorem linesByShape_changed (h : KeepsPlaces moved change) (code : List ShapedLine) :
    linesByShape settings (code.map (ShapedLine.changed change)) =
      (linesByShape settings code).map fun entry => (entry.1, entry.2.map change) := by
  unfold linesByShape
  rw [List.filter_map, List.map_map, ← group_map, List.map_map]
  simp only [Function.comp_def, ShapedLine.changed, h.isImport]
  rfl

theorem lineFinding_changed (h : KeepsPlaces moved change) (shape : Lexis.Shape) (first : Line)
    (rest : List Line) :
    lineFinding shape (change first) (rest.map change) =
      (lineFinding shape first rest).moveDown moved := by
  have hlast : ((change first :: rest.map change).getLast (by simp)).number =
      ((first :: rest).getLast (by simp)).number + moved := by
    have hmap := List.getLast_map (f := change) (l := first :: rest) (by simp)
    simp only [List.map_cons] at hmap
    rw [hmap, h.number]
  -- the lines span what they spanned before
  have hspan : ∀ n : Nat, ((n + moved : Nat) : Int) - (change first).number + 1 =
      (n : Int) - first.number + 1 := by
    intro n
    rw [h.number]
    omega
  simp only [lineFinding, Finding.moveDown, hlast, hspan, List.length_cons, List.length_map,
    List.map_cons, List.map_map]
  simp [h.number]

theorem lineFinding?_changed (h : KeepsPlaces moved change) (shape : Lexis.Shape)
    (cluster : List Line) :
    lineFinding? settings shape (cluster.map change) =
      (lineFinding? settings shape cluster).map (Finding.moveDown moved) := by
  cases cluster with
  | nil => rfl
  | cons first rest =>
    simp only [List.map_cons, lineFinding?, List.length_cons, List.length_map]
    split
    · rfl
    · rw [lineFinding_changed h, Option.map_some]

theorem lineRepeats_changed (h : KeepsPlaces moved change) (code : List ShapedLine) :
    lineRepeats settings (code.map (ShapedLine.changed change)) =
      List.map (Finding.moveDown moved) <$> lineRepeats settings code := by
  rw [lineRepeats_eq, lineRepeats_eq, linesByShape_changed settings h,
    findingsIn_map settings h.number fun shape _ => lineFinding?_changed settings h shape]
  rfl

/-- The place of a block is that of its first line. -/
def occurrenceOf (window : List ShapedLine) : Occurrence :=
  ⟨(window.head?.map fun s => s.line.number).getD 0, window⟩

theorem occurrenceOf_changed (h : KeepsPlaces moved change) {window : List ShapedLine}
    (hne : window ≠ []) :
    occurrenceOf (window.map (ShapedLine.changed change)) =
      (occurrenceOf window).changed moved change := by
  cases window with
  | nil => exact absurd rfl hne
  | cons s rest => simp [occurrenceOf, Occurrence.changed, ShapedLine.changed, h.number]

theorem isBlock_changed (h : KeepsPlaces moved change) (window : List ShapedLine) :
    isBlock settings (window.map (ShapedLine.changed change)) = isBlock settings window := by
  simp only [isBlock, List.map_map, List.any_map, Function.comp_def, ShapedLine.changed, h.isImport]

theorem blocksByShape_changed (h : KeepsPlaces moved change) (code : List ShapedLine) :
    blocksByShape settings (code.map (ShapedLine.changed change)) =
      (blocksByShape settings code).map
        fun entry => (entry.1, entry.2.map (Occurrence.changed moved change)) := by
  have hshapes : ∀ window : List ShapedLine,
      (window.map (ShapedLine.changed change)).map ShapedLine.shape =
        window.map ShapedLine.shape := by
    intro window
    rw [List.map_map]
    rfl
  unfold blocksByShape
  simp only [windows_map, List.filter_map, Function.comp_def, isBlock_changed settings h,
    List.map_map, hshapes]
  have hgroup := group_map (fun place : Nat × List ShapedLine =>
    (place.1, place.2.map (ShapedLine.changed change)))
    (((windows settings.blockLines.val code).filter fun place => isBlock settings place.2).map
      fun place => (place.2.map ShapedLine.shape, place))
  simp only [List.map_map, Function.comp_def] at hgroup
  rw [hgroup, List.map_map]
  apply List.map_congr_left
  intro entry hentry
  obtain ⟨shape, found⟩ := entry
  simp only [Function.comp_apply, thin_map, List.map_map]
  congr 1
  apply List.map_congr_left
  intro place hplace
  obtain ⟨i, window⟩ := place
  -- a window is as long as a block
  have hwindow : (i, window) ∈ windows settings.blockLines.val code := by
    obtain ⟨place, hmem, he⟩ :=
      List.mem_map.1 ((mem_group hentry).2 _ ((thin_sublist _ _ _).subset hplace))
    cases he
    exact List.mem_of_mem_filter hmem
  apply occurrenceOf_changed h
  exact List.ne_nil_of_length_pos ((mem_windows hwindow).1 ▸ blockLines_pos settings)

theorem blockFinding?_changed (h : KeepsPlaces moved change) (shape : BlockShape)
    (places cluster : List Occurrence) :
    blockFinding? settings shape (places.map (Occurrence.changed moved change))
        (cluster.map (Occurrence.changed moved change)) =
      (blockFinding? settings shape places cluster).map (Finding.moveDown moved) := by
  have hcovered : ∀ o : Occurrence,
      ((cluster.map (Occurrence.changed moved change)).map Occurrence.number).contains
        (o.changed moved change).number = (cluster.map Occurrence.number).contains o.number := by
    intro o
    rw [Bool.eq_iff_iff]
    simp [Occurrence.changed]
  unfold blockFinding?
  rw [List.length_map]
  split
  · rfl
  · simp only [blockFinding, Finding.moveDown, Option.map_some, List.length_map, List.filter_map,
      List.flatMap_map, List.map_flatMap, Function.comp_def, hcovered]
    simp [Occurrence.changed, ShapedLine.changed, h.number, Function.comp_def]

theorem blockRepeats_changed (h : KeepsPlaces moved change) (code : List ShapedLine) :
    blockRepeats settings (code.map (ShapedLine.changed change)) =
      List.map (Finding.moveDown moved) <$> blockRepeats settings code := by
  have hnumber : ∀ o : Occurrence, (o.changed moved change).number = o.number + moved :=
    fun _ => rfl
  rw [blockRepeats_eq, blockRepeats_eq, blocksByShape_changed settings h, List.length_map,
    findingsIn_map settings hnumber (blockFinding?_changed settings h)]
  split <;> rfl

theorem firstLine_moveDown {f : Finding} (hne : f.lines ≠ []) :
    firstLine (f.moveDown moved) = firstLine f + moved := by
  obtain ⟨least, hleast⟩ := Option.isSome_iff_exists.1 (List.isSome_min?_of_ne_nil hne)
  obtain ⟨hmem, hle⟩ := List.min?_eq_some_iff.1 hleast
  have hleast' : (f.moveDown moved).lines.min? = some (least + moved) := by
    apply List.min?_eq_some_iff.2
    refine ⟨List.mem_map_of_mem hmem, ?_⟩
    intro n hn
    obtain ⟨m, hm, rfl⟩ := List.mem_map.1 hn
    have := hle m hm
    omega
  rw [firstLine, firstLine, hleast, hleast']
  rfl

theorem comesBefore_moveDown {f g : Finding} (hf : f.lines ≠ []) (hg : g.lines ≠ []) :
    comesBefore (f.moveDown moved) (g.moveDown moved) = comesBefore f g := by
  have hlt : firstLine f + (moved : Int) < firstLine g + moved ↔ firstLine f < firstLine g := by
    omega
  have heq : (firstLine f + (moved : Int) == firstLine g + moved) =
      (firstLine f == firstLine g) := by
    rw [Bool.eq_iff_iff, beq_iff_eq, beq_iff_eq]
    omega
  unfold comesBefore
  rw [firstLine_moveDown hf, firstLine_moveDown hg, heq]
  simp only [hlt]
  rfl

/-- **The detector looks at shapes, distances and imports only.** -/
theorem detect_changed (h : KeepsPlaces moved change) {changed : List Line}
    (hshapes : shapedLines changed = (shapedLines ls).map (ShapedLine.changed change)) :
    detect settings changed = List.map (Finding.moveDown moved) <$> detect settings ls := by
  obtain ⟨lines, hlines, hsound⟩ : Gives (lineRepeats settings (shapedLines ls)) _ :=
    gives_lineRepeats
  obtain ⟨blocks, hblocks, hsound'⟩ : Gives (blockRepeats settings (shapedLines ls)) _ :=
    gives_blockRepeats
  unfold detect
  simp only [hshapes, List.length_map, lineRepeats_changed settings h,
    blockRepeats_changed settings h, hlines, hblocks]
  split
  · rfl
  · have hne : ∀ f ∈ lines ++ blocks, f.lines ≠ [] := by
      intro f hf
      rcases List.mem_append.1 hf with hf | hf
      · exact (hsound f hf).lines_ne
      · exact (hsound' f hf).lines_ne
    show Except.ok ((lines.map _ ++ blocks.map _).mergeSort comesBefore) =
      Except.ok (((lines ++ blocks).mergeSort comesBefore).map (Finding.moveDown moved))
    rw [← List.map_append, List.map_mergeSort]
    intro f hf g hg
    exact (comesBefore_moveDown (hne f hf) (hne g hg)).symm

/-- Lines that are moved down keep their distances. -/
theorem keepsPlaces_moveDown : KeepsPlaces moved (Line.moveDown moved) :=
  ⟨fun _ => rfl, fun _ => rfl⟩

theorem detect_padded (h : IsPadded count moved ls padded front back) :
    detect settings padded = List.map (Finding.moveDown moved) <$> detect settings ls := by
  apply detect_changed settings keepsPlaces_moveDown
  rw [shapedLines, h.codeLines_eq, shapedLines, List.map_map, List.map_map]
  rfl

end Changed

end Provenance.Detect.Structure

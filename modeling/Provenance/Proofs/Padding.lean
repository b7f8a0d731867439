import Provenance.Proofs.Analysis

/-!
# Proofs — Padding

Blank lines around a source text do not change what is said of it. The analysis of a text with line
feeds in front of it or behind it counts more blank lines and tells its patterns further down, and
is the analysis of the text in all else (`padding_keeps_analysis`).
-/

namespace Provenance

open Text

/-! ## Scoring -/

/-- The figures of a file with so many more blank lines, which move its patterns down. -/
def FileFigures.padded (count moved : Nat) (f : FileFigures) : FileFigures :=
  { f with
    totalLines := f.totalLines + count
    emptyLines := f.emptyLines + count
    patterns := f.patterns.map (Pattern.moveDown moved) }

def FileAnalysis.padded (count moved : Nat) (a : FileAnalysis) : FileAnalysis :=
  { a.toFileFigures.padded count moved with
    shares := a.shares
    attributed := by
      have h := a.attributed
      simp only [FileFigures.padded]
      omega }

/-- Figures add up with more blank lines if they add up without. -/
theorem FileFigures.check_padded (count moved : Nat) (f : FileFigures) :
    (f.padded count moved).check = FileAnalysis.padded count moved <$> f.check := by
  have hattributed : (f.padded count moved).generatedLines + (f.padded count moved).humanLines ≠
        (f.padded count moved).totalLines - (f.padded count moved).emptyLines -
          (f.padded count moved).commentLines ↔
      f.generatedLines + f.humanLines ≠ f.totalLines - f.emptyLines - f.commentLines := by
    simp only [FileFigures.padded]
    omega
  by_cases hs : f.generatedPercentage + f.humanPercentage ≠ 100
  · have hs' : (f.padded count moved).generatedPercentage +
      (f.padded count moved).humanPercentage ≠ 100 := hs
    rw [FileFigures.check, FileFigures.check, dif_pos hs, dif_pos hs']
    rfl
  · have hs' : ¬ (f.padded count moved).generatedPercentage +
      (f.padded count moved).humanPercentage ≠ 100 := hs
    rw [FileFigures.check, FileFigures.check, dif_neg hs, dif_neg hs']
    by_cases ha : f.generatedLines + f.humanLines ≠ f.totalLines - f.emptyLines - f.commentLines
    · rw [dif_pos ha, dif_pos (hattributed.2 ha)]
      rfl
    · rw [dif_neg ha, dif_neg (fun h => ha (hattributed.1 h))]
      rfl

section Scoring

variable {count moved : Nat} {ls padded front back : List Line}

theorem contains_moveDown (p : Pattern) (number : Nat) :
    (p.moveDown moved).lines.contains (number + moved) = p.lines.contains number := by
  rw [Bool.eq_iff_iff, List.contains_iff_mem, List.contains_iff_mem]
  show number + moved ∈ p.lines.map (· + moved) ↔ _
  simp

/-- A line that is moved down keeps the patterns that cover it. -/
theorem confidencesAt_moveDown (ps : List Pattern) (number : Nat) :
    confidencesAt (ps.map (Pattern.moveDown moved)) (number + moved) = confidencesAt ps number := by
  unfold confidencesAt
  rw [List.filter_map, List.map_map]
  have hcovers : ((fun p : Pattern => p.lines.contains (number + moved)) ∘ Pattern.moveDown moved) =
      fun p => p.lines.contains number := by
    funext p
    exact contains_moveDown p number
  rw [hcovers]
  rfl

theorem codeNumbers_padded (h : IsPadded count moved ls padded front back) :
    codeNumbers padded = (codeNumbers ls).map (· + moved) := by
  rw [codeNumbers, h.codeLines_eq, codeNumbers, ← ascending_moveDown, List.map_map, List.map_map]
  rfl

theorem lineLikelihoods_padded (h : IsPadded count moved ls padded front back)
    (ps : List Pattern) :
    (lineLikelihoods padded (ps.map (Pattern.moveDown moved))).map (·.2) =
      (lineLikelihoods ls ps).map (·.2) := by
  rw [lineLikelihoods_eq, lineLikelihoods_eq, codeNumbers_padded h, List.map_map, List.map_map,
    List.map_map]
  apply List.map_congr_left
  intro n _
  show Likelihood.ofConfidences (confidencesAt _ (n + moved)) = _
  rw [confidencesAt_moveDown]
  rfl

theorem touchedLines_padded (h : IsPadded count moved ls padded front back) (ps : List Pattern) :
    touchedLines padded (ps.map (Pattern.moveDown moved)) = touchedLines ls ps := by
  unfold touchedLines
  rw [codeNumbers_padded h, List.countP_map]
  congr 1
  funext n
  show (ps.map (Pattern.moveDown moved)).any (fun p => p.lines.contains (n + moved)) = _
  rw [List.any_map]
  congr 1
  funext p
  exact contains_moveDown p n

theorem scoreNoCode_padded (h : IsPadded count moved ls padded front back)
    (path language : String) :
    scoreNoCode path language padded =
      FileAnalysis.padded count moved <$> scoreNoCode path language ls := by
  unfold scoreNoCode
  rw [← FileFigures.check_padded]
  simp [FileFigures.padded, LineCounts.of, h.length_eq, h.countP_isComment, h.countP_isBlank]

/-- **Blank lines are counted, and nothing else is made of them.** -/
theorem scoreFile_padded (h : IsPadded count moved ls padded front back) (path language : String)
    (ps : List Pattern) :
    scoreFile path language padded (ps.map (Pattern.moveDown moved)) =
      FileAnalysis.padded count moved <$> scoreFile path language ls ps := by
  unfold scoreFile
  simp only [lineLikelihoods_padded h, touchedLines_padded h]
  split
  · exact scoreNoCode_padded h path language
  · simp only [map_bind]
    apply bind_congr
    intro percentage
    apply bind_congr
    intro confidence
    rw [← FileFigures.check_padded]
    simp [FileFigures.padded, LineCounts.of, h.length_eq, h.countP_isComment, h.countP_isBlank]

end Scoring

/-! ## Analyses -/

theorem analyzeSource_padded (settings : Settings) (path : String) (language : Language)
    {source source' : List Char} {count moved : Nat} {front back : List Line}
    (h : IsPadded count moved (sourceLines language source) (sourceLines language source')
      front back) :
    analyzeSource settings path language source' =
      FileAnalysis.padded count moved <$> analyzeSource settings path language source := by
  unfold analyzeSource
  dsimp only
  rw [Detect.patterns_padded settings (isNumbered_sourceLines language source) h, bind_map_left,
    map_bind]
  apply bind_congr
  intro ps
  exact scoreFile_padded h path language.name ps

theorem analyzeFile_eq_analyzeSource (settings : Settings) (path : String) {source : List Char}
    (h : '\x00' ∉ source) :
    analyzeFile settings path (.text source) =
      (analyzeSource settings path (Language.ofPath path) source).mapError .fault := by
  rw [analyzeFile, Content.source, if_neg (fun hc => h (List.contains_iff_mem.1 hc))]
  rfl

/-- A text that is padded has the padded analysis. -/
theorem analyzeFile_padded (settings : Settings) (path : String) {source source' : List Char}
    {count moved : Nat} {front back : List Line} (hsource : '\x00' ∉ source)
    (hsource' : '\x00' ∉ source')
    (h : IsPadded count moved (sourceLines (Language.ofPath path) source)
      (sourceLines (Language.ofPath path) source') front back) :
    analyzeFile settings path (.text source') =
      FileAnalysis.padded count moved <$> analyzeFile settings path (.text source) := by
  rw [analyzeFile_eq_analyzeSource settings path hsource,
    analyzeFile_eq_analyzeSource settings path hsource', analyzeSource_padded settings path _ h]
  cases analyzeSource settings path (Language.ofPath path) source <;> rfl

theorem exists_analyzeFile (settings : Settings) (path : String) {source : List Char}
    (h : '\x00' ∉ source) : ∃ a, analyzeFile settings path (.text source) = .ok a := by
  obtain ⟨a, ha, _⟩ := (gives_analyzeSource settings path (Language.ofPath path) source).mapError
    (e := AnalysisError.fault)
  exact ⟨a, by rw [analyzeFile_eq_analyzeSource settings path h, ha]⟩

theorem nul_not_mem_replicate (count : Nat) : '\x00' ∉ List.replicate count '\n' := by
  intro h
  exact absurd (List.eq_of_mem_replicate h) (by decide)

/-- **Line feeds around a text do not change what is said of it**, whatever the text, its language
and the settings are. With line feeds in front of it, its analysis counts that many more lines, all
of them blank, and its patterns cover the lines that are that much further down. With line feeds
behind a text that is empty or ends with one, the lines are counted, and the patterns stay. All else
is the same: the language, the attributed lines, the comments, the shares, the confidence, and of
each pattern all but its lines. -/
theorem padding_keeps_analysis (settings : Settings) (path : String) {source : List Char}
    (hsource : '\x00' ∉ source) (count : Nat) :
    ∃ a, analyzeFile settings path (.text source) = .ok a ∧
      (∃ b, analyzeFile settings path (.text (List.replicate count '\n' ++ source)) = .ok b ∧
        b.toFileFigures = { a.toFileFigures with
          totalLines := a.totalLines + count
          emptyLines := a.emptyLines + count
          patterns := a.patterns.map (Pattern.moveDown count) }) ∧
      (source = [] ∨ source.getLast? = some '\n' →
        ∃ b, analyzeFile settings path (.text (source ++ List.replicate count '\n')) = .ok b ∧
          b.toFileFigures = { a.toFileFigures with
            totalLines := a.totalLines + count
            emptyLines := a.emptyLines + count }) := by
  obtain ⟨a, ha⟩ := exists_analyzeFile settings path hsource
  have hnul := nul_not_mem_replicate count
  refine ⟨a, ha, ⟨a.padded count count, ?_, rfl⟩, ?_⟩
  · rw [analyzeFile_padded settings path hsource (by simp [hnul, hsource])
      (isPadded_front _ source count), ha]
    rfl
  · intro hwhole
    refine ⟨a.padded count 0, ?_, ?_⟩
    · rw [analyzeFile_padded settings path hsource (by simp [hnul, hsource])
        (isPadded_back _ hwhole count), ha]
      rfl
    · -- patterns that are moved down by nothing stay where they are
      show FileFigures.padded count 0 _ = _
      rw [FileFigures.padded, Pattern.moveDown_zero, List.map_id]

/-- A comment and a line of code, with two line feeds in front and behind. -/
theorem padding_keeps_analysis_of_comment :
    '\x00' ∉ "# get the item\nx = item\n".toList ∧
    ∃ a, analyzeFile .standard "a.py" (.text "# get the item\nx = item\n".toList) = .ok a ∧
      (∃ b, analyzeFile .standard "a.py"
          (.text (List.replicate 2 '\n' ++ "# get the item\nx = item\n".toList)) = .ok b ∧
        b.toFileFigures = { a.toFileFigures with
          totalLines := a.totalLines + 2
          emptyLines := a.emptyLines + 2
          patterns := a.patterns.map (Pattern.moveDown 2) }) ∧
      ∃ b, analyzeFile .standard "a.py"
          (.text ("# get the item\nx = item\n".toList ++ List.replicate 2 '\n')) = .ok b ∧
        b.toFileFigures = { a.toFileFigures with
          totalLines := a.totalLines + 2
          emptyLines := a.emptyLines + 2 } := by
  have hsource : '\x00' ∉ "# get the item\nx = item\n".toList := by decide
  obtain ⟨a, ha, hfront, hback⟩ := padding_keeps_analysis .standard "a.py" hsource 2
  exact ⟨hsource, a, ha, hfront, hback (.inr (by decide))⟩

end Provenance

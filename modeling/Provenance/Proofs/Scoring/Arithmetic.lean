import Provenance.Proofs.FileAnalysis

/-!
# Proofs — Scoring — Arithmetic

Scoring by an arithmetic of likelihoods. The program scores in double precision
(`scoreFile_binary64`); another arithmetic scores the same lines and patterns by the same rules, and
computes likelihoods otherwise. Whatever the arithmetic is, a file depends on its patterns through
the likelihoods of its lines of code and the number of them that are touched
(`Arithmetic.scoreFile_congr`).
-/

namespace Provenance

/-! ## Arithmetics -/

/-- What scoring computes of likelihoods. -/
structure Arithmetic (α : Type) where
  /-- The likelihood of a line that no pattern covers. -/
  start : α
  /-- The likelihood after one more pattern of some confidence in percent. -/
  combine : α → Int → α
  isGenerated : α → Bool
  /-- The confidence in a file, from the likelihoods of its lines of code and the number of them
  that some pattern covers. -/
  fileConfidence : List α → Int → Checked Int

namespace Arithmetic

variable {α : Type} (arithmetic : Arithmetic α)

/-- The likelihood that patterns of these confidences give, in their order. -/
def ofConfidences (confidences : List Nat) : α :=
  confidences.foldl (fun l (c : Nat) => arithmetic.combine l c) arithmetic.start

/-- The likelihood of each line of code, by its number. -/
def lineLikelihoods (ls : List Line) (patterns : List Pattern) : List (Nat × α) :=
  (contributions ls patterns).map fun entry => (entry.1, arithmetic.ofConfidences entry.2)

/-- The analysis of a file with these lines in which these patterns were found. -/
def scoreFile (path language : String) (ls : List Line) (patterns : List Pattern) :
    Checked FileAnalysis := do
  let likelihoods := (arithmetic.lineLikelihoods ls patterns).map (·.2)
  if likelihoods = [] then scoreNoCode path language ls
  else
    let counts := LineCounts.of ls
    let generated := likelihoods.countP arithmetic.isGenerated
    let percentage ← countPercentage generated likelihoods.length
    let confidence ← arithmetic.fileConfidence likelihoods (touchedLines ls patterns)
    FileFigures.check {
      path, language
      totalLines := ls.length
      generatedLines := generated
      humanLines := (likelihoods.length : Int) - generated
      commentLines := counts.comment
      emptyLines := counts.blank
      generatedPercentage := percentage
      humanPercentage := 100 - percentage
      confidence
      patterns }

end Arithmetic

/-- The arithmetic of the program. -/
def Arithmetic.binary64 : Arithmetic Binary64 where
  start := 0
  combine := Likelihood.combine
  isGenerated := Likelihood.isGenerated
  fileConfidence := Likelihood.fileConfidence

/-- The program scores in double precision. -/
theorem scoreFile_binary64 : Arithmetic.binary64.scoreFile = scoreFile := rfl

/-! ## Analyses that tell other patterns -/

/-- An analysis that tells other patterns. -/
def FileAnalysis.telling (ps : List Pattern) (a : FileAnalysis) : FileAnalysis :=
  { a with patterns := ps }

/-- Whether figures add up has nothing to do with the patterns that are told. -/
theorem FileFigures.check_telling (ps : List Pattern) (f : FileFigures) :
    FileFigures.check { f with patterns := ps } = FileAnalysis.telling ps <$> f.check := by
  unfold FileFigures.check
  by_cases hs : f.generatedPercentage + f.humanPercentage ≠ 100
  · rw [dif_pos hs, dif_pos hs]
    rfl
  · rw [dif_neg hs, dif_neg hs]
    by_cases ha : f.generatedLines + f.humanLines ≠ f.totalLines - f.emptyLines - f.commentLines
    · rw [dif_pos ha, dif_pos ha]
      rfl
    · rw [dif_neg ha, dif_neg ha]
      rfl

namespace Arithmetic

variable {α : Type} (arithmetic : Arithmetic α) {ls : List Line} {ps ps' : List Pattern}

/-! ## Likelihoods -/

theorem map_snd_lineLikelihoods (ls : List Line) (ps : List Pattern) :
    (arithmetic.lineLikelihoods ls ps).map (·.2) =
      (codeNumbers ls).map fun n => arithmetic.ofConfidences (confidencesAt ps n) := by
  rw [lineLikelihoods, contributions_eq, List.map_map, List.map_map]
  rfl

theorem length_lineLikelihoods (hdistinct : (ls.map Line.number).Nodup) (ps : List Pattern) :
    ((arithmetic.lineLikelihoods ls ps).map (·.2)).length = ls.countP Line.isCode := by
  rw [map_snd_lineLikelihoods, List.length_map, length_codeNumbers hdistinct]

theorem lineLikelihoods_eq_nil_iff :
    (arithmetic.lineLikelihoods ls ps).map (·.2) = [] ↔ codeNumbers ls = [] := by
  rw [map_snd_lineLikelihoods, List.map_eq_nil_iff]

/-! ## Scoring -/

theorem scoreFile_of_noCode (path language : String) (hnone : codeNumbers ls = []) :
    arithmetic.scoreFile path language ls ps = scoreNoCode path language ls := by
  rw [scoreFile]
  exact if_pos (arithmetic.lineLikelihoods_eq_nil_iff.2 hnone)

/-- Patterns that give the same likelihoods and touch as many lines make the same analysis. -/
theorem scoreFile_telling (path language : String) (hcode : codeNumbers ls ≠ [])
    (hlikelihoods : (arithmetic.lineLikelihoods ls ps').map (·.2) =
      (arithmetic.lineLikelihoods ls ps).map (·.2))
    (htouched : touchedLines ls ps' = touchedLines ls ps) :
    arithmetic.scoreFile path language ls ps' =
      FileAnalysis.telling ps' <$> arithmetic.scoreFile path language ls ps := by
  have hne : (arithmetic.lineLikelihoods ls ps).map (·.2) ≠ [] :=
    mt arithmetic.lineLikelihoods_eq_nil_iff.1 hcode
  unfold scoreFile
  simp only [hlikelihoods, htouched, if_neg hne, map_bind]
  apply bind_congr
  intro percentage
  apply bind_congr
  intro confidence
  rw [← FileFigures.check_telling]

/-- With the likelihoods and the touched lines, all figures are the same. -/
theorem scoreFile_congr {path language : String} {a : FileAnalysis}
    (hlikelihoods : (arithmetic.lineLikelihoods ls ps').map (·.2) =
      (arithmetic.lineLikelihoods ls ps).map (·.2))
    (htouched : touchedLines ls ps' = touchedLines ls ps)
    (ha : arithmetic.scoreFile path language ls ps = .ok a) :
    Gives (arithmetic.scoreFile path language ls ps') fun b =>
      b.toFileFigures = { a.toFileFigures with patterns := b.patterns } := by
  by_cases hcode : codeNumbers ls = []
  · rw [scoreFile_of_noCode arithmetic path language hcode] at ha ⊢
    exact ⟨a, ha, rfl⟩
  · rw [arithmetic.scoreFile_telling path language hcode hlikelihoods htouched, ha]
    exact ⟨a.telling ps', rfl, rfl⟩

/-- Scoring lines of distinct numbers succeeds with an arithmetic that has a confidence in the
file. -/
theorem gives_scoreFile (path language : String) (hdistinct : (ls.map Line.number).Nodup)
    (hconfidence : Gives (arithmetic.fileConfidence ((arithmetic.lineLikelihoods ls ps).map (·.2))
      (touchedLines ls ps)) fun _ => True) :
    Gives (arithmetic.scoreFile path language ls ps) fun a => a.generatedLines =
      ((arithmetic.lineLikelihoods ls ps).map (·.2)).countP arithmetic.isGenerated := by
  have hlength := arithmetic.length_lineLikelihoods hdistinct ps
  have hcounts := length_eq_counts ls
  rw [scoreFile]
  dsimp only
  split
  · rename_i hnil
    rw [hnil, List.length_nil] at hlength
    refine (gives_check (by simp) (by simp only [LineCounts.of]; omega)).mono fun a ha => ?_
    rw [ha, hnil]
    rfl
  · have hle := List.countP_le_length (p := arithmetic.isGenerated)
      (l := (arithmetic.lineLikelihoods ls ps).map (·.2))
    refine (gives_countPercentage (by omega) (by omega)).bind fun percentage _ => ?_
    refine hconfidence.bind fun confidence _ => ?_
    refine (gives_check (by simp) (by simp only [LineCounts.of]; omega)).mono fun a ha => ?_
    rw [ha]

end Arithmetic

end Provenance

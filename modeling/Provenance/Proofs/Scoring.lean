import Provenance.Proofs.Scoring.Arithmetic

/-!
# Proofs — Scoring

What patterns have to do with the score of a file. Patterns may overlap, and may cover comments,
blank lines and lines that the file does not have. Each line of code gets its likelihood from the
patterns that cover it, in their order, and the verdicts on the lines of code are counted; a pattern
that covers no code is told, and changes nothing else (`lines_scored_one_by_one`).
-/

namespace Provenance

variable {ls : List Line} {ps : List Pattern}

/-! ## Likelihoods -/

/-- The likelihood of a line from the patterns that cover it: it begins at zero, and each of them is
combined with it, in their order. -/
def likelihoodAt (ps : List Pattern) (number : Nat) : Binary64 :=
  ((ps.filter fun p => decide (number ∈ p.lines)).map Pattern.confidence).foldl
    (fun likelihood (confidence : Nat) => Likelihood.combine likelihood confidence) 0

theorem ofConfidences_eq (ps : List Pattern) (number : Nat) :
    Likelihood.ofConfidences (confidencesAt ps number) = likelihoodAt ps number := by
  have hcovers : (fun p : Pattern => p.lines.contains number) =
      fun p => decide (number ∈ p.lines) := by
    funext p
    rw [Bool.eq_iff_iff, List.contains_iff_mem, decide_eq_true_eq]
  rw [Likelihood.ofConfidences, confidencesAt, hcovers, likelihoodAt]

theorem map_fst_lineLikelihoods (ls : List Line) (ps : List Pattern) :
    (lineLikelihoods ls ps).map (·.1) = codeNumbers ls := by
  rw [lineLikelihoods_eq, List.map_map]
  exact List.map_id _

theorem map_snd_lineLikelihoods (ls : List Line) (ps : List Pattern) :
    (lineLikelihoods ls ps).map (·.2) = (codeNumbers ls).map (likelihoodAt ps) := by
  rw [lineLikelihoods_eq, List.map_map]
  apply List.map_congr_left
  intro n _
  exact ofConfidences_eq ps n

/-- Verdicts on the numbers of lines are verdicts on lines. -/
theorem countP_lineLikelihoods (hdistinct : (ls.map Line.number).Nodup) (p : Binary64 → Bool) :
    ((lineLikelihoods ls ps).map (·.2)).countP p =
      (codeLines ls).countP fun l => p (likelihoodAt ps l.number) := by
  rw [map_snd_lineLikelihoods, List.countP_map, (codeNumbers_perm hdistinct).countP_eq,
    List.countP_map]
  rfl

/-! ## Patterns that cover no code -/

/-- A pattern that covers no line of code. -/
def CoversNoCode (ls : List Line) (p : Pattern) : Prop := ∀ l ∈ codeLines ls, l.number ∉ p.lines

instance (p : Pattern) : Decidable (CoversNoCode ls p) :=
  inferInstanceAs (Decidable (∀ l ∈ codeLines ls, l.number ∉ p.lines))

section Insertion

variable {p : Pattern} (hp : CoversNoCode ls p) (front back : List Pattern)

include hp

theorem CoversNoCode.confidencesAt_eq {n : Nat} (hn : n ∈ codeNumbers ls) :
    confidencesAt (front ++ p :: back) n = confidencesAt (front ++ back) n := by
  obtain ⟨l, hl, rfl⟩ := mem_codeNumbers.1 hn
  have hnot : l.number ∉ p.lines := hp l hl
  simp [confidencesAt, List.filter_append, hnot]

theorem CoversNoCode.lineLikelihoods_eq :
    lineLikelihoods ls (front ++ p :: back) = lineLikelihoods ls (front ++ back) := by
  rw [Provenance.lineLikelihoods_eq, Provenance.lineLikelihoods_eq]
  apply List.map_congr_left
  intro n hn
  rw [hp.confidencesAt_eq front back hn]

theorem CoversNoCode.touchedLines_eq :
    touchedLines ls (front ++ p :: back) = touchedLines ls (front ++ back) := by
  rw [touchedLines, touchedLines]
  apply List.countP_congr
  intro n hn
  obtain ⟨l, hl, rfl⟩ := mem_codeNumbers.1 hn
  have hnot : l.number ∉ p.lines := hp l hl
  simp [hnot]

end Insertion

/-! ## Scoring -/

/-- Patterns that give the same likelihoods and touch as many lines make the same analysis. -/
theorem scoreFile_telling (path language : String) {ps' : List Pattern}
    (hcode : codeNumbers ls ≠ []) (hlikelihoods : lineLikelihoods ls ps' = lineLikelihoods ls ps)
    (htouched : touchedLines ls ps' = touchedLines ls ps) :
    scoreFile path language ls ps' =
      FileAnalysis.telling ps' <$> scoreFile path language ls ps := by
  rw [← scoreFile_binary64]
  exact Arithmetic.binary64.scoreFile_telling path language hcode
    (congrArg (List.map (·.2)) hlikelihoods) htouched

/-- What an analysis has to do with lines and patterns. Likelihoods are those of the lines of code,
each from the patterns that cover it; the verdicts on them are counted. Where there is code the
patterns are told, and one more among them that covers no code is told and changes nothing else. -/
structure ScoresLines (path language : String) (ls : List Line) (ps : List Pattern)
    (a : FileAnalysis) : Prop where
  numbers_perm : ((lineLikelihoods ls ps).map (·.1)).Perm ((codeLines ls).map Line.number)
  likelihood_eq : ∀ entry ∈ lineLikelihoods ls ps, entry.2 = likelihoodAt ps entry.1
  generatedLines_eq : a.generatedLines =
    (codeLines ls).countP fun l => Likelihood.isGenerated (likelihoodAt ps l.number)
  humanLines_eq : a.humanLines =
    (codeLines ls).countP fun l => !Likelihood.isGenerated (likelihoodAt ps l.number)
  patterns_eq : codeLines ls ≠ [] → a.patterns = ps
  insertion : codeLines ls ≠ [] → ∀ front p back, ps = front ++ back → CoversNoCode ls p →
    lineLikelihoods ls (front ++ p :: back) = lineLikelihoods ls ps ∧
    ∃ b, scoreFile path language ls (front ++ p :: back) = .ok b ∧
      b.toFileFigures = { a.toFileFigures with patterns := front ++ p :: back }

/-- **Lines are scored one by one.** Lines of distinct numbers have an analysis, whatever lines the
patterns cover, and it depends on each pattern through the lines of code that it covers only. -/
theorem lines_scored_one_by_one (path language : String) {ls : List Line}
    (hdistinct : (ls.map Line.number).Nodup) (ps : List Pattern) :
    ∃ a, scoreFile path language ls ps = .ok a ∧ ScoresLines path language ls ps a := by
  obtain ⟨a, ha, hscored⟩ := gives_scoreFile path language hdistinct ps
  have hcode : codeLines ls ≠ [] → codeNumbers ls ≠ [] := by
    intro hne hnil
    obtain ⟨l, hl⟩ := List.exists_mem_of_ne_nil _ hne
    exact absurd (mem_codeNumbers.2 ⟨l, hl, rfl⟩) (hnil ▸ List.not_mem_nil)
  refine ⟨a, ha, ?_, ?_, ?_, ?_, fun hne => hscored.patterns_eq (hcode hne), ?_⟩
  · rw [map_fst_lineLikelihoods]
    exact codeNumbers_perm hdistinct
  · intro entry hentry
    rw [lineLikelihoods_eq] at hentry
    obtain ⟨n, _, rfl⟩ := List.mem_map.1 hentry
    exact ofConfidences_eq ps n
  · rw [hscored.generatedLines_eq, countP_lineLikelihoods hdistinct]
  · rw [hscored.humanLines_eq, countP_lineLikelihoods hdistinct]
  · rintro hne front p back rfl hp
    -- neither the likelihoods nor the count of touched lines see the pattern
    refine ⟨hp.lineLikelihoods_eq front back, a.telling (front ++ p :: back), ?_, rfl⟩
    rw [scoreFile_telling path language (hcode hne) (hp.lineLikelihoods_eq front back)
      (hp.touchedLines_eq front back), ha]
    rfl

/-- A file of two lines of code, with a comment and a blank line between them. -/
def notedLines : List Line :=
  [⟨1, "a = f(b)".toList, .code⟩, ⟨2, "# calls".toList, .comment⟩, ⟨3, [], .blank⟩,
    ⟨4, "c = f(d)".toList, .code⟩]

/-- A pattern of the lines one to four, and of a line that the file does not have. -/
def wholePattern : Pattern where
  kind := .structural
  description := "calls"
  confidence := 30
  signature := "f(x)"
  lines := [1, 2, 3, 4, 9]
  confidence_le := by decide
  lines_ne := by decide
  lines_pos := by decide
  lines_ascend := by decide

/-- A pattern of the last line of code and of the comment. -/
def lastPattern : Pattern where
  kind := .naming
  description := "placeholders"
  confidence := 45
  signature := "c, d"
  lines := [2, 4]
  confidence_le := by decide
  lines_ne := by decide
  lines_pos := by decide
  lines_ascend := by decide

/-- A pattern that covers the comment and a line past the end of the file. -/
def remarkPattern : Pattern where
  kind := .comment
  description := "restates code"
  confidence := 90
  signature := "calls"
  lines := [2, 7]
  confidence_le := by decide
  lines_ne := by decide
  lines_pos := by decide
  lines_ascend := by decide

/-- Two weak patterns make the line that both cover generated, the other line of code is human, and
a strong pattern on the comment between them changes neither. -/
theorem overlap_scored :
    (notedLines.map Line.number).Nodup ∧ CoversNoCode notedLines remarkPattern ∧
    ∃ a, scoreFile "calls.py" "python" notedLines [wholePattern, lastPattern] = .ok a ∧
      ScoresLines "calls.py" "python" notedLines [wholePattern, lastPattern] a ∧
      a.generatedLines = 1 ∧ a.humanLines = 1 ∧
      ∃ b, scoreFile "calls.py" "python" notedLines [wholePattern, remarkPattern, lastPattern] =
          .ok b ∧
        b.generatedLines = 1 ∧ b.humanLines = 1 := by
  have hdistinct : (notedLines.map Line.number).Nodup := by decide
  have hremark : CoversNoCode notedLines remarkPattern := by decide
  have hgenerated : (codeLines notedLines).countP (fun l =>
      Likelihood.isGenerated (likelihoodAt [wholePattern, lastPattern] l.number)) = 1 := by
    decide +kernel
  have hhuman : (codeLines notedLines).countP (fun l =>
      !Likelihood.isGenerated (likelihoodAt [wholePattern, lastPattern] l.number)) = 1 := by
    decide +kernel
  obtain ⟨a, ha, hscores⟩ := lines_scored_one_by_one "calls.py" "python" hdistinct
    [wholePattern, lastPattern]
  obtain ⟨-, b, hb, hfigures⟩ :=
    hscores.insertion (by decide) [wholePattern] remarkPattern [lastPattern] rfl hremark
  have hgenerated' : a.generatedLines = 1 := by rw [hscores.generatedLines_eq, hgenerated]; rfl
  have hhuman' : a.humanLines = 1 := by rw [hscores.humanLines_eq, hhuman]; rfl
  refine ⟨hdistinct, hremark, a, ha, hscores, hgenerated', hhuman', b, hb, ?_, ?_⟩
  · rw [hfigures]
    exact hgenerated'
  · rw [hfigures]
    exact hhuman'

end Provenance

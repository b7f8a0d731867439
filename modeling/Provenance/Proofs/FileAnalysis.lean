import Provenance.FileAnalysis
import Provenance.Proofs.Likelihood
import Provenance.Proofs.Pattern
import Provenance.Proofs.Source.Line

/-!
# Proofs — FileAnalysis

Patterns give their confidences to lines one pattern after the other; what a line has been given in
the end are the confidences of the patterns that cover it (`contributions_eq`). Scoring lines of
distinct numbers always succeeds, and the analysis says what the lines are (`gives_scoreFile`): the
counts are those of the lines, all code is attributed, and each share is a percentage.
-/

namespace Provenance

open Binary64

/-! ## Accurate analyses -/

/-- An analysis that says of a file what its lines are. -/
structure IsAccurate (path : String) (language : Language) (ls : List Line) (a : FileAnalysis) :
    Prop where
  path_eq : a.path = path
  language_eq : a.language = language.name
  totalLines_eq : a.totalLines = ls.length
  attributed_eq : a.generatedLines + a.humanLines = ls.countP Line.isCode
  commentLines_eq : a.commentLines = ls.countP Line.isComment
  emptyLines_eq : a.emptyLines = ls.countP Line.isBlank
  generatedLines_nonneg : 0 ≤ a.generatedLines
  humanLines_nonneg : 0 ≤ a.humanLines
  generatedPercentage_mem : 0 ≤ a.generatedPercentage ∧ a.generatedPercentage ≤ 100
  humanPercentage_mem : 0 ≤ a.humanPercentage ∧ a.humanPercentage ≤ 100
  percentages_eq : a.generatedPercentage + a.humanPercentage = 100
  confidence_mem : 0 ≤ a.confidence ∧ a.confidence ≤ 100

theorem gives_check {f : FileFigures} (hs : f.generatedPercentage + f.humanPercentage = 100)
    (ha : f.generatedLines + f.humanLines = f.totalLines - f.emptyLines - f.commentLines) :
    Gives f.check fun a => a.toFileFigures = f := by
  rw [FileFigures.check, dif_neg (not_not_intro hs), dif_neg (not_not_intro ha)]
  exact .ok rfl

theorem of_check_eq_ok {f : FileFigures} {a : FileAnalysis} (h : f.check = .ok a) :
    a.toFileFigures = f := by
  unfold FileFigures.check at h
  split at h
  · cases h
  · split at h
    · cases h
    · cases h
      rfl

/-! ## Numbers of lines of code -/

section Numbers

variable {ls : List Line}

theorem mem_codeNumbers {n : Nat} : n ∈ codeNumbers ls ↔ ∃ l ∈ codeLines ls, l.number = n := by
  rw [codeNumbers, mem_ascending, List.mem_map]

/-- Lines of distinct numbers have as many numbers. -/
theorem codeNumbers_perm (hdistinct : (ls.map Line.number).Nodup) :
    (codeNumbers ls).Perm ((codeLines ls).map Line.number) :=
  ascending_perm (hdistinct.sublist (List.filter_sublist.map _))

theorem length_codeNumbers (hdistinct : (ls.map Line.number).Nodup) :
    (codeNumbers ls).length = ls.countP Line.isCode := by
  rw [(codeNumbers_perm hdistinct).length_eq, List.length_map, length_codeLines]

end Numbers

/-! ## Contributions -/

/-- The confidences of the patterns that cover a line, in the order of the patterns. -/
def confidencesAt (patterns : List Pattern) (number : Nat) : List Nat :=
  (patterns.filter fun p => p.lines.contains number).map Pattern.confidence

theorem confidencesAt_cons (p : Pattern) (ps : List Pattern) (number : Nat) :
    confidencesAt (p :: ps) number = confidencesAt [p] number ++ confidencesAt ps number := by
  rw [confidencesAt, confidencesAt, confidencesAt, ← List.map_append, ← List.filter_append]
  rfl

section Contributions

variable (numbers : List Nat) (given : Nat → List Nat)

theorem contribute_eq (confidence number : Nat) :
    contribute confidence (numbers.map fun n => (n, given n)) number =
      numbers.map fun n => (n, if n = number then given n ++ [confidence] else given n) := by
  rw [contribute, List.map_map]
  apply List.map_congr_left
  intro n _
  show (if n = number then (n, given n ++ [confidence]) else (n, given n)) = _
  split <;> rfl

/-- A confidence is given once to each of some distinct lines. -/
theorem foldl_contribute_eq (confidence : Nat) {lines : List Nat} (hlines : lines.Nodup) :
    lines.foldl (contribute confidence) (numbers.map fun n => (n, given n)) =
      numbers.map fun n => (n, if n ∈ lines then given n ++ [confidence] else given n) := by
  induction lines generalizing given with
  | nil => simp
  | cons number lines ih =>
    obtain ⟨hnumber, hlines⟩ := List.nodup_cons.1 hlines
    rw [List.foldl_cons, contribute_eq, ih _ hlines]
    apply List.map_congr_left
    intro n _
    by_cases he : n = number
    · subst he
      simp [hnumber]
    · simp [he]

/-- The lines of a pattern are distinct, so each line that it covers is given its confidence
once. -/
theorem Pattern.contribute_eq (p : Pattern) :
    p.contribute (numbers.map fun n => (n, given n)) =
      numbers.map fun n => (n, given n ++ confidencesAt [p] n) := by
  rw [Pattern.contribute, foldl_contribute_eq _ _ _ (p.lines_ascend.imp Nat.ne_of_lt)]
  apply List.map_congr_left
  intro n _
  by_cases hn : n ∈ p.lines
  · simp [confidencesAt, hn]
  · simp [confidencesAt, hn]

theorem foldl_contribute_patterns (ps : List Pattern) :
    ps.foldl Pattern.contribute (numbers.map fun n => (n, given n)) =
      numbers.map fun n => (n, given n ++ confidencesAt ps n) := by
  induction ps generalizing given with
  | nil => simp [confidencesAt]
  | cons p ps ih =>
    rw [List.foldl_cons, p.contribute_eq, ih]
    apply List.map_congr_left
    intro n _
    rw [List.append_assoc, ← confidencesAt_cons]

end Contributions

/-- **A line is given the confidences of the patterns that cover it.** -/
theorem contributions_eq (ls : List Line) (ps : List Pattern) :
    contributions ls ps = (codeNumbers ls).map fun n => (n, confidencesAt ps n) := by
  rw [contributions, foldl_contribute_patterns _ fun _ => []]
  rfl

theorem lineLikelihoods_eq (ls : List Line) (ps : List Pattern) :
    lineLikelihoods ls ps =
      (codeNumbers ls).map fun n => (n, Likelihood.ofConfidences (confidencesAt ps n)) := by
  rw [lineLikelihoods, contributions_eq, List.map_map]
  rfl

/-! ## Scoring -/

/-- An analysis that is made of lines and patterns. -/
structure IsScored (path language : String) (ls : List Line) (ps : List Pattern)
    (a : FileAnalysis) : Prop where
  path_eq : a.path = path
  language_eq : a.language = language
  totalLines_eq : a.totalLines = ls.length
  generatedLines_eq :
    a.generatedLines = ((lineLikelihoods ls ps).map (·.2)).countP Likelihood.isGenerated
  humanLines_eq :
    a.humanLines = ((lineLikelihoods ls ps).map (·.2)).countP fun x => !Likelihood.isGenerated x
  commentLines_eq : a.commentLines = ls.countP Line.isComment
  emptyLines_eq : a.emptyLines = ls.countP Line.isBlank
  generatedPercentage_mem : 0 ≤ a.generatedPercentage ∧ a.generatedPercentage ≤ 100
  confidence_mem : 0 ≤ a.confidence ∧ a.confidence ≤ 100
  patterns_eq : codeNumbers ls ≠ [] → a.patterns = ps

section Scoring

variable {ls : List Line} {ps : List Pattern}

theorem length_lineLikelihoods (hdistinct : (ls.map Line.number).Nodup) :
    ((lineLikelihoods ls ps).map (·.2)).length = ls.countP Line.isCode := by
  rw [lineLikelihoods_eq, List.length_map, List.length_map, length_codeNumbers hdistinct]

theorem lineLikelihoods_eq_nil_iff :
    (lineLikelihoods ls ps).map (·.2) = [] ↔ codeNumbers ls = [] := by
  rw [lineLikelihoods_eq, List.map_eq_nil_iff, List.map_eq_nil_iff]

/-- Each line is generated or human. -/
theorem length_eq_verdicts (likelihoods : List Binary64) :
    likelihoods.length = likelihoods.countP Likelihood.isGenerated +
      likelihoods.countP fun x => !Likelihood.isGenerated x := by
  simpa using List.length_eq_countP_add_countP (p := Likelihood.isGenerated) (l := likelihoods)

/-- Patterns leave the likelihood of each line between zero and one. -/
theorem between_lineLikelihoods {x : Binary64} (h : x ∈ (lineLikelihoods ls ps).map (·.2)) :
    Between 0 1 x := by
  obtain ⟨entry, hentry, rfl⟩ := List.mem_map.1 h
  rw [lineLikelihoods_eq] at hentry
  obtain ⟨n, _, rfl⟩ := List.mem_map.1 hentry
  refine Likelihood.between_ofConfidences fun c hc => ?_
  obtain ⟨p, _, rfl⟩ := List.mem_map.1 hc
  exact p.confidence_le

theorem touchedLines_le : touchedLines ls ps ≤ ((lineLikelihoods ls ps).map (·.2)).length := by
  rw [lineLikelihoods_eq, List.length_map, List.length_map]
  exact List.countP_le_length

/-- A file without code has nothing to attribute. -/
theorem gives_scoreNoCode (path language : String) (hdistinct : (ls.map Line.number).Nodup)
    (hnone : codeNumbers ls = []) : Gives (scoreNoCode path language ls)
      (IsScored path language ls ps) := by
  have hlen := length_eq_counts ls
  have hcode := length_codeNumbers hdistinct
  rw [hnone, List.length_nil] at hcode
  have hlikelihoods : (lineLikelihoods ls ps).map (·.2) = [] := lineLikelihoods_eq_nil_iff.2 hnone
  refine (gives_check (by simp) (by simp only [LineCounts.of]; omega)).mono fun a ha => ?_
  constructor <;> simp [ha, LineCounts.of, hlikelihoods, hnone]

/-- **Scoring lines of distinct numbers succeeds**, whatever lines the patterns cover. -/
theorem gives_scoreFile (path language : String) (hdistinct : (ls.map Line.number).Nodup)
    (ps : List Pattern) :
    Gives (scoreFile path language ls ps) (IsScored path language ls ps) := by
  have hlength : ((lineLikelihoods ls ps).map (·.2)).length = ls.countP Line.isCode :=
    length_lineLikelihoods hdistinct
  have hcounts := length_eq_counts ls
  rw [scoreFile]
  dsimp only
  split
  · rename_i hnil
    exact gives_scoreNoCode path language hdistinct (lineLikelihoods_eq_nil_iff.1 hnil)
  have hverdicts := length_eq_verdicts ((lineLikelihoods ls ps).map (·.2))
  refine (gives_countPercentage (by omega) (by omega)).bind fun percentage hp => ?_
  refine (Likelihood.gives_fileConfidence (fun x hx => between_lineLikelihoods hx)
    touchedLines_le).bind fun confidence hc => ?_
  -- what is not generated is human, so the figures add up as they are made
  refine (gives_check (by simp) (by simp only [LineCounts.of]; omega)).mono fun a ha => ?_
  constructor <;> simp only [ha, LineCounts.of, implies_true] <;> omega

/-- What is made of the lines of a file is accurate of the file. -/
theorem IsScored.isAccurate {path : String} {language : Language} {a : FileAnalysis}
    (h : IsScored path language.name ls ps a) (hdistinct : (ls.map Line.number).Nodup) :
    IsAccurate path language ls a := by
  have hlength : ((lineLikelihoods ls ps).map (·.2)).length = ls.countP Line.isCode :=
    length_lineLikelihoods hdistinct
  have hverdicts := length_eq_verdicts ((lineLikelihoods ls ps).map (·.2))
  have hshares := a.shares
  obtain ⟨hlow, hhigh⟩ := h.generatedPercentage_mem
  exact {
    path_eq := h.path_eq
    language_eq := h.language_eq
    totalLines_eq := h.totalLines_eq
    attributed_eq := by
      rw [h.generatedLines_eq, h.humanLines_eq]
      omega
    commentLines_eq := h.commentLines_eq
    emptyLines_eq := h.emptyLines_eq
    generatedLines_nonneg := by
      rw [h.generatedLines_eq]
      omega
    humanLines_nonneg := by
      rw [h.humanLines_eq]
      omega
    generatedPercentage_mem := h.generatedPercentage_mem
    humanPercentage_mem := by omega
    percentages_eq := hshares
    confidence_mem := h.confidence_mem }

end Scoring

end Provenance

import Provenance.Analysis
import Provenance.Proofs.Detect
import Provenance.Proofs.FileAnalysis

/-!
# Proofs — Analysis

The analysis of a source text never runs into a fault, whatever the text, its language and the
settings are. Text is refused only for a zero character in it; any other text has an analysis that
says what its lines are (`analyzeFile_text`).
-/

namespace Provenance

open Text

/-- **A source text has an analysis**: no detector divides by zero or asks for the first, the least,
the greatest or the mean of an empty list, and no record refuses its values. -/
theorem gives_analyzeSource (settings : Settings) (path : String) (language : Language)
    (source : List Char) :
    Gives (analyzeSource settings path language source)
      (IsAccurate path language (sourceLines language source)) := by
  have hls := isNumbered_sourceLines language source
  exact (Detect.gives_patterns hls settings).bind fun ps _ =>
    (gives_scoreFile path language.name hls.nodup ps).mono fun _ ha => ha.isAccurate hls.nodup

/-- Content that holds a source text has the analysis of that text. -/
theorem gives_analyzeFile (settings : Settings) {path : String} {content : Content}
    {source : List Char} (h : content.source path = .ok source) :
    Gives (analyzeFile settings path content)
      (IsAccurate path (Language.ofPath path) (sourceLines (Language.ofPath path) source)) := by
  rw [analyzeFile, h]
  exact (gives_analyzeSource settings path (Language.ofPath path) source).mapError

/-- Content is refused for what it is, and never for a fault of its analysis. -/
theorem analyzeFile_eq_error (settings : Settings) {path : String} {content : Content}
    {failure : Failure} (h : content.source path = .error failure) :
    analyzeFile settings path content = .error (.failure failure) := by
  rw [analyzeFile, h]
  rfl

/-- An analysis is one of the file that it was asked of. -/
theorem path_of_analyzeFile {settings : Settings} {path : String} {content : Content}
    {a : FileAnalysis} (h : analyzeFile settings path content = .ok a) : a.path = path := by
  cases hsource : content.source path with
  | error failure =>
    rw [analyzeFile_eq_error settings hsource] at h
    cases h
  | ok source =>
    obtain ⟨a', ha', haccurate⟩ := gives_analyzeFile settings hsource
    rw [ha'] at h
    cases h
    exact haccurate.path_eq

/-- **The analysis of a text is refused only for a zero character in it.** Any other text has an
analysis, under all settings. Its lines are counted by their kinds, each line of code is attributed
once, all shares are percentages, and each pattern covers some line with a confidence that is a
percentage. -/
theorem analyzeFile_text (settings : Settings) (path : String) (source : List Char) :
    if '\x00' ∈ source then
      analyzeFile settings path (.text source) =
        .error (.failure (.unsupported path Failure.binaryContent))
    else ∃ a, analyzeFile settings path (.text source) = .ok a ∧
      IsAccurate path (Language.ofPath path) (sourceLines (Language.ofPath path) source) a ∧
      a.totalLines = (lines source).length ∧
      ∀ p ∈ a.patterns, p.confidence ≤ 100 ∧ p.lines ≠ [] := by
  split
  · rename_i hzero
    have hsource : (Content.text source).source path =
        .error (.unsupported path Failure.binaryContent) := by
      rw [Content.source, if_pos (List.contains_iff_mem.2 hzero)]
    exact analyzeFile_eq_error settings hsource
  · rename_i hzero
    have hsource : (Content.text source).source path = .ok source := by
      rw [Content.source, if_neg (fun h => hzero (List.contains_iff_mem.1 h))]
    obtain ⟨a, ha, haccurate⟩ := gives_analyzeFile settings hsource
    refine ⟨a, ha, haccurate, ?_, fun p _ => ⟨p.confidence_le, p.lines_ne⟩⟩
    rw [haccurate.totalLines_eq, length_sourceLines]

end Provenance

import Provenance.Detect
import Provenance.Proofs.Detect.Comment
import Provenance.Proofs.Detect.Complexity
import Provenance.Proofs.Detect.Naming
import Provenance.Proofs.Detect.Structure

/-!
# Proofs — Detect

The detectors finish on every source text, under all settings, and each pattern that they find
stands on lines of the text that are evidence of its kind (`patterns_stand_on_evidence`). They see
the distances of lines, and not where in a file lines stand (`patterns_padded`).
-/

namespace Provenance.Detect

open Text

/-! ## All detectors -/

/-- Each detector finds what is sound for its kind. -/
theorem gives_findings (settings : Settings) (ls : List Line) (kind : PatternKind) :
    Gives (findings settings ls kind) fun fs => ∀ f ∈ fs, IsSound ls kind f := by
  cases kind with
  | comment => exact Comment.gives_detect settings.comment ls
  | structural => exact Structure.gives_detect settings.structural ls
  | naming => exact Naming.gives_detect settings.naming ls
  | complexity => exact Complexity.gives_detect settings.complexity ls

/-- A pattern whose lines are those of some evidence. -/
def HasEvidence (ls : List Line) (p : Pattern) : Prop :=
  ∃ ns : List Int, Evidence ls p.kind ns ∧ p.lines = ascending (ns.map Int.toNat)

theorem gives_patternsOf {ls : List Line} (hls : IsNumbered 1 ls) (settings : Settings)
    (kind : PatternKind) :
    Gives (patternsOf settings ls kind) fun ps => ∀ p ∈ ps, HasEvidence ls p := by
  refine (gives_findings settings ls kind).bind fun fs hfs => Gives.mapM fun f hf => ?_
  refine (gives_check (fun l hl => (hls.getElem?_eq hl).1) (hfs f hf)).mono fun p hp => ?_
  obtain ⟨hkind, hlines⟩ := hp
  exact ⟨f.lines, by rw [hkind]; exact (hfs f hf).evidence, hlines⟩

theorem gives_patterns {ls : List Line} (hls : IsNumbered 1 ls) (settings : Settings) :
    Gives (patterns settings ls) fun ps => ∀ p ∈ ps, HasEvidence ls p := by
  have hkinds : Gives (PatternKind.all.mapM (patternsOf settings ls))
      fun found => ∀ ps ∈ found, ∀ p ∈ ps, HasEvidence ls p :=
    Gives.mapM fun kind _ => gives_patternsOf hls settings kind
  refine hkinds.bind fun found hfound => .pure fun p hp => ?_
  obtain ⟨ps, hps, hp⟩ := List.mem_flatten.1 hp
  exact hfound ps hps p hp

/-! ## Lines of patterns -/

section Lines

variable {ls : List Line} {p : Pattern}

/-- A pattern covers lines of the text, none of them blank. -/
theorem HasEvidence.kindAt?_ne_blank (hls : IsNumbered 1 ls) (h : HasEvidence ls p) {n : Nat}
    (hn : n ∈ p.lines) : ∃ kind, kindAt? ls n = some kind ∧ kind ≠ .blank := by
  obtain ⟨ns, hevidence, hlines⟩ := h
  rw [hlines, hevidence.mem_ascending] at hn
  obtain ⟨l, hl, he, hblank⟩ := hevidence.mem hn
  have hn : l.number = n := Int.ofNat.inj he
  refine ⟨l.kind, by rw [← hn, hls.kindAt?_eq hl], fun hkind => ?_⟩
  rw [Line.isBlank, hkind] at hblank
  cases hblank

/-- A pattern of another kind than comments covers code only. -/
theorem HasEvidence.kindAt?_eq_code (hls : IsNumbered 1 ls) (h : HasEvidence ls p)
    (hk : p.kind ≠ .comment) {n : Nat} (hn : n ∈ p.lines) : kindAt? ls n = some .code := by
  obtain ⟨ns, hevidence, hlines⟩ := h
  rw [hlines, hevidence.mem_ascending] at hn
  have hcode : OfCode ls ns := by
    cases hkind : p.kind with
    | comment => exact absurd hkind hk
    | structural => rwa [hkind] at hevidence
    | naming => rwa [hkind] at hevidence
    | complexity => rwa [hkind] at hevidence
  obtain ⟨l, hl, he⟩ := hcode n hn
  obtain ⟨hl, hcode⟩ := List.mem_filter.1 hl
  rw [← Int.ofNat.inj he, hls.kindAt?_eq hl, Line.kind_of_isCode hcode]

/-- A pattern of comments covers a comment. -/
theorem HasEvidence.exists_comment (hls : IsNumbered 1 ls) (h : HasEvidence ls p)
    (hk : p.kind = .comment) : ∃ n ∈ p.lines, kindAt? ls n = some .comment := by
  obtain ⟨ns, hevidence, hlines⟩ := h
  have hmem := @hevidence.mem_ascending
  rw [hk] at hevidence
  obtain ⟨c, hc, hcomment, hn⟩ := hevidence.some_comment
  refine ⟨c.number, by rwa [hlines, hmem], ?_⟩
  rw [hls.kindAt?_eq hc, Line.kind_of_isComment hcomment]

/-- Only comments of the text stand between the code that a pattern of comments covers and one of
its comments. -/
theorem HasEvidence.comment_above (hls : IsNumbered 1 ls) (h : HasEvidence ls p)
    (hk : p.kind = .comment) {n : Nat} (hn : n ∈ p.lines) (hcode : kindAt? ls n = some .code) :
    ∃ m ∈ p.lines, m < n ∧ ∀ k, m ≤ k → k < n → kindAt? ls k = some .comment := by
  obtain ⟨ns, hevidence, hlines⟩ := h
  have hmem := @hevidence.mem_ascending
  rw [hlines, hmem] at hn
  rw [hk] at hevidence
  rcases hevidence.comment_or_below n hn with ⟨c, hc, hcomment, he⟩ | ⟨c, l, habove, hcn, he⟩
  · -- the line itself is no comment
    rw [← Int.ofNat.inj he, hls.kindAt?_eq hc, Line.kind_of_isComment hcomment] at hcode
    cases hcode
  · have hbetween := habove.kindAt?_eq hls
    rw [Int.ofNat.inj he] at hbetween
    exact ⟨c.number, by rwa [hlines, hmem], hbetween⟩

end Lines

/-! ## The evidence of patterns -/

/-- **Patterns stand on their evidence.** In every text, whatever its language and the settings are,
the detectors find patterns whose lines ascend, lie in the text and are not blank. Patterns of
structure, naming and complexity cover code only. A pattern of comments covers a comment, and from
each line of code that it covers one gets up to one of its comments over comments only. -/
theorem patterns_stand_on_evidence (settings : Settings) (language : Language)
    (source : List Char) :
    ∃ ps, patterns settings (sourceLines language source) = .ok ps ∧ ∀ p ∈ ps,
      p.lines.Pairwise (· < ·) ∧
      (∀ n ∈ p.lines, 1 ≤ n ∧ n ≤ (lines source).length ∧
        ∃ kind, kindAt? (sourceLines language source) n = some kind ∧ kind ≠ .blank) ∧
      (p.kind ≠ .comment → ∀ n ∈ p.lines,
        kindAt? (sourceLines language source) n = some .code) ∧
      (p.kind = .comment →
        (∃ n ∈ p.lines, kindAt? (sourceLines language source) n = some .comment) ∧
        ∀ n ∈ p.lines, kindAt? (sourceLines language source) n = some .code →
          ∃ m ∈ p.lines, m < n ∧ ∀ k, m ≤ k → k < n →
            kindAt? (sourceLines language source) k = some .comment) := by
  have hls := isNumbered_sourceLines language source
  obtain ⟨ps, hps, hevidence⟩ := gives_patterns hls settings
  refine ⟨ps, hps, fun p hp => ?_⟩
  have h := hevidence p hp
  refine ⟨p.lines_ascend, fun n hn => ?_, fun hk n hn => h.kindAt?_eq_code hls hk hn, fun hk => ?_⟩
  · obtain ⟨kind, hkind, hblank⟩ := h.kindAt?_ne_blank hls hn
    obtain ⟨hpos, hle⟩ := le_length_of_kindAt? hkind
    rw [length_sourceLines] at hle
    exact ⟨hpos, hle, kind, hkind, hblank⟩
  · exact ⟨h.exists_comment hls hk, fun n hn hcode => h.comment_above hls hk hn hcode⟩

/-! ## Files that are moved down -/

section Moved

variable {count moved : Nat} {ls padded front back : List Line}

theorem findings_padded (settings : Settings) (h : IsPadded count moved ls padded front back)
    (kind : PatternKind) :
    findings settings padded kind =
      List.map (Finding.moveDown moved) <$> findings settings ls kind := by
  cases kind with
  | comment => exact Comment.detect_padded settings.comment h
  | structural => exact Structure.detect_padded settings.structural h
  | naming => exact Naming.detect_padded settings.naming h
  | complexity => exact Complexity.detect_padded settings.complexity h

/-- Findings are lines of the file, and the lines of a file are numbered from one. -/
theorem patternsOf_padded (settings : Settings) (hls : IsNumbered 1 ls)
    (h : IsPadded count moved ls padded front back) (kind : PatternKind) :
    patternsOf settings padded kind =
      List.map (Pattern.moveDown moved) <$> patternsOf settings ls kind := by
  obtain ⟨found, hfound, hsound⟩ := gives_findings settings ls kind
  unfold patternsOf
  rw [findings_padded settings h, hfound]
  show (found.map (Finding.moveDown moved)).mapM Finding.check = _ <$> found.mapM Finding.check
  apply mapM_map_of_comm
  intro f hf
  apply Finding.check_moveDown
  intro n hn
  obtain ⟨l, hl, rfl, _⟩ := (hsound f hf).evidence.mem hn
  have := (hls.getElem?_eq hl).1
  omega

/-- **The patterns of a file move with its lines.** -/
theorem patterns_padded (settings : Settings) (hls : IsNumbered 1 ls)
    (h : IsPadded count moved ls padded front back) :
    patterns settings padded = List.map (Pattern.moveDown moved) <$> patterns settings ls := by
  have hkinds : (PatternKind.all.map id).mapM (patternsOf settings padded) =
      List.map (List.map (Pattern.moveDown moved)) <$>
        PatternKind.all.mapM (patternsOf settings ls) :=
    mapM_map_of_comm fun kind _ => patternsOf_padded settings hls h kind
  rw [List.map_id] at hkinds
  unfold patterns
  rw [hkinds, bind_map_left, map_bind]
  simp only [map_pure, List.map_flatten]

end Moved

end Provenance.Detect

import Provenance.Proofs.Source.Comment
import Provenance.Proofs.Source.Padding

/-!
# Proofs — Source — Continuation

A source text is read from left to right. What is put behind whole lines changes none of them, and
where no block comment is open behind them it is read as a text by itself, further down
(`lines_go_on`). Each line tells its number, its own text, and whether there is more than blanks in
it (`AreLinesOf`); the last is seen in the line alone, whatever state it is read in.
-/

namespace Provenance

open Text

/-! ## One line -/

/-- **A line is blank exactly if there are only blanks in it**, inside comments and outside. -/
theorem readLine_eq_blank_iff (comments : CommentSyntax) (pending : Pending) (raw : List Char) :
    (readLine comments pending raw).1 = .blank ↔ AreBlanks raw := by
  rw [← strip_eq_nil_iff]
  cases pending with
  | some closer =>
    rw [readLine, if_pos Option.isSome_some]
    by_cases hblank : strip raw = []
    · simp [hblank]
    · simp [hblank]
  | none =>
    by_cases hblank : strip raw = []
    · simp [readLine_blank hblank, hblank]
    · rw [readLine, if_neg (by decide), if_neg hblank]
      split
      · simp [hblank]
      · split
        · simp [hblank]
        · simp [hblank]

/-! ## All lines -/

theorem map_text_numbered (comments : CommentSyntax) (first : Nat) (pending : Pending)
    (raws : List (List Char)) : (numbered comments first pending raws).map Line.text = raws := by
  induction raws generalizing first pending with
  | nil => rfl
  | cons raw rest ih => rw [numbered_cons, List.map_cons, ih]

theorem kind_numbered_eq_blank_iff {comments : CommentSyntax} {first : Nat} {pending : Pending}
    {raws : List (List Char)} {l : Line} (h : l ∈ numbered comments first pending raws) :
    l.kind = .blank ↔ AreBlanks l.text := by
  induction raws generalizing first pending with
  | nil => cases h
  | cons raw rest ih =>
    rw [numbered_cons] at h
    rcases List.mem_cons.1 h with rfl | h
    · exact readLine_eq_blank_iff comments pending raw
    · exact ih h

/-- What the lines of a source text tell of it. They are numbered from one, each has the text of a
line without what ends it, and a line is blank exactly if there are only blanks in it. -/
structure AreLinesOf (source : List Char) (ls : List Line) : Prop where
  numbers : ls.map Line.number = List.range' 1 ls.length
  texts : HasLines source (ls.map Line.text)
  blanks : ∀ l ∈ ls, l.kind = .blank ↔ AreBlanks l.text

theorem areLinesOf_sourceLines (language : Language) (source : List Char) :
    AreLinesOf source (sourceLines language source) where
  numbers := isNumbered_sourceLines language source
  texts := hasLines_iff.2 (map_text_numbered _ _ _ _)
  blanks _ hl := kind_numbered_eq_blank_iff hl

/-- **Lines are read from left to right.** What is put behind whole lines leaves each of them as it
is. Where no block comment is open behind them, what follows is read as a text by itself and
numbered from there on. Any source text has the lines that its terminators part, numbered from one,
and a line of it is blank exactly if there are only blanks in it. -/
theorem lines_go_on (language : Language) :
    (∀ source more, IsWhole source →
      sourceLines language source <+: sourceLines language (source ++ more) ∧
      (stateBehind language.syntaxOf none (lines source) = none →
        sourceLines language (source ++ more) = sourceLines language source ++
          (sourceLines language more).map (Line.moveDown (lines source).length))) ∧
      ∀ source, AreLinesOf source (sourceLines language source) := by
  refine ⟨fun source more hwhole => ⟨?_, fun hclosed => ?_⟩, areLinesOf_sourceLines language⟩
  · rw [sourceLines_append language hwhole]
    exact List.prefix_append _ _
  · rw [sourceLines_append language hwhole, hclosed, numbered_moveDown]
    rfl

/-- A comment behind a line of code. -/
theorem lines_go_on_behind_code :
    IsWhole "x = 1\n".toList ∧
      stateBehind Language.python.syntaxOf none (lines "x = 1\n".toList) = none ∧
      sourceLines .python ("x = 1\n".toList ++ "# y".toList) =
        sourceLines .python "x = 1\n".toList ++
          (sourceLines .python "# y".toList).map (Line.moveDown 1) := by
  have hwhole : IsWhole "x = 1\n".toList := .inr (by decide)
  have hlines : lines "x = 1\n".toList = ["x = 1".toList] := by decide +kernel
  have hcode : BeginsWithCode Language.python.syntaxOf "x = 1".toList :=
    ⟨by decide, by decide, by decide⟩
  have hclosed : stateBehind Language.python.syntaxOf none (lines "x = 1\n".toList) = none := by
    rw [hlines]
    show (readLine Language.python.syntaxOf none "x = 1".toList).2 = none
    rw [readLine_code Language.python.isRegular_syntaxOf hcode]
    exact scanBlocks_none (by decide +kernel)
  obtain ⟨hlater, _⟩ := lines_go_on .python
  have hgoes := (hlater _ "# y".toList hwhole).2 hclosed
  rw [hlines] at hgoes
  exact ⟨hwhole, hclosed, hgoes⟩

end Provenance

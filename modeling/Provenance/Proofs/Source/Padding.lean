import Provenance.Proofs.Source.Line
import Provenance.Proofs.Text.Line

/-!
# Proofs — Source — Padding

Source texts with line feeds put in front of them or behind them. The lines of such a text are those
of the text it was made from, moved down by the line feeds in front, and blank lines around them
(`isPadded_front`, `isPadded_back`): blank lines never change the state in which a line is read.
-/

namespace Provenance

open Text

/-! ## Lines moved down -/

/-- A line with a number that is greater by some count. -/
def Line.moveDown (moved : Nat) (l : Line) : Line := { l with number := l.number + moved }

theorem codeLines_moveDown (moved : Nat) (ls : List Line) :
    codeLines (ls.map (Line.moveDown moved)) = (codeLines ls).map (Line.moveDown moved) := by
  rw [codeLines, List.filter_map]
  rfl

theorem map_number_moveDown {moved : Nat} (ls : List Line) :
    (ls.map (Line.moveDown moved)).map (fun l => (l.number : Int)) =
      (ls.map fun l => (l.number : Int)).map (· + (moved : Int)) := by
  rw [List.map_map, List.map_map]
  rfl

/-- Lines with some blank lines around them, so that they are moved down. -/
structure IsPadded (count moved : Nat) (ls padded : List Line) (front back : List Line) : Prop where
  eq : padded = front ++ (ls.map (Line.moveDown moved) ++ back)
  count_eq : front.length + back.length = count
  front_blank : ∀ l ∈ front, l.isBlank
  back_blank : ∀ l ∈ back, l.isBlank

namespace IsPadded

variable {count moved : Nat} {ls padded front back : List Line}

theorem countP_eq_zero {blanks : List Line} (h : ∀ l ∈ blanks, l.isBlank) {p : Line → Bool}
    (hp : ∀ l : Line, l.isBlank → p l = false) : blanks.countP p = 0 := by
  rw [List.countP_eq_zero]
  intro l hl
  simp [hp l (h l hl)]

/-- No code is among the lines around. -/
theorem codeLines_eq (h : IsPadded count moved ls padded front back) :
    codeLines padded = (codeLines ls).map (Line.moveDown moved) := by
  have hnone : ∀ blanks : List Line, (∀ l ∈ blanks, l.isBlank) → codeLines blanks = [] := by
    intro blanks hb
    apply List.filter_eq_nil_iff.2
    intro l hl
    simp [Line.isCode_of_isBlank (hb l hl)]
  rw [h.eq, codeLines, List.filter_append, List.filter_append]
  show codeLines front ++ (codeLines (ls.map (Line.moveDown moved)) ++ codeLines back) = _
  rw [hnone front h.front_blank, hnone back h.back_blank, codeLines_moveDown]
  simp

theorem countP_isComment (h : IsPadded count moved ls padded front back) :
    padded.countP Line.isComment = ls.countP Line.isComment := by
  have hsame : Line.isComment ∘ Line.moveDown moved = Line.isComment := rfl
  rw [h.eq, List.countP_append, List.countP_append, List.countP_map, hsame,
    countP_eq_zero h.front_blank fun _ => Line.isComment_of_isBlank,
    countP_eq_zero h.back_blank fun _ => Line.isComment_of_isBlank]
  simp

/-- All lines around are blank. -/
theorem countP_isBlank (h : IsPadded count moved ls padded front back) :
    padded.countP Line.isBlank = ls.countP Line.isBlank + count := by
  have hsame : Line.isBlank ∘ Line.moveDown moved = Line.isBlank := rfl
  rw [h.eq, List.countP_append, List.countP_append, List.countP_map, hsame,
    List.countP_eq_length.2 h.front_blank, List.countP_eq_length.2 h.back_blank, ← h.count_eq]
  omega

theorem length_eq (h : IsPadded count moved ls padded front back) :
    padded.length = ls.length + count := by
  rw [h.eq, List.length_append, List.length_append, List.length_map, ← h.count_eq]
  omega

end IsPadded

/-! ## Blank lines -/

/-- Lines without text, from some number on. -/
def blankLines (first count : Nat) : List Line :=
  (List.range' first count).map fun number => ⟨number, [], .blank⟩

theorem isBlank_of_mem_blankLines {first count : Nat} {l : Line} (h : l ∈ blankLines first count) :
    l.isBlank := by
  obtain ⟨number, _, rfl⟩ := List.mem_map.1 h
  rfl

theorem readLine_nil (comments : CommentSyntax) (pending : Pending) :
    (readLine comments pending []).1 = .blank := by
  cases pending <;> rfl

theorem numbered_replicate (comments : CommentSyntax) (first : Nat) (pending : Pending)
    (count : Nat) :
    numbered comments first pending (List.replicate count []) = blankLines first count := by
  induction count generalizing first pending with
  | zero => rfl
  | succ count ih =>
    rw [List.replicate_succ, numbered_cons, ih, readLine_nil]
    rfl

/-! ## Numbering -/

variable (comments : CommentSyntax)

/-- Numbering from further down gives the same lines further down. -/
theorem numbered_moveDown (first moved : Nat) (pending : Pending) (raws : List (List Char)) :
    numbered comments (first + moved) pending raws =
      (numbered comments first pending raws).map (Line.moveDown moved) := by
  induction raws generalizing first pending with
  | nil => rfl
  | cons raw rest ih =>
    rw [numbered_cons, numbered_cons, List.map_cons, ← ih, Nat.add_right_comm]
    rfl

/-- No comment is open in front of a text, and blank lines open none. -/
theorem numbered_blank_front (first count : Nat) (raws : List (List Char)) :
    numbered comments first none (List.replicate count [] ++ raws) =
      blankLines first count ++ numbered comments (first + count) none raws := by
  induction count generalizing first with
  | zero => rfl
  | succ count ih =>
    have hread : readLine comments none [] = (.blank, none) := rfl
    rw [List.replicate_succ, List.cons_append, numbered_cons, hread, ih, Nat.add_assoc,
      Nat.add_comm 1]
    rfl

/-! ## Texts behind texts -/

/-- **A text that is put behind a whole one is read in the state behind that.** -/
theorem sourceLines_append (language : Language) {source : List Char} (h : IsWhole source)
    (more : List Char) :
    sourceLines language (source ++ more) = sourceLines language source ++
      numbered language.syntaxOf (1 + (lines source).length)
        (stateBehind language.syntaxOf none (lines source)) (lines more) := by
  rw [sourceLines, lines_append h, numbered_append]
  rfl

/-! ## Padded texts -/

/-- **Line feeds in front of a text move its lines down.** -/
theorem isPadded_front (language : Language) (source : List Char) (count : Nat) :
    IsPadded count count (sourceLines language source)
      (sourceLines language (List.replicate count '\n' ++ source)) (blankLines 1 count) [] where
  eq := by
    rw [sourceLines, lines_append (isWhole_replicate count), lines_replicate,
      numbered_blank_front, numbered_moveDown, List.append_nil]
    rfl
  count_eq := by simp [blankLines]
  front_blank l := isBlank_of_mem_blankLines
  back_blank := by simp

/-- **Line feeds behind a text leave its lines where they are.** -/
theorem isPadded_back (language : Language) {source : List Char} (h : IsWhole source)
    (count : Nat) :
    IsPadded count 0 (sourceLines language source)
      (sourceLines language (source ++ List.replicate count '\n')) []
      (blankLines (1 + (lines source).length) count) where
  eq := by
    have hsame : Line.moveDown 0 = id := rfl
    rw [sourceLines_append language h, lines_replicate, numbered_replicate, hsame, List.map_id]
    rfl
  count_eq := by simp [blankLines]
  front_blank := by simp
  back_blank l := isBlank_of_mem_blankLines

end Provenance

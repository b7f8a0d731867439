import Provenance.Text.Blank

/-!
# Text — Line

The lines of a text and their indentation. A line ends with one of ten terminators; a carriage
return and a line feed together are one terminator. A text that ends with a terminator has no
further, empty line behind it.
-/

namespace Provenance.Text

/-! ## Lines -/

/-- Whether a character ends a line. -/
def isLineEnd (c : Char) : Bool :=
  let n := c.toNat
  (10 ≤ n && n ≤ 13) || (28 ≤ n && n ≤ 30) || n == 0x85 || n == 0x2028 || n == 0x2029

/-- A character that ends a line is blank. -/
theorem isBlank_of_isLineEnd {c : Char} (h : isLineEnd c = true) : isBlank c = true := by
  simp only [isLineEnd, Bool.or_eq_true, Bool.and_eq_true, decide_eq_true_eq, beq_iff_eq] at h
  simp only [isBlank, Bool.or_eq_true, Bool.and_eq_true, decide_eq_true_eq, beq_iff_eq]
  omega

/-- What follows the terminator at the start of a text. -/
def dropTerminator : List Char → List Char
  | '\r' :: '\n' :: rest => rest
  | _ :: rest => rest
  | [] => []

/-- A terminator has at least one character. -/
theorem length_dropTerminator_lt {cs : List Char} (h : cs ≠ []) :
    (dropTerminator cs).length < cs.length := by
  unfold dropTerminator
  split
  · simp only [List.length_cons]
    omega
  · simp
  · exact absurd rfl h

/-- What follows the first line of a text. -/
def afterLine (cs : List Char) : List Char := dropTerminator (cs.dropWhile fun c => !isLineEnd c)

/-- The first line of a text that is not empty is not lost. -/
theorem length_afterLine_lt {cs : List Char} (h : cs ≠ []) : (afterLine cs).length < cs.length := by
  unfold afterLine
  have hle := (List.dropWhile_sublist (l := cs) fun c => !isLineEnd c).length_le
  by_cases hd : (cs.dropWhile fun c => !isLineEnd c) = []
  · rw [hd]
    exact List.length_pos_iff.2 h
  · exact Nat.lt_of_lt_of_le (length_dropTerminator_lt hd) hle

/-- The lines of a text, without their terminators. -/
def lines (cs : List Char) : List (List Char) :=
  if h : cs = [] then []
  else
    have := length_afterLine_lt h
    (cs.takeWhile fun c => !isLineEnd c) :: lines (afterLine cs)
termination_by cs.length

/-! ## Indentation -/

/-- The column that the leading spaces and tabs of a line reach, counted from `column`. A tab goes
on to the next multiple of the tab size; with a tab size of zero it goes nowhere. -/
def indentFrom (tabSize : Nat) : Nat → List Char → Nat
  | column, ' ' :: cs => indentFrom tabSize (column + 1) cs
  | column, '\t' :: cs =>
    indentFrom tabSize (if tabSize = 0 then column else (column / tabSize + 1) * tabSize) cs
  | column, _ => column

/-- The width of a line's indentation. -/
def indentWidth (tabSize : Nat) (cs : List Char) : Nat := indentFrom tabSize 0 cs

end Provenance.Text

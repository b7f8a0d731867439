/-!
# Lexis — Literal

Quoted literals in a line of code. A literal opens with a double quote, a single quote or a back
quote and closes with the next quote of the same kind. A backslash takes the character behind it
into the literal whatever it is, except a line feed. A quote that is never closed opens nothing.

`pieces` cuts a text into literals and plain characters, and the three ways to look past literals
are maps over the pieces: `maskLiterals` blanks their interiors, `emptyLiterals` leaves empty
quotes, and `markLiterals` puts a mark in their place.
-/

namespace Provenance.Lexis

/-! ## Pieces -/

/-- Whether a character can open a literal. -/
def isQuote (c : Char) : Bool := c == '"' || c == '\'' || c == '\x60'

/-- The interior of a literal whose opening quote has been read, and what follows its closing quote.
There is none when the literal is not closed. -/
def closeLiteral? (quote : Char) : List Char → Option (List Char × List Char)
  | [] => none
  | c :: cs =>
    if c = quote then some ([], cs)
    else if c = '\\' then
      match cs with
      | [] => none
      | d :: rest =>
        if d = '\n' then none
        else (closeLiteral? quote rest).map fun (interior, after) => (c :: d :: interior, after)
    else (closeLiteral? quote cs).map fun (interior, after) => (c :: interior, after)

/-- A closed literal is an interior, its quote, and what follows. -/
theorem eq_of_closeLiteral? {quote : Char} {cs interior after : List Char}
    (h : closeLiteral? quote cs = some (interior, after)) : cs = interior ++ quote :: after := by
  fun_induction closeLiteral? quote cs generalizing interior with
  | case1 => simp at h
  | case2 => simp_all
  | case3 => simp at h
  | case4 => simp at h
  | case5 _ _ _ _ ih =>
    obtain ⟨⟨i, a⟩, hi, he⟩ := Option.map_eq_some_iff.1 h
    simp only [Prod.mk.injEq] at he
    obtain ⟨rfl, rfl⟩ := he
    simp [ih hi]
  | case6 _ _ _ _ ih =>
    obtain ⟨⟨i, a⟩, hi, he⟩ := Option.map_eq_some_iff.1 h
    simp only [Prod.mk.injEq] at he
    obtain ⟨rfl, rfl⟩ := he
    simp [ih hi]

/-- A literal takes up some of the text. -/
theorem length_of_closeLiteral? {quote : Char} {cs interior after : List Char}
    (h : closeLiteral? quote cs = some (interior, after)) : after.length < cs.length + 1 := by
  rw [eq_of_closeLiteral? h, List.length_append, List.length_cons]
  omega

/-- A part of a line: one character outside literals, or a whole literal. -/
inductive Piece where
  | plain (c : Char)
  | literal (quote : Char) (interior : List Char)
  deriving DecidableEq

/-- The text of a piece. -/
def Piece.source : Piece → List Char
  | .plain c => [c]
  | .literal quote interior => quote :: (interior ++ [quote])

/-- A text as literals and plain characters, the literals found from left to right. -/
def pieces : List Char → List Piece
  | [] => []
  | c :: cs =>
    if isQuote c then
      match h : closeLiteral? c cs with
      | some (interior, after) =>
        have := length_of_closeLiteral? h
        .literal c interior :: pieces after
      | none => .plain c :: pieces cs
    else .plain c :: pieces cs
termination_by cs => cs.length

/-- Nothing is lost when a text is cut into pieces. -/
theorem flatMap_source_pieces (cs : List Char) : (pieces cs).flatMap Piece.source = cs := by
  fun_induction pieces cs with
  | case1 => rfl
  | case2 c cs hc interior after h _ ih =>
    simp [Piece.source, ih, eq_of_closeLiteral? h]
  | case3 c cs hc h ih => simp [Piece.source, ih]
  | case4 c cs hc ih => simp [Piece.source, ih]

/-! ## Looking past literals -/

/-- A piece with blanks for the interior of a literal. -/
def Piece.masked : Piece → List Char
  | .plain c => [c]
  | .literal quote interior => quote :: (List.replicate interior.length ' ' ++ [quote])

theorem Piece.length_masked (p : Piece) : p.masked.length = p.source.length := by
  cases p <;> simp [Piece.masked, Piece.source]

/-- A text with the interior of every literal blanked. -/
def maskLiterals (cs : List Char) : List Char := (pieces cs).flatMap Piece.masked

/-- Blanking keeps every column in its place. -/
theorem length_maskLiterals (cs : List Char) : (maskLiterals cs).length = cs.length := by
  rw [maskLiterals, List.length_flatMap]
  simp only [Piece.length_masked]
  rw [← List.length_flatMap, flatMap_source_pieces]

/-- A text with every literal replaced by an empty one. -/
def emptyLiterals (cs : List Char) : List Char :=
  (pieces cs).flatMap fun
    | .plain c => [c]
    | .literal _ _ => ['"', '"']

/-- The character that stands for a literal. -/
def literalMark : Char := '\x01'

/-- A text with every literal replaced by its mark, set off by spaces. -/
def markLiterals (cs : List Char) : List Char :=
  (pieces cs).flatMap fun
    | .plain c => [c]
    | .literal _ _ => [' ', literalMark, ' ']

end Provenance.Lexis

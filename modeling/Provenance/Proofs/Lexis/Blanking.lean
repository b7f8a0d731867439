import Provenance.Proofs.Lexis.Literal

/-!
# Proofs — Lexis — Blanking

Blanking keeps the shape of a text. What a literal is, and which literals a text has, is said by a
grammar and by reading from left to right (`IsInterior`, `FindsLiterals`); cutting a text into
pieces finds just these (`findsLiterals_iff`). A blanked text closes no quote that the text leaves
open (`closesNoMore_maskLiterals`), since whoever reads past a literal is in the same state behind
it as before it. So it is cut into the same pieces with blanked interiors (`pieces_maskLiterals`),
and blanking it again changes nothing (`blanking_keeps_shape`).
-/

namespace Provenance.Lexis

/-! ## Literals -/

/-- The interior of a literal of some quote: characters other than the quote and the backslash, and
backslashes, each with a character behind it that is no line feed. -/
inductive IsInterior (quote : Char) : List Char → Prop
  | nil : IsInterior quote []
  | char {c : Char} {cs : List Char} (hquote : c ≠ quote) (hescape : c ≠ '\\')
    (later : IsInterior quote cs) : IsInterior quote (c :: cs)
  | escape {d : Char} {cs : List Char} (hd : d ≠ '\n') (later : IsInterior quote cs) :
    IsInterior quote ('\\' :: d :: cs)

/-- A literal stands at the beginning of a text. -/
def BeginsWithLiteral (cs : List Char) : Prop :=
  ∃ quote interior after, isQuote quote = true ∧ IsInterior quote interior ∧
    cs = quote :: (interior ++ quote :: after)

/-- Where the quotes of a literal stand. -/
structure Span where
  start : Nat
  stop : Nat
  deriving DecidableEq

/-- The literals of a text whose first character stands at some position, found from left to right:
where a literal begins, reading goes on behind it, and elsewhere behind the character. -/
inductive FindsLiterals : Nat → List Char → List Span → Prop
  | done {i : Nat} : FindsLiterals i [] []
  | literal {i : Nat} {quote : Char} {interior after : List Char} {spans : List Span}
    (hquote : isQuote quote = true) (hinterior : IsInterior quote interior)
    (later : FindsLiterals (i + interior.length + 2) after spans) :
    FindsLiterals i (quote :: (interior ++ quote :: after))
      (⟨i, i + interior.length + 1⟩ :: spans)
  | skip {i : Nat} {c : Char} {cs : List Char} {spans : List Span}
    (hnone : ¬BeginsWithLiteral (c :: cs)) (later : FindsLiterals (i + 1) cs spans) :
    FindsLiterals i (c :: cs) spans

theorem isInterior_of_closeLiteral? {quote : Char} {cs interior after : List Char}
    (h : closeLiteral? quote cs = some (interior, after)) : IsInterior quote interior := by
  fun_induction closeLiteral? quote cs generalizing interior with
  | case1 => cases h
  | case2 =>
    obtain ⟨rfl, _⟩ := Prod.mk.inj (Option.some.inj h)
    exact .nil
  | case3 => cases h
  | case4 => cases h
  | case5 d cs hd hquote ih =>
    obtain ⟨⟨inner, behind⟩, hinner, heq⟩ := Option.map_eq_some_iff.1 h
    obtain ⟨rfl, rfl⟩ := Prod.mk.inj heq
    exact .escape hd (ih hinner)
  | case6 c cs hquote hescape ih =>
    obtain ⟨⟨inner, behind⟩, hinner, heq⟩ := Option.map_eq_some_iff.1 h
    obtain ⟨rfl, rfl⟩ := Prod.mk.inj heq
    exact .char hquote hescape (ih hinner)

/-- **A literal is closed by the first quote that its grammar admits.** -/
theorem closeLiteral?_interior {quote : Char} (hquote : isQuote quote = true)
    {interior : List Char} (h : IsInterior quote interior) (after : List Char) :
    closeLiteral? quote (interior ++ quote :: after) = some (interior, after) := by
  have hne : '\\' ≠ quote := (ne_of_class hquote (by decide)).symm
  induction h with
  | nil => exact closeLiteral?_quote quote after
  | char hc hescape _ ih =>
    rw [List.cons_append, closeLiteral?_char hc hescape, ih]
    rfl
  | escape hd _ ih =>
    rw [List.cons_append, List.cons_append, closeLiteral?_escape hne hd, ih]
    rfl

theorem not_beginsWithLiteral {c : Char} {cs : List Char}
    (h : isQuote c = true → closeLiteral? c cs = none) : ¬BeginsWithLiteral (c :: cs) := by
  rintro ⟨quote, interior, after, hquote, hinterior, heq⟩
  obtain ⟨rfl, rfl⟩ := List.cons.inj heq
  rw [closeLiteral?_interior hquote hinterior] at h
  cases h hquote

/-! ## Spans of pieces -/

/-- Where the literals among some pieces stand. -/
def spansFrom : Nat → List Piece → List Span
  | _, [] => []
  | i, .plain _ :: ps => spansFrom (i + 1) ps
  | i, .literal _ interior :: ps =>
    ⟨i, i + interior.length + 1⟩ :: spansFrom (i + interior.length + 2) ps

/-- A character at which no literal begins is a piece by itself. -/
theorem pieces_cons_skip {c : Char} {cs : List Char} (h : ¬BeginsWithLiteral (c :: cs)) :
    pieces (c :: cs) = .plain c :: pieces cs := by
  cases hquote : isQuote c with
  | false => exact pieces_cons_plain hquote cs
  | true =>
    cases hclose : closeLiteral? c cs with
    | none => exact pieces_cons_unclosed hclose
    | some found =>
      refine absurd ⟨c, found.1, found.2, hquote, isInterior_of_closeLiteral? hclose, ?_⟩ h
      rw [eq_of_closeLiteral? hclose]

/-- **The literals of a text are those that it is cut into.** -/
theorem findsLiterals_iff {i : Nat} {cs : List Char} {spans : List Span} :
    FindsLiterals i cs spans ↔ spans = spansFrom i (pieces cs) := by
  constructor
  · intro h
    induction h with
    | done => rw [pieces, spansFrom]
    | literal hquote hinterior _ ih =>
      rw [pieces_cons_literal hquote (closeLiteral?_interior hquote hinterior _), spansFrom, ih]
    | skip hnone _ ih => rw [pieces_cons_skip hnone, spansFrom, ih]
  · rintro rfl
    fun_induction pieces cs generalizing i with
    | case1 => exact .done
    | case2 c cs hquote interior after hclose _ ih =>
      rw [eq_of_closeLiteral? hclose, spansFrom]
      exact .literal hquote (isInterior_of_closeLiteral? hclose) ih
    | case3 c cs hquote hclose ih => exact .skip (not_beginsWithLiteral fun _ => hclose) ih
    | case4 c cs hquote ih => exact .skip (not_beginsWithLiteral fun h => absurd h hquote) ih

/-! ## Quotes that stay open -/

/-- Blanks close no quote. -/
theorem closes_blanks {quote : Char} (hquote : isQuote quote = true) (count : Nat)
    (cs : List Char) : closes quote (List.replicate count ' ' ++ cs) = closes quote cs := by
  have hne : ' ' ≠ quote := (ne_of_class hquote (by decide)).symm
  induction count with
  | zero => rfl
  | succ count ih => rw [List.replicate_succ, List.cons_append, closes_char hne (by decide), ih]

/-- Whoever reads past the interior of a literal has met a quote that closes, or goes on as at its
beginning. -/
theorem closes_interior {quote c : Char} (hquote : isQuote quote = true) {interior cs : List Char}
    (h : IsInterior c interior) (hcs : closes quote cs = true) :
    closes quote (interior ++ cs) = true := by
  induction h with
  | nil => exact hcs
  | @char d ds _ hescape _ ih =>
    by_cases hd : d = quote
    · subst hd
      exact closes_quote d _
    · rwa [List.cons_append, closes_char hd hescape]
  | escape hd _ ih => rwa [List.cons_append, List.cons_append, closes_escape hquote hd]

namespace ClosesNoMore

variable {view cs : List Char}

/-- A literal in front of them, in one of them blanked. -/
theorem literal (h : ClosesNoMore view cs) {c : Char} (hc : isQuote c = true)
    {interior : List Char} (hinterior : IsInterior c interior) :
    ClosesNoMore (c :: (List.replicate interior.length ' ' ++ c :: view))
      (c :: (interior ++ c :: cs)) := by
  intro quote hquote
  have hinside : closes quote (List.replicate interior.length ' ' ++ c :: view) = true →
      closes quote (interior ++ c :: cs) = true := by
    rw [closes_blanks hquote]
    intro hview
    exact closes_interior hquote hinterior ((h.cons c quote hquote).1 hview)
  have hescape : c ≠ '\\' := ne_of_class hc (by decide)
  have hfeed : c ≠ '\n' := ne_of_class hc (by decide)
  constructor
  · by_cases hsame : c = quote
    · subst hsame
      intro _
      exact closes_quote c _
    · rw [closes_char hsame hescape, closes_char hsame hescape]
      exact hinside
  · rw [closes_escape hquote hfeed, closes_escape hquote hfeed]
    exact hinside

end ClosesNoMore

/-- **A blanked text closes no quote that the text leaves open.** -/
theorem closesNoMore_maskLiterals (cs : List Char) : ClosesNoMore (maskLiterals cs) cs := by
  fun_induction pieces cs with
  | case1 =>
    rw [maskLiterals_nil]
    exact fun _ _ => ⟨id, id⟩
  | case2 c cs hquote interior after hclose _ ih =>
    rw [maskLiterals_cons_literal hquote hclose, eq_of_closeLiteral? hclose]
    exact ih.literal hquote (isInterior_of_closeLiteral? hclose)
  | case3 c cs _ hclose ih =>
    rw [maskLiterals_cons_unclosed hclose]
    exact ih.cons c
  | case4 c cs hquote ih =>
    rw [maskLiterals_cons_plain (by simpa using hquote)]
    exact ih.cons c

/-! ## Blanked pieces -/

/-- A piece whose interior is blanked. -/
def Piece.blanked : Piece → Piece
  | .plain c => .plain c
  | .literal quote interior => .literal quote (List.replicate interior.length ' ')

theorem isInterior_blanks {quote : Char} (hquote : isQuote quote = true) (count : Nat) :
    IsInterior quote (List.replicate count ' ') := by
  induction count with
  | zero => exact .nil
  | succ count ih =>
    rw [List.replicate_succ]
    exact .char (ne_of_class hquote (by decide)).symm (by decide) ih

/-- **A blanked text is cut where the text is cut.** -/
theorem pieces_maskLiterals (cs : List Char) :
    pieces (maskLiterals cs) = (pieces cs).map Piece.blanked := by
  fun_induction pieces cs with
  | case1 =>
    rw [maskLiterals_nil, pieces]
    rfl
  | case2 c cs hquote interior after hclose _ ih =>
    have hblanks := closeLiteral?_interior hquote (isInterior_blanks hquote interior.length)
      (maskLiterals after)
    rw [maskLiterals_cons_literal hquote hclose, pieces_cons_literal hquote hblanks, ih]
    rfl
  | case3 c cs hquote hclose ih =>
    have hopen : closeLiteral? c (maskLiterals cs) = none := by
      have hmore := (closesNoMore_maskLiterals cs c hquote).1
      rw [closes, closes, hclose] at hmore
      cases h : closeLiteral? c (maskLiterals cs) with
      | none => rfl
      | some found =>
        rw [h] at hmore
        cases hmore rfl
    rw [maskLiterals_cons_unclosed hclose, pieces_cons_unclosed hopen, ih]
    rfl
  | case4 c cs hquote ih =>
    have hplain : isQuote c = false := by simpa using hquote
    rw [maskLiterals_cons_plain hplain, pieces_cons_plain hplain, ih]
    rfl

theorem spansFrom_blanked (i : Nat) (ps : List Piece) :
    spansFrom i (ps.map Piece.blanked) = spansFrom i ps := by
  induction ps generalizing i with
  | nil => rfl
  | cons p ps ih =>
    cases p with
    | plain c => exact ih (i + 1)
    | literal quote interior =>
      rw [List.map_cons, Piece.blanked, spansFrom, spansFrom, List.length_replicate, ih]

theorem maskLiterals_maskLiterals (cs : List Char) :
    maskLiterals (maskLiterals cs) = maskLiterals cs := by
  rw [maskLiterals, pieces_maskLiterals, maskLiterals, List.flatMap_map]
  congr 1
  funext p
  cases p <;> simp [Piece.blanked, Piece.masked]

theorem emptyLiterals_maskLiterals (cs : List Char) :
    emptyLiterals (maskLiterals cs) = emptyLiterals cs := by
  rw [emptyLiterals, pieces_maskLiterals, emptyLiterals, List.flatMap_map]
  congr 1
  funext p
  cases p <;> rfl

/-! ## Positions -/

/-- A position between the quotes of one of the literals. -/
def IsInside (spans : List Span) (n : Nat) : Prop := ∃ s ∈ spans, s.start < n ∧ n < s.stop

instance (spans : List Span) (n : Nat) : Decidable (IsInside spans n) :=
  inferInstanceAs (Decidable (∃ s ∈ spans, s.start < n ∧ n < s.stop))

theorem isInside_cons {s : Span} {spans : List Span} {n : Nat} :
    IsInside (s :: spans) n ↔ (s.start < n ∧ n < s.stop) ∨ IsInside spans n := by
  simp [IsInside]

/-- No literal begins before the pieces do. -/
theorem le_start_of_mem_spansFrom {i : Nat} {ps : List Piece} {s : Span}
    (h : s ∈ spansFrom i ps) : i ≤ s.start := by
  induction ps generalizing i with
  | nil => cases h
  | cons p ps ih =>
    cases p with
    | plain c => exact (Nat.le_succ i).trans (ih h)
    | literal quote interior =>
      obtain rfl | hlater := List.mem_cons.1 h
      · exact Nat.le_refl i
      · have hbehind := ih hlater
        omega

/-- The positions of the first piece and all before it are inside no literal behind it. -/
theorem not_isInside_of_le {i n : Nat} {ps : List Piece} (h : n ≤ i) :
    ¬IsInside (spansFrom i ps) n := by
  rintro ⟨s, hs, hstart, _⟩
  have hle := le_start_of_mem_spansFrom hs
  omega

/-- What stands between the quotes of a blanked literal, and what stands elsewhere in it. -/
theorem getElem?_masked_literal (quote : Char) (interior : List Char) (n : Nat) :
    (Piece.literal quote interior).masked[n]? =
      if 0 < n ∧ n < interior.length + 1 then some ' '
      else (Piece.literal quote interior).source[n]? := by
  cases n with
  | zero => simp [Piece.masked, Piece.source]
  | succ n =>
    simp only [Piece.masked, Piece.source, List.getElem?_cons_succ, List.getElem?_append,
      List.length_replicate]
    by_cases hn : n < interior.length <;> simp [hn]

/-- **Blanking writes blanks between the quotes of the literals and nothing elsewhere.** -/
theorem getElem?_flatMap_masked (ps : List Piece) (i n : Nat) :
    (ps.flatMap Piece.masked)[n]? =
      if IsInside (spansFrom i ps) (i + n) then some ' ' else (ps.flatMap Piece.source)[n]? := by
  induction ps generalizing i n with
  | nil => simp [spansFrom, IsInside]
  | cons p ps ih =>
    rw [List.flatMap_cons, List.flatMap_cons]
    cases p with
    | plain c =>
      rw [spansFrom]
      cases n with
      | zero => simp [Piece.masked, Piece.source, not_isInside_of_le]
      | succ n =>
        have hbehind := ih (i + 1) n
        rw [Nat.add_right_comm] at hbehind
        exact hbehind
    | literal quote interior =>
      rw [spansFrom]
      have hlength : (Piece.literal quote interior).source.length = interior.length + 2 := by
        simp [Piece.source]
      by_cases hn : n < interior.length + 2
      · have hlater : ¬IsInside (spansFrom (i + interior.length + 2) ps) (i + n) :=
          not_isInside_of_le (by omega)
        rw [List.getElem?_append_left (by rw [Piece.length_masked, hlength]; exact hn),
          List.getElem?_append_left (by rw [hlength]; exact hn), getElem?_masked_literal]
        simp only [isInside_cons, hlater, or_false]
        congr 1
        simp only [eq_iff_iff]
        omega
      · have hbehind := ih (i + interior.length + 2) (n - (interior.length + 2))
        have hwhere : i + interior.length + 2 + (n - (interior.length + 2)) = i + n := by omega
        rw [hwhere] at hbehind
        rw [List.getElem?_append_right (by rw [Piece.length_masked, hlength]; omega),
          List.getElem?_append_right (by rw [hlength]; omega), Piece.length_masked, hlength,
          hbehind]
        have hfirst : ¬(i < i + n ∧ i + n < i + interior.length + 1) := by omega
        simp only [isInside_cons, hfirst, false_or]

/-- **Blanking keeps the shape of a text.** Reading a text from left to right finds its literals in
one way only, and reading the blanked text finds them at the same positions. The blanked text is as
long as the text, has a blank at every position between the quotes of a literal, and has the text's
own character everywhere else. So blanking it again changes nothing, and neither does blanking a
text before its literals are emptied. -/
theorem blanking_keeps_shape (cs : List Char) :
    ∃ spans, (∀ found, FindsLiterals 0 cs found ↔ found = spans) ∧
      (∀ found, FindsLiterals 0 (maskLiterals cs) found ↔ found = spans) ∧
      (maskLiterals cs).length = cs.length ∧
      (∀ n, (maskLiterals cs)[n]? = if IsInside spans n then some ' ' else cs[n]?) ∧
      maskLiterals (maskLiterals cs) = maskLiterals cs ∧
      emptyLiterals (maskLiterals cs) = emptyLiterals cs := by
  refine ⟨spansFrom 0 (pieces cs), fun found => findsLiterals_iff, fun found => ?_,
    length_maskLiterals cs, fun n => ?_, maskLiterals_maskLiterals cs,
    emptyLiterals_maskLiterals cs⟩
  · rw [findsLiterals_iff, pieces_maskLiterals, spansFrom_blanked]
  · have hmasked := getElem?_flatMap_masked (pieces cs) 0 n
    rwa [Nat.zero_add, flatMap_source_pieces] at hmasked

end Provenance.Lexis

import Provenance.Lexis.Literal
import Provenance.Proofs.Text.Search

/-!
# Proofs — Lexis — Literal

How literals are read from left to right. A literal is closed by the same quote whatever follows it
(`closeLiteral?_congr`), so what stands behind a place outside literals is blanked by itself
(`OutsideLiterals.exists_mask`). Blanking shows the text in its columns (`shows_maskLiterals`). Two
texts are compared by the quotes in front of them that they close (`ClosesNoMore`).
-/

namespace Provenance.Lexis

open Text

/-! ## Closing -/

theorem closeLiteral?_quote (quote : Char) (cs : List Char) :
    closeLiteral? quote (quote :: cs) = some ([], cs) := by
  rw [closeLiteral?.eq_def]
  exact if_pos rfl

theorem closeLiteral?_escape {quote d : Char} (hquote : '\\' ≠ quote) (hd : d ≠ '\n')
    (cs : List Char) : closeLiteral? quote ('\\' :: d :: cs) =
      (closeLiteral? quote cs).map fun found => ('\\' :: d :: found.1, found.2) := by
  rw [closeLiteral?.eq_def]
  dsimp only
  rw [if_neg hquote, if_pos rfl, if_neg hd]

theorem closeLiteral?_lineFeed {quote : Char} (hquote : '\\' ≠ quote) (cs : List Char) :
    closeLiteral? quote ('\\' :: '\n' :: cs) = none := by
  rw [closeLiteral?.eq_def]
  dsimp only
  rw [if_neg hquote, if_pos rfl, if_pos rfl]

theorem closeLiteral?_char {quote c : Char} (hquote : c ≠ quote) (hescape : c ≠ '\\')
    (cs : List Char) : closeLiteral? quote (c :: cs) =
      (closeLiteral? quote cs).map fun found => (c :: found.1, found.2) := by
  rw [closeLiteral?.eq_def]
  dsimp only
  rw [if_neg hquote, if_neg hescape]

/-- **A literal is closed by the same quote whatever follows it.** -/
theorem closeLiteral?_congr {quote : Char} {cs interior after : List Char}
    (h : closeLiteral? quote cs = some (interior, after)) (more : List Char) :
    closeLiteral? quote (interior ++ quote :: more) = some (interior, more) := by
  fun_induction closeLiteral? quote cs generalizing interior with
  | case1 => cases h
  | case2 =>
    obtain ⟨rfl, rfl⟩ := Prod.mk.inj (Option.some.inj h)
    exact closeLiteral?_quote quote more
  | case3 => cases h
  | case4 => cases h
  | case5 d cs hd hquote ih =>
    obtain ⟨⟨inner, behind⟩, hinner, heq⟩ := Option.map_eq_some_iff.1 h
    obtain ⟨rfl, rfl⟩ := Prod.mk.inj heq
    rw [List.cons_append, List.cons_append, closeLiteral?_escape hquote hd, ih hinner]
    rfl
  | case6 c cs hquote hescape ih =>
    obtain ⟨⟨inner, behind⟩, hinner, heq⟩ := Option.map_eq_some_iff.1 h
    obtain ⟨rfl, rfl⟩ := Prod.mk.inj heq
    rw [List.cons_append, closeLiteral?_char hquote hescape, ih hinner]
    rfl

/-- What closes a literal is its quote. -/
theorem closeLiteral?_eq_none {quote : Char} {cs : List Char} (h : quote ∉ cs) :
    closeLiteral? quote cs = none := by
  cases hclose : closeLiteral? quote cs with
  | none => rfl
  | some found =>
    rw [eq_of_closeLiteral? hclose] at h
    exact absurd (List.mem_append_right _ List.mem_cons_self) h

/-- A text without the quote closes nothing that is open in front of it. -/
theorem closeLiteral?_append {quote : Char} {back : List Char} (hback : quote ∉ back)
    (cs : List Char) : closeLiteral? quote (cs ++ back) =
      (closeLiteral? quote cs).map fun found => (found.1, found.2 ++ back) := by
  fun_induction closeLiteral? quote cs with
  | case1 => exact closeLiteral?_eq_none hback
  | case2 cs => exact closeLiteral?_quote quote (cs ++ back)
  | case3 hquote =>
    apply closeLiteral?_eq_none
    intro hmem
    exact (List.mem_append.1 hmem).elim (fun h => hquote (List.mem_singleton.1 h).symm) hback
  | case4 cs hquote => exact closeLiteral?_lineFeed hquote (cs ++ back)
  | case5 d cs hd hquote ih =>
    rw [List.cons_append, List.cons_append, closeLiteral?_escape hquote hd, ih, Option.map_map,
      Option.map_map]
    rfl
  | case6 c cs hquote hescape ih =>
    rw [List.cons_append, closeLiteral?_char hquote hescape, ih, Option.map_map, Option.map_map]
    rfl

/-! ## Quotes that are closed -/

/-- What a class holds is none of what it does not hold. -/
theorem ne_of_class {α : Type} {p : α → Bool} {a b : α} (ha : p a = true) (hb : p b = false) :
    a ≠ b := by
  rintro rfl
  rw [ha] at hb
  cases hb

/-- Whether a quote in front of a text is closed in it. -/
def closes (quote : Char) (cs : List Char) : Bool := (closeLiteral? quote cs).isSome

theorem closes_escape {quote d : Char} (hquote : isQuote quote = true) (hd : d ≠ '\n')
    (cs : List Char) : closes quote ('\\' :: d :: cs) = closes quote cs := by
  have hne : '\\' ≠ quote := (ne_of_class hquote (by decide)).symm
  rw [closes, closeLiteral?_escape hne hd, Option.isSome_map]
  rfl

theorem closes_char {quote c : Char} (hquote : c ≠ quote) (hescape : c ≠ '\\') (cs : List Char) :
    closes quote (c :: cs) = closes quote cs := by
  rw [closes, closeLiteral?_char hquote hescape, Option.isSome_map]
  rfl

theorem closes_quote (quote : Char) (cs : List Char) : closes quote (quote :: cs) = true := by
  rw [closes, closeLiteral?_quote]
  rfl

theorem closes_lineFeed {quote : Char} (hquote : isQuote quote = true) (cs : List Char) :
    closes quote ('\\' :: '\n' :: cs) = false := by
  rw [closes, closeLiteral?_lineFeed (ne_of_class hquote (by decide)).symm]
  rfl

/-- A text closes no quote in front of it that another text leaves open, also behind an escape. -/
def ClosesNoMore (view cs : List Char) : Prop :=
  ∀ quote, isQuote quote = true →
    (closes quote view = true → closes quote cs = true) ∧
      (closes quote ('\\' :: view) = true → closes quote ('\\' :: cs) = true)

/-- A common character in front of them. -/
theorem ClosesNoMore.cons {view cs : List Char} (h : ClosesNoMore view cs) (c : Char) :
    ClosesNoMore (c :: view) (c :: cs) := by
  intro quote hquote
  obtain ⟨hplain, hescaped⟩ := h quote hquote
  constructor
  · by_cases hc : c = quote
    · subst hc
      intro _
      exact closes_quote c cs
    · by_cases hescape : c = '\\'
      · subst hescape
        exact hescaped
      · rw [closes_char hc hescape, closes_char hc hescape]
        exact hplain
  · by_cases hfeed : c = '\n'
    · subst hfeed
      rw [closes_lineFeed hquote]
      intro h
      cases h
    · rw [closes_escape hquote hfeed, closes_escape hquote hfeed]
      exact hplain

/-! ## Blanking -/

theorem pieces_cons_plain {c : Char} (h : isQuote c = false) (cs : List Char) :
    pieces (c :: cs) = .plain c :: pieces cs := by
  rw [pieces, if_neg (by simp [h])]

theorem pieces_cons_unclosed {c : Char} {cs : List Char} (h : closeLiteral? c cs = none) :
    pieces (c :: cs) = .plain c :: pieces cs := by
  rw [pieces]
  split
  · split
    · simp_all
    · rfl
  · rfl

theorem pieces_cons_literal {c : Char} {cs interior after : List Char} (hquote : isQuote c = true)
    (h : closeLiteral? c cs = some (interior, after)) :
    pieces (c :: cs) = .literal c interior :: pieces after := by
  rw [pieces, if_pos hquote]
  split <;> simp_all

theorem maskLiterals_nil : maskLiterals [] = [] := by
  rw [maskLiterals, pieces]
  rfl

theorem maskLiterals_cons_plain {c : Char} (h : isQuote c = false) (cs : List Char) :
    maskLiterals (c :: cs) = c :: maskLiterals cs := by
  rw [maskLiterals, pieces_cons_plain h]
  rfl

theorem maskLiterals_cons_unclosed {c : Char} {cs : List Char} (h : closeLiteral? c cs = none) :
    maskLiterals (c :: cs) = c :: maskLiterals cs := by
  rw [maskLiterals, pieces_cons_unclosed h]
  rfl

theorem maskLiterals_cons_literal {c : Char} {cs interior after : List Char}
    (hquote : isQuote c = true) (h : closeLiteral? c cs = some (interior, after)) :
    maskLiterals (c :: cs) =
      c :: (List.replicate interior.length ' ' ++ c :: maskLiterals after) := by
  rw [maskLiterals, pieces_cons_literal hquote h, List.flatMap_cons, Piece.masked,
    List.cons_append, List.append_assoc]
  rfl

/-- **A blanked text shows the text in its columns.** -/
theorem shows_maskLiterals (cs : List Char) : Shows (maskLiterals cs) cs := by
  fun_induction pieces cs with
  | case1 =>
    rw [maskLiterals_nil]
    exact .nil
  | case2 c cs hquote interior after h _ ih =>
    rw [maskLiterals_cons_literal hquote h, eq_of_closeLiteral? h]
    exact .same (.blanks (.same ih) interior)
  | case3 c cs _ h ih =>
    rw [maskLiterals_cons_unclosed h]
    exact .same ih
  | case4 c cs hquote ih =>
    rw [maskLiterals_cons_plain (by simpa using hquote)]
    exact .same ih

/-- Blanking leaves the first character. -/
theorem exists_maskLiterals_cons (c : Char) (cs : List Char) :
    ∃ view, maskLiterals (c :: cs) = c :: view := by
  cases hquote : isQuote c with
  | false => exact ⟨_, maskLiterals_cons_plain hquote cs⟩
  | true =>
    cases h : closeLiteral? c cs with
    | none => exact ⟨_, maskLiterals_cons_unclosed h⟩
    | some found => exact ⟨_, maskLiterals_cons_literal hquote h⟩

/-- A text without quotes. -/
def IsQuoteless (cs : List Char) : Prop := ∀ c ∈ cs, isQuote c = false

theorem pieces_quoteless_append {front : List Char} (h : IsQuoteless front) (rest : List Char) :
    pieces (front ++ rest) = front.map Piece.plain ++ pieces rest := by
  induction front with
  | nil => rfl
  | cons c front ih =>
    rw [List.cons_append, pieces_cons_plain (h c List.mem_cons_self),
      ih fun d hd => h d (List.mem_cons_of_mem _ hd)]
    rfl

theorem maskLiterals_quoteless_append {front : List Char} (h : IsQuoteless front)
    (rest : List Char) : maskLiterals (front ++ rest) = front ++ maskLiterals rest := by
  rw [maskLiterals, pieces_quoteless_append h, List.flatMap_append, List.flatMap_map]
  congr 1
  exact List.flatMap_singleton' front

theorem maskLiterals_quoteless {cs : List Char} (h : IsQuoteless cs) : maskLiterals cs = cs := by
  have happend := maskLiterals_quoteless_append h []
  rwa [maskLiterals_nil, List.append_nil] at happend

/-- Where no quote stands, nothing in front of it is closed. -/
theorem maskLiterals_append_quoteless {back : List Char} (hback : IsQuoteless back)
    (cs : List Char) : maskLiterals (cs ++ back) = maskLiterals cs ++ back := by
  have hnot : ∀ {c : Char}, isQuote c = true → c ∉ back := by
    intro c hquote hc
    rw [hback c hc] at hquote
    cases hquote
  fun_induction pieces cs with
  | case1 => rw [maskLiterals_nil, List.nil_append, maskLiterals_quoteless hback]
  | case2 c cs hquote interior after h _ ih =>
    have hclose : closeLiteral? c (cs ++ back) = some (interior, after ++ back) := by
      rw [closeLiteral?_append (hnot hquote), h]
      rfl
    rw [List.cons_append, maskLiterals_cons_literal hquote hclose, ih,
      maskLiterals_cons_literal hquote h]
    simp only [List.cons_append, List.append_assoc]
  | case3 c cs hquote h ih =>
    have hclose : closeLiteral? c (cs ++ back) = none := by
      rw [closeLiteral?_append (hnot hquote), h]
      rfl
    rw [List.cons_append, maskLiterals_cons_unclosed hclose, ih, maskLiterals_cons_unclosed h,
      List.cons_append]
  | case4 c cs hquote ih =>
    have hplain : isQuote c = false := by simpa using hquote
    rw [List.cons_append, maskLiterals_cons_plain hplain, ih, maskLiterals_cons_plain hplain,
      List.cons_append]

/-! ## Marks -/

theorem markLiterals_nil : markLiterals [] = [] := by
  rw [markLiterals, pieces]
  rfl

/-- A character that opens no literal stays. -/
theorem markLiterals_cons_plain {c : Char} {cs : List Char}
    (h : isQuote c = true → closeLiteral? c cs = none) :
    markLiterals (c :: cs) = c :: markLiterals cs := by
  have hpieces : pieces (c :: cs) = .plain c :: pieces cs := by
    cases hquote : isQuote c with
    | false => exact pieces_cons_plain hquote cs
    | true => exact pieces_cons_unclosed (h hquote)
  rw [markLiterals, hpieces]
  rfl

theorem markLiterals_cons_literal {c : Char} {cs interior after : List Char}
    (hquote : isQuote c = true) (h : closeLiteral? c cs = some (interior, after)) :
    markLiterals (c :: cs) = ' ' :: literalMark :: ' ' :: markLiterals after := by
  rw [markLiterals, pieces_cons_literal hquote h]
  rfl

theorem markLiterals_quoteless_append {front : List Char} (h : IsQuoteless front)
    (rest : List Char) : markLiterals (front ++ rest) = front ++ markLiterals rest := by
  rw [markLiterals, pieces_quoteless_append h, List.flatMap_append, List.flatMap_map]
  congr 1
  exact List.flatMap_singleton' front

/-! ## Places outside literals -/

/-- The place between two parts of a line is outside literals when the line is read from left to
right. A quote that no other quote closes, wherever in the line, is a character like others. -/
inductive OutsideLiterals : List Char → List Char → Prop
  | start {rest : List Char} : OutsideLiterals [] rest
  | plain {c : Char} {front rest : List Char} (hplain : isQuote c = false)
    (later : OutsideLiterals front rest) : OutsideLiterals (c :: front) rest
  | unclosed {c : Char} {front rest : List Char} (hclose : closeLiteral? c (front ++ rest) = none)
    (later : OutsideLiterals front rest) : OutsideLiterals (c :: front) rest
  | literal {c : Char} {interior front rest : List Char} (hquote : isQuote c = true)
    (hclose : closeLiteral? c (interior ++ c :: (front ++ rest)) = some (interior, front ++ rest))
    (later : OutsideLiterals front rest) : OutsideLiterals (c :: (interior ++ c :: front)) rest

theorem outsideLiterals_quoteless {front : List Char} (h : IsQuoteless front) (rest : List Char) :
    OutsideLiterals front rest := by
  induction front with
  | nil => exact .start
  | cons c front ih =>
    exact .plain (h c List.mem_cons_self) (ih fun d hd => h d (List.mem_cons_of_mem _ hd))

/-- **Behind a place outside literals a line is blanked by itself**, and what stands in front of it
is blanked in the same way for all lines in which the place is outside literals. -/
theorem OutsideLiterals.exists_mask {front rest rest' : List Char} (h : OutsideLiterals front rest)
    (h' : OutsideLiterals front rest') :
    ∃ view, maskLiterals (front ++ rest) = view ++ maskLiterals rest ∧
      maskLiterals (front ++ rest') = view ++ maskLiterals rest' := by
  induction h with
  | start => exact ⟨[], rfl, rfl⟩
  | @plain c front rest hplain later ih =>
    have hlater : OutsideLiterals front rest' := by
      cases h' with
      | plain _ later' => exact later'
      | unclosed _ later' => exact later'
      | literal hquote => exact absurd hquote (by simp [hplain])
    obtain ⟨view, hview, hview'⟩ := ih hlater
    refine ⟨c :: view, ?_, ?_⟩
    · rw [List.cons_append, maskLiterals_cons_plain hplain, hview, List.cons_append]
    · rw [List.cons_append, maskLiterals_cons_plain hplain, hview', List.cons_append]
  | @unclosed c front rest hclose later ih =>
    have hlater : OutsideLiterals front rest' ∧
        maskLiterals (c :: (front ++ rest')) = c :: maskLiterals (front ++ rest') := by
      cases h' with
      | plain hplain later' => exact ⟨later', maskLiterals_cons_plain hplain _⟩
      | unclosed hclose' later' => exact ⟨later', maskLiterals_cons_unclosed hclose'⟩
      | literal _ hclose' =>
        -- the quote that closes it stands in front of the place, and so in the other line too
        rw [List.append_assoc, List.cons_append, closeLiteral?_congr hclose'] at hclose
        cases hclose
    obtain ⟨view, hview, hview'⟩ := ih hlater.1
    refine ⟨c :: view, ?_, ?_⟩
    · rw [List.cons_append, maskLiterals_cons_unclosed hclose, hview, List.cons_append]
    · rw [List.cons_append, hlater.2, hview', List.cons_append]
  | @literal c interior front rest hquote hclose later ih =>
    have hclose' := closeLiteral?_congr hclose (front ++ rest')
    have hlater : OutsideLiterals front rest' := by
      generalize hwhole : c :: (interior ++ c :: front) = whole at h'
      cases h' with
      | start => cases hwhole
      | plain hplain =>
        obtain ⟨rfl, _⟩ := List.cons.inj hwhole
        exact absurd hquote (by simp [hplain])
      | unclosed hnone =>
        obtain ⟨rfl, rfl⟩ := List.cons.inj hwhole
        rw [List.append_assoc, List.cons_append, hclose'] at hnone
        cases hnone
      | literal _ hother later' =>
        obtain ⟨rfl, hsame⟩ := List.cons.inj hwhole
        rw [← List.cons_append, ← List.append_assoc, ← hsame, List.append_assoc,
          List.cons_append, hclose'] at hother
        obtain ⟨_, hfront⟩ := Prod.mk.inj (Option.some.inj hother)
        exact List.append_cancel_right hfront ▸ later'
    obtain ⟨view, hview, hview'⟩ := ih hlater
    refine ⟨c :: (List.replicate interior.length ' ' ++ c :: view), ?_, ?_⟩
    · rw [List.cons_append, List.append_assoc, List.cons_append,
        maskLiterals_cons_literal hquote hclose, hview]
      simp only [List.cons_append, List.append_assoc]
    · rw [List.cons_append, List.append_assoc, List.cons_append,
        maskLiterals_cons_literal hquote hclose', hview']
      simp only [List.cons_append, List.append_assoc]

end Provenance.Lexis

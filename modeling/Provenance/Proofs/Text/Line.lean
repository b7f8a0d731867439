import Mathlib.Data.List.Basic
import Mathlib.Data.List.TakeWhile
import Provenance.Text.Line

/-!
# Proofs — Text — Line

How a text falls into lines when another text is put behind it. Where the first text is empty or
ends with a line feed, no terminator is torn apart or put together, and the lines of the whole are
the lines of the two parts (`lines_append`). Which lines a text has is also said without cutting it,
by what ends them (`EndsLine`, `HasLines`), and `lines` finds just these (`hasLines_iff`).
-/

namespace Provenance.Text

/-- A text that is empty, or whose last line is ended by a line feed. -/
def IsWhole (cs : List Char) : Prop := cs = [] ∨ cs.getLast? = some '\n'

theorem isWhole_replicate (count : Nat) : IsWhole (List.replicate count '\n') := by
  cases count with
  | zero => exact .inl rfl
  | succ count => exact .inr (by simp [List.getLast?_replicate])

/-- What is left of a whole text behind some of it is whole. -/
theorem IsWhole.of_suffix {cs rest : List Char} (h : IsWhole cs) (hs : rest <:+ cs) :
    IsWhole rest := by
  obtain ⟨front, rfl⟩ := hs
  by_cases hrest : rest = []
  · exact .inl hrest
  · rcases h with h | h
    · exact absurd (List.append_eq_nil_iff.1 h).2 hrest
    · refine .inr ?_
      rwa [List.getLast?_append_of_ne_nil _ hrest] at h

theorem dropTerminator_suffix (cs : List Char) : dropTerminator cs <:+ cs := by
  unfold dropTerminator
  split
  · exact ⟨['\r', '\n'], rfl⟩
  · exact List.suffix_cons _ _
  · exact List.suffix_refl _

/-- A carriage return at the very end could be joined by a line feed behind it; no other text can
be continued by more than its last line. -/
theorem dropTerminator_append {cs : List Char} (hne : cs ≠ []) (hcr : cs ≠ ['\r'])
    (more : List Char) : dropTerminator (cs ++ more) = dropTerminator cs ++ more := by
  cases cs with
  | nil => exact absurd rfl hne
  | cons c rest =>
    cases rest with
    | nil =>
      have hc : c ≠ '\r' := fun h => hcr (by rw [h])
      simp [dropTerminator, hc]
    | cons d rest =>
      by_cases h : c = '\r' ∧ d = '\n'
      · obtain ⟨rfl, rfl⟩ := h
        rfl
      · simp only [List.cons_append]
        unfold dropTerminator
        split <;> simp_all

theorem afterLine_suffix (cs : List Char) : afterLine cs <:+ cs :=
  (dropTerminator_suffix _).trans (List.dropWhile_suffix _)

/-- The first line of a whole text ends within it. -/
theorem dropWhile_ne_nil {cs : List Char} (h : IsWhole cs) (hne : cs ≠ []) :
    (cs.dropWhile fun c => !isLineEnd c) ≠ [] := by
  intro hnil
  have hmem : '\n' ∈ cs := List.mem_of_getLast? (h.resolve_left hne)
  have hno := List.dropWhile_eq_nil_iff.1 hnil '\n' hmem
  exact absurd hno (by decide)

theorem afterLine_append {cs : List Char} (h : IsWhole cs) (hne : cs ≠ []) (more : List Char) :
    afterLine (cs ++ more) = afterLine cs ++ more := by
  have hd := dropWhile_ne_nil h hne
  unfold afterLine
  rw [List.dropWhile_append, if_neg (by simpa using hd)]
  apply dropTerminator_append hd
  -- a whole text does not end with a carriage return
  intro hcr
  have hwhole := h.of_suffix (List.dropWhile_suffix fun c => !isLineEnd c)
  rw [hcr] at hwhole
  exact absurd hwhole (by simp [IsWhole])

theorem takeWhile_append {cs : List Char} (h : IsWhole cs) (hne : cs ≠ []) (more : List Char) :
    ((cs ++ more).takeWhile fun c => !isLineEnd c) = cs.takeWhile fun c => !isLineEnd c := by
  rw [List.takeWhile_append, if_neg]
  intro hlen
  have hsplit := List.takeWhile_append_dropWhile (p := fun c => !isLineEnd c) (l := cs)
  have hle := congrArg List.length hsplit
  rw [List.length_append] at hle
  exact dropWhile_ne_nil h hne (List.length_eq_zero_iff.1 (by omega))

theorem lines_nil : lines [] = [] := by
  rw [lines, dif_pos rfl]

theorem lines_of_ne_nil {cs : List Char} (hne : cs ≠ []) :
    lines cs = (cs.takeWhile fun c => !isLineEnd c) :: lines (afterLine cs) := by
  rw [lines, dif_neg hne]

/-- **The lines of a whole text are not changed by what is put behind it.** -/
theorem lines_append {cs : List Char} (h : IsWhole cs) (more : List Char) :
    lines (cs ++ more) = lines cs ++ lines more := by
  by_cases hne : cs = []
  · rw [hne, lines_nil, List.nil_append, List.nil_append]
  · have hlt := length_afterLine_lt hne
    have ih := lines_append (h.of_suffix (afterLine_suffix cs)) more
    rw [lines_of_ne_nil hne, lines_of_ne_nil (by simp [hne]), takeWhile_append h hne,
      afterLine_append h hne, ih, List.cons_append]
termination_by cs.length

/-- Line feeds are lines without text. -/
theorem lines_replicate (count : Nat) :
    lines (List.replicate count '\n') = List.replicate count [] := by
  induction count with
  | zero => exact lines_nil
  | succ count ih =>
    have hcut : afterLine ('\n' :: List.replicate count '\n') = List.replicate count '\n' := rfl
    rw [List.replicate_succ, lines_of_ne_nil (List.cons_ne_nil _ _), hcut, ih,
      List.replicate_succ]
    rfl

/-! ## Lines by their terminators -/

/-- What ends a line in front of some text: a carriage return and a line feed together, or one
character that ends lines, which is no carriage return with a line feed behind it. -/
inductive EndsLine : List Char → List Char → Prop
  | pair {rest : List Char} : EndsLine ['\r', '\n'] rest
  | single {c : Char} {rest : List Char} (hend : isLineEnd c = true)
    (halone : ¬(c = '\r' ∧ rest.head? = some '\n')) : EndsLine [c] rest

/-- A text falls into lines. Each is followed by what ends it, but for the last line, which may be
open unless it is empty. -/
inductive HasLines : List Char → List (List Char) → Prop
  | done : HasLines [] []
  | last {raw : List Char} (hne : raw ≠ []) (hraw : ∀ c ∈ raw, isLineEnd c = false) :
    HasLines raw [raw]
  | line {raw terminator rest : List Char} {raws : List (List Char)}
    (hraw : ∀ c ∈ raw, isLineEnd c = false) (hterminator : EndsLine terminator rest)
    (later : HasLines rest raws) : HasLines (raw ++ (terminator ++ rest)) (raw :: raws)

theorem EndsLine.dropTerminator_eq {terminator rest : List Char} (h : EndsLine terminator rest) :
    dropTerminator (terminator ++ rest) = rest := by
  cases h with
  | pair => rfl
  | @single c _ hend halone =>
    rw [List.singleton_append]
    unfold dropTerminator
    split
    · rename_i heq
      obtain ⟨rfl, rfl⟩ := List.cons.inj heq
      exact absurd ⟨rfl, rfl⟩ halone
    · rename_i heq
      exact (List.cons.inj heq).2.symm
    · rename_i heq
      cases heq

theorem EndsLine.exists_cons {terminator rest : List Char} (h : EndsLine terminator rest) :
    ∃ c behind, terminator ++ rest = c :: behind ∧ isLineEnd c = true := by
  cases h with
  | pair => exact ⟨'\r', '\n' :: rest, rfl, by decide⟩
  | @single c _ hend => exact ⟨c, rest, rfl, hend⟩

/-- What is cut off behind a line is what ends it. -/
theorem exists_endsLine {c : Char} (hc : isLineEnd c = true) (cs : List Char) :
    ∃ terminator, EndsLine terminator (dropTerminator (c :: cs)) ∧
      c :: cs = terminator ++ dropTerminator (c :: cs) := by
  by_cases hpair : c = '\r' ∧ cs.head? = some '\n'
  · obtain ⟨rfl, hfeed⟩ := hpair
    obtain ⟨rest, rfl⟩ := List.head?_eq_some_iff.1 hfeed
    exact ⟨['\r', '\n'], .pair, rfl⟩
  · have hsingle : EndsLine [c] cs := .single hc hpair
    have hrest : dropTerminator (c :: cs) = cs := hsingle.dropTerminator_eq
    rw [hrest]
    exact ⟨[c], hsingle, rfl⟩

theorem takeWhile_line {raw : List Char} (h : ∀ c ∈ raw, isLineEnd c = false) (rest : List Char) :
    ((raw ++ rest).takeWhile fun c => !isLineEnd c) = raw ++ rest.takeWhile fun c => !isLineEnd c :=
  List.takeWhile_append_of_pos fun c hc => by simp [h c hc]

theorem dropWhile_line {raw : List Char} (h : ∀ c ∈ raw, isLineEnd c = false) (rest : List Char) :
    ((raw ++ rest).dropWhile fun c => !isLineEnd c) = rest.dropWhile fun c => !isLineEnd c :=
  List.dropWhile_append_of_pos fun c hc => by simp [h c hc]

/-- **A text falls into lines in one way.** -/
theorem hasLines_iff {cs : List Char} {raws : List (List Char)} :
    HasLines cs raws ↔ raws = lines cs := by
  constructor
  · intro h
    induction h with
    | done => exact lines_nil.symm
    | @last raw hne hraw =>
      have htake := takeWhile_line hraw []
      have hdrop := dropWhile_line hraw []
      rw [List.append_nil] at htake hdrop
      rw [lines_of_ne_nil hne, htake, afterLine, hdrop, List.takeWhile_nil, List.dropWhile_nil,
        List.append_nil]
      exact congrArg (raw :: ·) lines_nil.symm
    | @line raw terminator rest raws hraw hterminator _ ih =>
      obtain ⟨c, behind, heq, hc⟩ := hterminator.exists_cons
      have hstop : ¬(!isLineEnd c) = true := by simp [hc]
      have hne : raw ++ (terminator ++ rest) ≠ [] := by rw [heq]; simp
      rw [lines_of_ne_nil hne, afterLine, takeWhile_line hraw, dropWhile_line hraw, heq,
        List.takeWhile_cons_of_neg (p := fun c => !isLineEnd c) hstop,
        List.dropWhile_cons_of_neg (p := fun c => !isLineEnd c) hstop, ← heq,
        hterminator.dropTerminator_eq, List.append_nil, ih]
  · rintro rfl
    fun_induction lines cs with
    | case1 => exact .done
    | case2 cs hne _ ih =>
      have hsplit := List.takeWhile_append_dropWhile (p := fun c => !isLineEnd c) (l := cs)
      have hraw : ∀ c ∈ cs.takeWhile fun c => !isLineEnd c, isLineEnd c = false := by
        intro c hc
        simpa using List.mem_takeWhile_imp hc
      cases hdrop : cs.dropWhile fun c => !isLineEnd c with
      | nil =>
        -- no character ends the line, so it is the last one
        rw [hdrop, List.append_nil] at hsplit
        have hafter : lines (afterLine cs) = [] := by
          rw [afterLine, hdrop]
          exact lines_nil
        rw [hafter, hsplit]
        rw [hsplit] at hraw
        exact .last hne hraw
      | cons c rest =>
        have hc : isLineEnd c = true := by
          have hstop := List.head?_dropWhile_not (fun c => !isLineEnd c) cs
          rw [hdrop] at hstop
          simpa using hstop
        obtain ⟨terminator, hterminator, heq⟩ := exists_endsLine hc rest
        rw [← hdrop] at hterminator heq
        have hline := HasLines.line hraw hterminator ih
        rw [afterLine, ← heq, hsplit] at hline
        exact hline

end Provenance.Text

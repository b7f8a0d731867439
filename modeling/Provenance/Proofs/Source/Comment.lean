import Provenance.Proofs.Source.Delimiter
import Provenance.Proofs.Source.Line

/-!
# Proofs — Source — Comment

How comments are read. The scan for block comments is told by four equations (`scanBlocks_open` to
`scanBlocks_opener`), and what a line is and leaves by five, one for each way to read it
(`readLine_inside` to `readLine_code`). The blanks around a line play no part in them.
-/

namespace Provenance

open Text Lexis

/-! ## The first opener -/

section FirstOpener

variable {blocks : List BlockDelimiters} {block : BlockDelimiters} {cs : List Char}

theorem firstOpener?_cons_none (h : find? block.opener cs = none) :
    firstOpener? (block :: blocks) cs = firstOpener? blocks cs := by
  unfold firstOpener?
  rw [List.foldr_cons, h]

theorem firstOpener?_cons_alone {i : Nat} (h : find? block.opener cs = some i)
    (hlater : firstOpener? blocks cs = none) :
    firstOpener? (block :: blocks) cs = some (i, block) := by
  unfold firstOpener? at hlater ⊢
  rw [List.foldr_cons, hlater, h]

theorem firstOpener?_cons_before {i : Nat} {later : Nat × BlockDelimiters}
    (h : find? block.opener cs = some i) (hlater : firstOpener? blocks cs = some later) :
    firstOpener? (block :: blocks) cs = if later.1 < i then some later else some (i, block) := by
  unfold firstOpener? at hlater ⊢
  rw [List.foldr_cons, hlater, h]

theorem firstOpener?_eq_none_iff :
    firstOpener? blocks cs = none ↔ ∀ block ∈ blocks, ¬ block.opener <:+: cs := by
  induction blocks with
  | nil => simp [firstOpener?]
  | cons block blocks ih =>
    rw [List.forall_mem_cons, ← ih, ← find?_eq_none_iff]
    cases h : find? block.opener cs with
    | none => simp [firstOpener?_cons_none h]
    | some i =>
      cases hlater : firstOpener? blocks cs with
      | none => simp [firstOpener?_cons_alone h hlater]
      | some later =>
        rw [firstOpener?_cons_before h hlater]
        split <;> simp

/-- **No comment opens before the first.** -/
theorem not_beginsBefore_of_firstOpener? {i : Nat} (h : firstOpener? blocks cs = some (i, block)) :
    ∀ other ∈ blocks, ¬ BeginsBefore other.opener cs i := by
  induction blocks generalizing i block with
  | nil => simp
  | cons head blocks ih =>
    cases hhead : find? head.opener cs with
    | none =>
      rw [firstOpener?_cons_none hhead] at h
      refine List.forall_mem_cons.2 ⟨?_, ih h⟩
      rintro ⟨j, _, hp⟩
      exact find?_eq_none_iff.1 hhead (hp.isInfix.trans (List.drop_suffix _ _).isInfix)
    | some j =>
      have hclear := (find?_eq_some_iff.1 hhead).2
      cases hlater : firstOpener? blocks cs with
      | none =>
        rw [firstOpener?_cons_alone hhead hlater] at h
        obtain ⟨rfl, rfl⟩ := Prod.mk.inj (Option.some.inj h)
        refine List.forall_mem_cons.2 ⟨hclear, ?_⟩
        rintro other hother ⟨k, _, hp⟩
        exact firstOpener?_eq_none_iff.1 hlater other hother
          (hp.isInfix.trans (List.drop_suffix _ _).isInfix)
      | some later =>
        rw [firstOpener?_cons_before hhead hlater] at h
        split at h
        · rename_i hlt
          obtain rfl := Option.some.inj h
          exact List.forall_mem_cons.2 ⟨fun hb => hclear (hb.mono hlt.le), ih hlater⟩
        · rename_i hge
          obtain ⟨rfl, rfl⟩ := Prod.mk.inj (Option.some.inj h)
          exact List.forall_mem_cons.2 ⟨hclear, fun other hother hb =>
            ih hlater other hother (hb.mono (Nat.le_of_not_lt hge))⟩

/-- Openers that do not begin in the first part of a text are sought in the second. -/
theorem firstOpener?_append {front rest : List Char}
    (h : ∀ block ∈ blocks, ¬ BeginsBefore block.opener (front ++ rest) front.length) :
    firstOpener? blocks (front ++ rest) =
      (firstOpener? blocks rest).map fun found => (front.length + found.1, found.2) := by
  induction blocks with
  | nil => rfl
  | cons block blocks ih =>
    obtain ⟨hblock, hlater⟩ := List.forall_mem_cons.1 h
    have ih := ih hlater
    have hfind := find?_append hblock
    cases hrest : find? block.opener rest with
    | none =>
      rw [hrest] at hfind
      rw [firstOpener?_cons_none hfind, firstOpener?_cons_none hrest, ih]
    | some i =>
      rw [hrest] at hfind
      cases hfirst : firstOpener? blocks rest with
      | none =>
        rw [hfirst] at ih
        rw [firstOpener?_cons_alone hfind ih, firstOpener?_cons_alone hrest hfirst]
        rfl
      | some later =>
        rw [hfirst] at ih
        rw [firstOpener?_cons_before hfind ih, firstOpener?_cons_before hrest hfirst]
        by_cases hlt : later.1 < i
        · rw [if_pos hlt, if_pos (Nat.add_lt_add_left hlt _)]
          rfl
        · rw [if_neg hlt, if_neg fun hlt' => hlt (Nat.lt_of_add_lt_add_left hlt')]
          rfl

theorem firstOpener?_congr {cs' : List Char}
    (h : ∀ block ∈ blocks, find? block.opener cs = find? block.opener cs') :
    firstOpener? blocks cs = firstOpener? blocks cs' := by
  induction blocks with
  | nil => rfl
  | cons block blocks ih =>
    obtain ⟨hblock, hlater⟩ := List.forall_mem_cons.1 h
    have ih := ih hlater
    unfold firstOpener? at ih ⊢
    rw [List.foldr_cons, List.foldr_cons, hblock, ih]

end FirstOpener

/-! ## Scanning -/

section Scan

variable {blocks : List BlockDelimiters} {block : BlockDelimiters} {closer cs : List Char}

/-- A comment that is not closed stays open. -/
theorem scanBlocks_open (h : ¬ closer <:+: cs) : scanBlocks blocks (some closer) cs = some closer := by
  rw [scanBlocks, find?_eq_none_iff.2 h]

theorem scanBlocks_close {i : Nat} (h : find? closer cs = some i) :
    scanBlocks blocks (some closer) cs = scanBlocks blocks none (cs.drop (i + closer.length)) := by
  rw [scanBlocks, h]

/-- Where nothing opens outside literals, nothing is open behind. -/
theorem scanBlocks_none (h : firstOpener? blocks (maskLiterals cs) = none) :
    scanBlocks blocks none cs = none := by
  rw [scanBlocks]
  split
  · rfl
  · simp_all

theorem scanBlocks_opener {i : Nat} (h : firstOpener? blocks (maskLiterals cs) = some (i, block)) :
    scanBlocks blocks none cs =
      scanBlocks blocks (some block.closer) (cs.drop (i + block.opener.length)) := by
  conv_lhs => rw [scanBlocks]
  split <;> simp_all

/-- **What stands outside literals and in front of the first opener is passed over.** -/
theorem scanBlocks_append {front rest : List Char} (hliteral : OutsideLiterals front rest)
    (hopener : ∀ block ∈ blocks,
      ¬ BeginsBefore block.opener (maskLiterals (front ++ rest)) front.length) :
    scanBlocks blocks none (front ++ rest) = scanBlocks blocks none rest := by
  obtain ⟨view, hview, _⟩ := hliteral.exists_mask hliteral
  have hlength : front.length = view.length := by
    have h := congrArg List.length hview
    simpa only [length_maskLiterals, List.length_append, Nat.add_right_cancel_iff] using h
  rw [hview, hlength] at hopener
  have hfirst := firstOpener?_append hopener
  rw [← hview] at hfirst
  cases hrest : firstOpener? blocks (maskLiterals rest) with
  | none =>
    rw [hrest] at hfirst
    rw [scanBlocks_none hfirst, scanBlocks_none hrest]
  | some found =>
    rw [hrest] at hfirst
    rw [scanBlocks_opener hfirst, scanBlocks_opener hrest, ← hlength, Nat.add_assoc,
      List.drop_length_add_append]

end Scan

/-! ## States and lines -/

section

variable {comments : CommentSyntax} {block : BlockDelimiters} {raw : List Char}

/-- The states that a language can be read in. -/
def CommentSyntax.IsState (comments : CommentSyntax) (pending : Pending) : Prop :=
  ∀ closer, pending = some closer → ∃ block ∈ comments.block, block.closer = closer

theorem CommentSyntax.isState_none (comments : CommentSyntax) : comments.IsState none := nofun

theorem CommentSyntax.isState_closer (hblock : block ∈ comments.block) :
    comments.IsState (some block.closer) := by
  intro closer h
  exact ⟨block, hblock, Option.some.inj h⟩

/-- A line that has text and does not begin with a delimiter. -/
structure BeginsWithCode (comments : CommentSyntax) (raw : List Char) : Prop where
  not_blank : strip raw ≠ []
  no_opener : ∀ block ∈ comments.block, ¬ block.opener <+: strip raw
  no_mark : ∀ mark ∈ comments.line, ¬ mark <+: strip raw

theorem readLine_blank (h : strip raw = []) :
    readLine comments none raw = (.blank, none) := by
  rw [readLine, if_neg (by decide), if_pos h]

theorem not_any_opener
    (h : ∀ block ∈ comments.block, ¬ block.opener <+: raw) :
    ¬ (comments.block.any fun block => block.opener.isPrefixOf raw) = true := by
  intro hany
  obtain ⟨block, hblock, hp⟩ := List.any_eq_true.1 hany
  exact h block hblock (List.isPrefixOf_iff_prefix.1 hp)

end

/-! ## Regular delimiters -/

section Regular

variable {comments : CommentSyntax} (hc : comments.IsRegular) {block : BlockDelimiters}

include hc

/-- Nothing is open behind a text without openers. -/
theorem scanBlocks_quiet {cs : List Char}
    (h : ∀ block ∈ comments.block, ¬ block.opener <:+: cs) :
    scanBlocks comments.block none cs = none := by
  apply scanBlocks_none
  rw [firstOpener?_eq_none_iff]
  intro block hblock hopener
  exact h block hblock ((shows_maskLiterals cs).isInfix
    (hc.opener_word block hblock).space_not_mem hopener)

/-- A comment that opens at the start of a text is open behind its opener. -/
theorem scanBlocks_opener_append (hblock : block ∈ comments.block) (rest : List Char) :
    scanBlocks comments.block none (block.opener ++ rest) =
      scanBlocks comments.block (some block.closer) rest := by
  obtain ⟨view, hview⟩ := (hc.opener_seen block hblock).exists_mask rest
  have hstart : block.opener <+: maskLiterals (block.opener ++ rest) :=
    hview ▸ List.prefix_append _ _
  cases hfirst : firstOpener? comments.block (maskLiterals (block.opener ++ rest)) with
  | none => exact absurd hstart.isInfix (firstOpener?_eq_none_iff.1 hfirst block hblock)
  | some found =>
    obtain ⟨i, other⟩ := found
    -- it is the first opener, since it begins at the start
    have hi : i = 0 := by
      by_contra hne
      exact not_beginsBefore_of_firstOpener? hfirst block hblock
        ⟨0, Nat.pos_of_ne_zero hne, hstart⟩
    subst hi
    obtain ⟨hother, hfound⟩ := find?_of_firstOpener? hfirst
    have hstart' : other.opener <+: maskLiterals (block.opener ++ rest) :=
      (find?_eq_some_iff.1 hfound).1
    have hsame : block = other := by
      rcases List.prefix_or_prefix_of_prefix hstart hstart' with h | h
      · exact hc.opener_unique block hblock other hother h
      · exact (hc.opener_unique other hother block hblock h).symm
    subst hsame
    rw [scanBlocks_opener hfirst, Nat.zero_add, List.drop_left]

/-! ## Blanks -/

theorem CommentSyntax.IsRegular.closer_isWord {closer : List Char}
    (hs : comments.IsState (some closer)) : IsWord closer := by
  obtain ⟨block, hblock, rfl⟩ := hs closer rfl
  exact hc.closer_word block hblock

theorem scanBlocks_blank_front {pending : Pending} (hs : comments.IsState pending)
    {blanks : List Char} (hb : AreBlanks blanks) (cs : List Char) :
    scanBlocks comments.block pending (blanks ++ cs) = scanBlocks comments.block pending cs := by
  cases pending with
  | none =>
    apply scanBlocks_append (outsideLiterals_quoteless hb.isQuoteless cs)
    intro block hblock
    rw [maskLiterals_quoteless_append hb.isQuoteless]
    exact (hc.opener_word block hblock).not_beginsBefore_blanks hb _
  | some closer =>
    have hfind := (hc.closer_isWord hs).find?_blank_front hb cs
    cases hclose : find? closer cs with
    | none =>
      rw [hclose] at hfind
      rw [scanBlocks_open (find?_eq_none_iff.1 hfind), scanBlocks_open (find?_eq_none_iff.1 hclose)]
    | some i =>
      rw [hclose] at hfind
      rw [scanBlocks_close hfind, scanBlocks_close hclose, Nat.add_assoc,
        List.drop_length_add_append]

theorem scanBlocks_blank_back {pending : Pending} (hs : comments.IsState pending)
    {blanks : List Char} (hb : AreBlanks blanks) (cs : List Char) :
    scanBlocks comments.block pending (cs ++ blanks) = scanBlocks comments.block pending cs := by
  have hmask : ∀ cs, firstOpener? comments.block (maskLiterals (cs ++ blanks)) =
      firstOpener? comments.block (maskLiterals cs) := by
    intro cs
    rw [maskLiterals_append_quoteless hb.isQuoteless]
    exact firstOpener?_congr fun block hblock =>
      (hc.opener_word block hblock).find?_blank_back hb _
  fun_induction scanBlocks comments.block pending cs with
  | case1 cs closer hclose =>
    apply scanBlocks_open
    rw [← find?_eq_none_iff, (hc.closer_isWord hs).find?_blank_back hb, hclose]
  | case2 cs closer i hclose ih =>
    have hclose' := (hc.closer_isWord hs).find?_blank_back hb cs
    rw [hclose] at hclose'
    rw [scanBlocks_close hclose', List.drop_append_of_le_length (add_length_le_of_find? hclose),
      ih comments.isState_none]
  | case3 cs hfirst =>
    apply scanBlocks_none
    rw [hmask, hfirst]
  | case4 cs i block hfirst _ _ ih =>
    obtain ⟨hblock, hfound⟩ := find?_of_firstOpener? hfirst
    have hle := add_length_le_of_find? hfound
    rw [length_maskLiterals] at hle
    rw [scanBlocks_opener ((hmask cs).trans hfirst), List.drop_append_of_le_length hle,
      ih (CommentSyntax.isState_closer hblock)]

/-- **The blanks around a text do not change the state behind it.** -/
theorem scanBlocks_strip {pending : Pending} (hs : comments.IsState pending) (raw : List Char) :
    scanBlocks comments.block pending (strip raw) = scanBlocks comments.block pending raw := by
  obtain ⟨front, back, hraw, hfront, hback⟩ := exists_strip raw
  conv_rhs => rw [hraw]
  rw [scanBlocks_blank_back hc hs hback, scanBlocks_blank_front hc hs hfront]

/-! ## Reading -/

/-- A line within a comment is read for the closer. -/
theorem readLine_inside {closer : List Char} (hs : comments.IsState (some closer))
    (raw : List Char) : readLine comments (some closer) raw =
      (if strip raw = [] then .blank else .comment,
        scanBlocks comments.block (some closer) raw) := by
  rw [readLine, if_pos Option.isSome_some, scanBlocks_strip hc hs]

/-- A line that begins with an opener is read as it is. -/
theorem readLine_opener (hblock : block ∈ comments.block) {raw : List Char}
    (h : block.opener <+: strip raw) :
    readLine comments none raw = (.comment, scanBlocks comments.block none raw) := by
  have hne : strip raw ≠ [] := by
    intro hnil
    exact block.opener_ne (List.prefix_nil.1 (hnil ▸ h))
  have hany : (comments.block.any fun block => block.opener.isPrefixOf (strip raw)) = true :=
    List.any_eq_true.2 ⟨block, hblock, List.isPrefixOf_iff_prefix.2 h⟩
  rw [readLine, if_neg (by decide), if_neg hne, if_pos hany, scanBlocks_strip hc comments.isState_none]

/-- A line comment leaves nothing open. -/
theorem readLine_mark {raw : List Char}
    (hopener : ∀ block ∈ comments.block, ¬ block.opener <+: strip raw) {mark : List Char}
    (hmark : mark ∈ comments.line) (h : mark <+: strip raw) :
    readLine comments none raw = (.comment, none) := by
  have hne : strip raw ≠ [] := by
    intro hnil
    exact (hc.line_word mark hmark).ne_nil (List.prefix_nil.1 (hnil ▸ h))
  have hany : (comments.line.any fun mark => mark.isPrefixOf (strip raw)) = true :=
    List.any_eq_true.2 ⟨mark, hmark, List.isPrefixOf_iff_prefix.2 h⟩
  rw [readLine, if_neg (by decide), if_neg hne, if_neg (not_any_opener hopener), if_pos hany]

/-- **A line of code is read as far as line comments go, with its literals blanked.** -/
theorem readLine_code {raw : List Char} (h : BeginsWithCode comments raw) :
    readLine comments none raw =
      (.code, scanBlocks comments.block none (codePart comments.line raw)) := by
  have hany : ¬ (comments.line.any fun mark => mark.isPrefixOf (strip raw)) = true := by
    intro hany
    obtain ⟨mark, hmark, hp⟩ := List.any_eq_true.1 hany
    exact h.no_mark mark hmark (List.isPrefixOf_iff_prefix.1 hp)
  -- the code in the stripped line is the code in the line, but for blanks around it
  obtain ⟨front, back, hraw, hfront, hback⟩ := exists_strip raw
  have hmask : maskLiterals raw = front ++ maskLiterals (strip raw) ++ back := by
    conv_lhs => rw [hraw]
    rw [maskLiterals_append_quoteless hback.isQuoteless,
      maskLiterals_quoteless_append hfront.isQuoteless]
  obtain ⟨left, hleft, hcut⟩ :=
    exists_foldl_before_blanks hc.line_word hfront hback (maskLiterals (strip raw))
  rw [← hmask] at hcut
  have hpart : codePart comments.line raw = front ++ codePart comments.line (strip raw) ++ left :=
    hcut
  rw [readLine, if_neg (by decide), if_neg h.not_blank, if_neg (not_any_opener h.no_opener),
    if_neg hany, hpart, scanBlocks_blank_back hc comments.isState_none hleft,
    scanBlocks_blank_front hc comments.isState_none hfront]

end Regular

end Provenance

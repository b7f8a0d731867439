import Provenance.Proofs.Lexis.Literal
import Provenance.Proofs.Text.Blank
import Provenance.Source.Language

/-!
# Proofs — Source — Delimiter

What the delimiters of comments have in common in all families of languages (`isRegular_syntaxOf`).
They are words. Those of line comments have no quotes, an opener outside literals is seen when
literals are blanked, and no two openers begin in one place.
-/

namespace Provenance

open Text Lexis

theorem Text.AreBlanks.isQuoteless {blanks : List Char} (h : AreBlanks blanks) :
    IsQuoteless blanks := by
  intro c hb
  by_contra hquote
  have hcases : (c = '"' ∨ c = '\'') ∨ c = '\x60' := by
    simpa only [isQuote, Bool.not_eq_false, Bool.or_eq_true, beq_iff_eq] using hquote
  have hblank := h c hb
  rcases hcases with (rfl | rfl) | rfl <;> exact absurd hblank (by decide)

/-! ## Deciding -/

-- The instances for lists are named: there are finitely many characters, and with all of Mathlib
-- "for all characters of a text" is decided by going through all characters that there are.

instance (cs : List Char) : Decidable (IsQuoteless cs) :=
  List.decidableBAll (fun c => isQuote c = false) cs

instance (cs : List Char) : Decidable (IsWord cs) :=
  letI : Decidable (∀ c ∈ cs, isBlank c = false) := List.decidableBAll (fun c => isBlank c = false) cs
  decidable_of_iff (cs ≠ [] ∧ ∀ c ∈ cs, isBlank c = false) ⟨fun h => ⟨h.1, h.2⟩, fun h => ⟨h.1, h.2⟩⟩

instance (marks : List (List Char)) : Decidable (AreApart marks) :=
  letI (mark other : List Char) : Decidable (∀ c ∈ mark, other.head? ≠ some c) :=
    List.decidableBAll (fun c => other.head? ≠ some c) mark
  inferInstanceAs (Decidable (∀ mark ∈ marks, ∀ other ∈ marks, mark ≠ other →
    ∀ c ∈ mark, other.head? ≠ some c))

instance : DecidableEq BlockDelimiters := fun block other =>
  decidable_of_iff (block.opener = other.opener ∧ block.closer = other.closer)
    (by cases block; cases other; simp)

/-! ## Openers among literals -/

/-- An opener that has no quotes, or consists of three like ones. -/
def IsSeen (opener : List Char) : Prop :=
  IsQuoteless opener ∨ ∃ quote ∈ opener, isQuote quote = true ∧ opener = [quote, quote, quote]

instance (opener : List Char) : Decidable (IsSeen opener) :=
  letI : Decidable (∃ quote ∈ opener, isQuote quote = true ∧ opener = [quote, quote, quote]) :=
    List.decidableBEx (fun quote => isQuote quote = true ∧ opener = [quote, quote, quote]) opener
  inferInstanceAs (Decidable (IsQuoteless opener ∨
    ∃ quote ∈ opener, isQuote quote = true ∧ opener = [quote, quote, quote]))

/-- **An opener is seen when the literals of a text that it begins are blanked.** -/
theorem IsSeen.exists_mask {opener : List Char} (h : IsSeen opener) (rest : List Char) :
    ∃ view, maskLiterals (opener ++ rest) = opener ++ view := by
  rcases h with hplain | ⟨quote, _, hquote, rfl⟩
  · exact ⟨_, maskLiterals_quoteless_append hplain rest⟩
  · -- an empty literal, and a quote that opens another one or is not closed
    obtain ⟨view, hview⟩ := exists_maskLiterals_cons quote rest
    refine ⟨view, ?_⟩
    show maskLiterals (quote :: quote :: quote :: rest) = _
    rw [maskLiterals_cons_literal hquote (closeLiteral?_quote quote (quote :: rest)), hview]
    rfl

/-! ## Delimiters of a language -/

/-- Delimiters of comments that can be told apart. -/
structure CommentSyntax.IsRegular (comments : CommentSyntax) : Prop where
  line_word : ∀ mark ∈ comments.line, IsWord mark
  line_quoteless : ∀ mark ∈ comments.line, IsQuoteless mark
  line_apart : AreApart comments.line
  opener_word : ∀ block ∈ comments.block, IsWord block.opener
  opener_seen : ∀ block ∈ comments.block, IsSeen block.opener
  opener_unique : ∀ block ∈ comments.block, ∀ other ∈ comments.block,
    block.opener <+: other.opener → block = other
  /-- A line comment can begin at the start of an opener, and not within it. -/
  opener_tail : ∀ block ∈ comments.block, ∀ mark ∈ comments.line, ∀ i < block.opener.length,
    (mark <+: block.opener.drop i → i = 0) ∧ ¬ block.opener.drop i <+: mark
  closer_word : ∀ block ∈ comments.block, IsWord block.closer

/-- **The delimiters of all families can be told apart.** -/
theorem Language.isRegular_syntaxOf (language : Language) : language.syntaxOf.IsRegular where
  line_word := by cases language <;> decide
  line_quoteless := by cases language <;> decide
  line_apart := by cases language <;> decide
  opener_word := by cases language <;> decide
  opener_seen := by cases language <;> decide
  opener_unique := by cases language <;> decide
  opener_tail := by cases language <;> decide
  closer_word := by cases language <;> decide

/-- A line comment that begins before an opener ends begins like the opener. -/
theorem CommentSyntax.IsRegular.prefix_of_beginsBefore {comments : CommentSyntax}
    (hc : comments.IsRegular) {block : BlockDelimiters} (hblock : block ∈ comments.block)
    {mark : List Char} (hmark : mark ∈ comments.line) {rest : List Char}
    (h : BeginsBefore mark (block.opener ++ rest) block.opener.length) :
    mark <+: block.opener := by
  obtain ⟨i, hi, hp⟩ := h
  obtain ⟨hwithin, hbeyond⟩ := hc.opener_tail block hblock mark hmark i hi
  rw [List.drop_append_of_le_length hi.le] at hp
  rcases List.prefix_or_prefix_of_prefix hp (List.prefix_append _ rest) with h' | h'
  · obtain rfl := hwithin h'
    exact h'
  · exact absurd h' hbeyond

/-- Only the long comments of Lua open with a text that begins a line comment. -/
theorem Language.exists_prefix_opener_iff {language : Language} {block : BlockDelimiters}
    (hblock : block ∈ language.syntaxOf.block) :
    (∃ mark ∈ language.syntaxOf.line, mark <+: block.opener) ↔ language = .lua := by
  have hall : ∀ block ∈ language.syntaxOf.block,
      ((∃ mark ∈ language.syntaxOf.line, mark <+: block.opener) ↔ language = .lua) := by
    cases language <;> decide
  exact hall block hblock

end Provenance

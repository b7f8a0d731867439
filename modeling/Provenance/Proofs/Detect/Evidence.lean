import Provenance.Proofs.Checked
import Provenance.Proofs.Pattern
import Provenance.Proofs.Source.Padding

/-!
# Proofs — Detect — Evidence

What a finding must have to be a pattern, and what makes its lines evidence of its kind. A finding
of a kind is sound in a file when its confidence is a percentage and its lines are some that the
kind has evidence for; a sound finding passes its check (`gives_check`).
-/

namespace Provenance.Detect

/-! ## Evidence -/

/-- Only comments stand between a comment and a line of code further down. -/
def StandsAbove (ls : List Line) (comment code : Line) : Prop :=
  ∃ front between back, ls = front ++ comment :: (between ++ code :: back) ∧
    comment.isComment ∧ code.isCode ∧ ∀ l ∈ between, l.isComment

/-- Numbers of lines of code. -/
def OfCode (ls : List Line) (ns : List Int) : Prop :=
  ∀ n ∈ ns, ∃ l ∈ codeLines ls, (l.number : Int) = n

/-- Numbers of comments, at least one, and of lines of code that these comments stand above. -/
structure OfComments (ls : List Line) (ns : List Int) : Prop where
  some_comment : ∃ c ∈ ls, c.isComment ∧ (c.number : Int) ∈ ns
  comment_or_below : ∀ n ∈ ns, (∃ c ∈ ls, c.isComment ∧ (c.number : Int) = n) ∨
    ∃ c l, StandsAbove ls c l ∧ (c.number : Int) ∈ ns ∧ (l.number : Int) = n

/-- The lines that a kind of pattern has evidence for. -/
def Evidence (ls : List Line) : PatternKind → List Int → Prop
  | .comment => OfComments ls
  | .structural | .naming | .complexity => OfCode ls

/-- A finding of a kind that has evidence in a file. -/
structure IsSound (ls : List Line) (kind : PatternKind) (f : Finding) : Prop where
  kind_eq : f.kind = kind
  confidence_nonneg : 0 ≤ f.confidence
  confidence_le : f.confidence ≤ 100
  lines_ne : f.lines ≠ []
  evidence : Evidence ls kind f.lines

/-! ## Places of evidence -/

variable {ls : List Line}

theorem StandsAbove.mem {c l : Line} (h : StandsAbove ls c l) : c ∈ ls ∧ l ∈ codeLines ls := by
  obtain ⟨front, between, back, rfl, _, hl, _⟩ := h
  exact ⟨by simp, List.mem_filter.2 ⟨by simp, hl⟩⟩

/-- From a comment to the code it stands above, one only steps over comments. -/
theorem StandsAbove.kindAt?_eq (hls : IsNumbered 1 ls) {c l : Line} (h : StandsAbove ls c l) :
    c.number < l.number ∧
      ∀ k, c.number ≤ k → k < l.number → kindAt? ls k = some .comment := by
  obtain ⟨front, between, back, he, hc, _, hb⟩ := h
  have hcnumber : c.number = 1 + front.length := hls.number_eq (by simp [he])
  have hlnumber : l.number = 1 + (front.length + (between.length + 1)) := by
    refine hls.number_eq ?_
    rw [he, List.getElem?_append_right (Nat.le_add_right _ _), Nat.add_sub_cancel_left,
      List.getElem?_cons_succ, List.getElem?_append_right (Nat.le_refl _), Nat.sub_self]
    rfl
  refine ⟨by omega, fun k hk hlt => ?_⟩
  obtain ⟨j, rfl⟩ : ∃ j, k = front.length + j + 1 := ⟨k - front.length - 1, by omega⟩
  have hj : j < (c :: between).length := by
    rw [List.length_cons]
    omega
  have hget : ls[front.length + j]? = some (c :: between)[j] := by
    rw [he, List.getElem?_append_right (Nat.le_add_right _ _), Nat.add_sub_cancel_left,
      ← List.cons_append, List.getElem?_append_left hj, List.getElem?_eq_getElem hj]
  have hmem : (c :: between)[j] ∈ c :: between := List.getElem_mem hj
  have hcomment : ((c :: between)[j]).isComment := by
    rcases List.mem_cons.1 hmem with hx | hx
    · rw [hx]
      exact hc
    · exact hb _ hx
  rw [kindAt?, hget, Option.map_some, Line.kind_of_isComment hcomment]

/-- A block of code is evidence. -/
theorem ofCode_block {block : List Line} (h : ∀ l ∈ block, l ∈ codeLines ls) :
    OfCode ls (block.map fun l => (l.number : Int)) := by
  intro n hn
  obtain ⟨l, hl, rfl⟩ := List.mem_map.1 hn
  exact ⟨l, h l hl, rfl⟩

/-- Evidence is a part of the file. -/
theorem Evidence.mem {kind : PatternKind} {ns : List Int} (h : Evidence ls kind ns) {n : Int}
    (hn : n ∈ ns) : ∃ l ∈ ls, (l.number : Int) = n ∧ l.isBlank = false := by
  have hcode : ∀ l ∈ codeLines ls, l ∈ ls ∧ l.isBlank = false := by
    intro l hl
    obtain ⟨hl, hk⟩ := List.mem_filter.1 hl
    exact ⟨hl, by simp_all [Line.isCode, Line.isBlank]⟩
  have ofCode : OfCode ls ns → ∃ l ∈ ls, (l.number : Int) = n ∧ l.isBlank = false := by
    intro h
    obtain ⟨l, hl, he⟩ := h n hn
    exact ⟨l, (hcode l hl).1, he, (hcode l hl).2⟩
  cases kind with
  | comment =>
    rcases h.comment_or_below n hn with ⟨c, hc, hk, he⟩ | ⟨c, l, ha, _, he⟩
    · exact ⟨c, hc, he, by simp_all [Line.isComment, Line.isBlank]⟩
    · exact ⟨l, (hcode l ha.mem.2).1, he, (hcode l ha.mem.2).2⟩
  | structural => exact ofCode h
  | naming => exact ofCode h
  | complexity => exact ofCode h

/-- The numbers that a finding covers are those of its lines. -/
theorem Evidence.mem_ascending {kind : PatternKind} {ns : List Int} (h : Evidence ls kind ns)
    {n : Nat} : n ∈ ascending (ns.map Int.toNat) ↔ (n : Int) ∈ ns := by
  rw [Provenance.mem_ascending, List.mem_map]
  constructor
  · rintro ⟨m, hm, rfl⟩
    obtain ⟨l, _, rfl, _⟩ := h.mem hm
    exact hm
  · exact fun hn => ⟨n, hn, rfl⟩

/-! ## Checks -/

/-- **A sound finding is a pattern**: of its kind, with its lines. -/
theorem gives_check (hpos : ∀ l ∈ ls, 1 ≤ l.number) {kind : PatternKind} {f : Finding}
    (h : IsSound ls kind f) : Gives f.check fun p =>
      p.kind = kind ∧ p.lines = ascending (f.lines.map Int.toNat) := by
  have hlines : ∀ n ∈ f.lines, 1 ≤ n := by
    intro n hn
    obtain ⟨l, hl, rfl, _⟩ := h.evidence.mem hn
    exact_mod_cast hpos l hl
  rw [← h.kind_eq]
  exact f.gives_pattern h.lines_ne ⟨h.confidence_nonneg, h.confidence_le⟩ hlines

end Provenance.Detect

import Mathlib.Data.List.Range
import Provenance.Source.Line

/-!
# Proofs — Source — Line

Where the lines of a source text stand. Lines behind others are read in the state that those leave
(`numbered_append`). A source text has as many lines as its text has, and their numbers count from
one, so that the number of a line and its place in the list say the same (`IsNumbered.getElem?_eq`).
Each line has one of three kinds, so the counts of the kinds add up to the count of the lines
(`length_eq_counts`).
-/

namespace Provenance

open Text

/-! ## States -/

/-- The state behind some lines that are read from some state on. -/
def stateBehind (comments : CommentSyntax) (pending : Pending) (raws : List (List Char)) :
    Pending :=
  raws.foldl (fun state raw => (readLine comments state raw).2) pending

theorem stateBehind_append (comments : CommentSyntax) (pending : Pending)
    (raws more : List (List Char)) :
    stateBehind comments pending (raws ++ more) =
      stateBehind comments (stateBehind comments pending raws) more :=
  List.foldl_append

theorem numbered_cons (comments : CommentSyntax) (first : Nat) (pending : Pending)
    (raw : List Char) (rest : List (List Char)) :
    numbered comments first pending (raw :: rest) =
      ⟨first, raw, (readLine comments pending raw).1⟩ ::
        numbered comments (first + 1) (readLine comments pending raw).2 rest := rfl

/-- **Lines behind others are read in the state behind those.** -/
theorem numbered_append (comments : CommentSyntax) (first : Nat) (pending : Pending)
    (raws more : List (List Char)) :
    numbered comments first pending (raws ++ more) =
      numbered comments first pending raws ++
        numbered comments (first + raws.length) (stateBehind comments pending raws) more := by
  induction raws generalizing first pending with
  | nil => rfl
  | cons raw rest ih =>
    rw [List.cons_append, numbered_cons, ih, numbered_cons, List.length_cons, List.cons_append,
      Nat.add_assoc, Nat.add_comm 1]
    rfl

/-! ## Numbers -/

/-- Lines that are numbered one after another, from `first` on. -/
def IsNumbered (first : Nat) (ls : List Line) : Prop :=
  ls.map Line.number = List.range' first ls.length

theorem length_numbered (comments : CommentSyntax) (first : Nat) (pending : Pending)
    (raws : List (List Char)) : (numbered comments first pending raws).length = raws.length := by
  induction raws generalizing first pending with
  | nil => rfl
  | cons raw rest ih =>
    rw [numbered, List.length_cons, List.length_cons, ih]

theorem isNumbered_numbered (comments : CommentSyntax) (first : Nat) (pending : Pending)
    (raws : List (List Char)) : IsNumbered first (numbered comments first pending raws) := by
  induction raws generalizing first pending with
  | nil => rfl
  | cons raw rest ih =>
    have ih := ih (first + 1) (readLine comments pending raw).2
    rw [IsNumbered] at ih ⊢
    rw [numbered, List.map_cons, List.length_cons, List.range'_succ, ih]

theorem length_sourceLines (language : Language) (source : List Char) :
    (sourceLines language source).length = (lines source).length :=
  length_numbered _ _ _ _

/-- **The lines of a source text are numbered from one.** -/
theorem isNumbered_sourceLines (language : Language) (source : List Char) :
    IsNumbered 1 (sourceLines language source) :=
  isNumbered_numbered _ _ _ _

namespace IsNumbered

variable {first : Nat} {ls : List Line}

/-- The number of a line tells its place. -/
theorem number_eq (h : IsNumbered first ls) {i : Nat} {l : Line} (hl : ls[i]? = some l) :
    l.number = first + i := by
  have hi : i < ls.length := (List.getElem?_eq_some_iff.1 hl).1
  have hmap : (ls.map Line.number)[i]? = some l.number := by rw [List.getElem?_map, hl]; rfl
  rw [h, List.getElem?_range' hi, Nat.one_mul] at hmap
  exact (Option.some.inj hmap).symm

/-- A line stands where its number says. -/
theorem getElem?_eq (h : IsNumbered 1 ls) {l : Line} (hl : l ∈ ls) :
    1 ≤ l.number ∧ ls[l.number - 1]? = some l := by
  obtain ⟨i, hi⟩ := List.getElem?_of_mem hl
  have hn := h.number_eq hi
  rw [hn]
  exact ⟨by omega, by rw [Nat.add_sub_cancel_left, hi]⟩

/-- Numbered lines have distinct numbers. -/
theorem nodup (h : IsNumbered first ls) : (ls.map Line.number).Nodup := by
  rw [h]
  exact List.nodup_range'

end IsNumbered

/-! ## Kinds -/

theorem Line.kind_of_isComment {l : Line} (h : l.isComment) : l.kind = .comment :=
  of_decide_eq_true h

theorem Line.kind_of_isCode {l : Line} (h : l.isCode) : l.kind = .code :=
  of_decide_eq_true h

theorem Line.kind_of_isBlank {l : Line} (h : l.isBlank) : l.kind = .blank :=
  of_decide_eq_true h

theorem Line.isCode_of_isBlank {l : Line} (h : l.isBlank) : l.isCode = false := by
  simp [Line.isCode, Line.kind_of_isBlank h]

theorem Line.isComment_of_isBlank {l : Line} (h : l.isBlank) : l.isComment = false := by
  simp [Line.isComment, Line.kind_of_isBlank h]

/-- The kind of the line of some number. -/
def kindAt? (ls : List Line) : Nat → Option LineKind
  | 0 => none
  | i + 1 => ls[i]?.map Line.kind

theorem IsNumbered.kindAt?_eq {ls : List Line} (h : IsNumbered 1 ls) {l : Line} (hl : l ∈ ls) :
    kindAt? ls l.number = some l.kind := by
  obtain ⟨hpos, hget⟩ := h.getElem?_eq hl
  obtain ⟨i, hi⟩ := Nat.exists_eq_add_of_le' hpos
  rw [hi, Nat.add_sub_cancel] at hget
  rw [hi, kindAt?, hget]
  rfl

/-- **A line has the kind that it is read with behind the lines in front of it.** -/
theorem kindAt?_sourceLines (language : Language) {source : List Char}
    {front : List (List Char)} {raw : List Char} {rest : List (List Char)}
    (h : lines source = front ++ raw :: rest) :
    kindAt? (sourceLines language source) (front.length + 1) =
      some (readLine language.syntaxOf (stateBehind language.syntaxOf none front) raw).1 := by
  rw [kindAt?, sourceLines, h, numbered_append,
    List.getElem?_append_right (length_numbered _ _ _ _).le, length_numbered, Nat.sub_self,
    numbered_cons]
  rfl

/-- A line below another has the kind that it is read with behind that line and those between. -/
theorem kindAt?_below (language : Language) {source : List Char}
    {front between after : List (List Char)} {line raw : List Char}
    (h : lines source = front ++ line :: (between ++ raw :: after))
    (hfront : stateBehind language.syntaxOf none front = none) :
    kindAt? (sourceLines language source) (front.length + between.length + 2) =
      some (readLine language.syntaxOf (stateBehind language.syntaxOf
        (readLine language.syntaxOf none line).2 between) raw).1 := by
  have hkind := kindAt?_sourceLines language
    (show lines source = (front ++ line :: between) ++ raw :: after by
      rw [h, List.append_assoc, List.cons_append])
  rw [stateBehind_append, hfront, List.length_append, List.length_cons] at hkind
  exact hkind

/-- A line that has a kind is one of the lines. -/
theorem le_length_of_kindAt? {ls : List Line} {n : Nat} {kind : LineKind}
    (h : kindAt? ls n = some kind) : 1 ≤ n ∧ n ≤ ls.length := by
  cases n with
  | zero => cases h
  | succ i =>
    obtain ⟨l, hl, _⟩ := Option.map_eq_some_iff.1 h
    have := (List.getElem?_eq_some_iff.1 hl).1
    omega

/-! ## Counts -/

theorem length_codeLines (ls : List Line) : (codeLines ls).length = ls.countP Line.isCode :=
  List.countP_eq_length_filter.symm

/-- Each line is of one kind. -/
theorem length_eq_counts (ls : List Line) :
    ls.length = ls.countP Line.isBlank + ls.countP Line.isComment + ls.countP Line.isCode := by
  induction ls with
  | nil => rfl
  | cons l ls ih =>
    -- the line adds one to the count of its kind, and nothing to the others
    obtain ⟨number, text, kind⟩ := l
    rw [List.length_cons, List.countP_cons, List.countP_cons, List.countP_cons, ih]
    cases kind <;> simp [Line.isBlank, Line.isComment, Line.isCode] <;> omega

end Provenance

import Provenance.Lexis.Literal
import Provenance.Source.Language
import Provenance.Text.Line
import Provenance.Text.Search

/-!
# Source — Line

The numbered lines of a source text, each of them blank, comment or code. A line is read in a state:
the closer of the block comment that is still open, if one is. `readLine` gives the kind of a line
and the state behind it, and `numbered` threads the state through all lines.
-/

namespace Provenance

open Text Lexis

/-! ## Lines -/

/-- What a line holds. -/
inductive LineKind where
  | blank
  | comment
  | code
  deriving DecidableEq

def LineKind.text : LineKind → String
  | .blank => "blank"
  | .comment => "comment"
  | .code => "code"

/-- A line of a source text. -/
structure Line where
  /-- Counted from one. -/
  number : Nat
  text : List Char
  kind : LineKind
  deriving DecidableEq

def Line.isCode (l : Line) : Bool := l.kind == .code

def Line.isComment (l : Line) : Bool := l.kind == .comment

def Line.isBlank (l : Line) : Bool := l.kind == .blank

/-- The lines of code among some lines. -/
def codeLines (ls : List Line) : List Line := ls.filter Line.isCode

/-! ## Block comments -/

/-- The closer of the block comment that is open, if one is. -/
abbrev Pending := Option (List Char)

/-- The first block comment that opens in a text: its delimiters and its position. Of two that open
at one position the first of the list counts. -/
def firstOpener? (blocks : List BlockDelimiters) (cs : List Char) :
    Option (Nat × BlockDelimiters) :=
  blocks.foldr (fun block later =>
    match find? block.opener cs, later with
    | some i, some (j, other) => if j < i then some (j, other) else some (i, block)
    | some i, none => some (i, block)
    | none, _ => later) none

/-- The first opener is one of the openers, and stands where it is said to. -/
theorem find?_of_firstOpener? {blocks : List BlockDelimiters} {cs : List Char} {i : Nat}
    {block : BlockDelimiters} (h : firstOpener? blocks cs = some (i, block)) :
    block ∈ blocks ∧ find? block.opener cs = some i := by
  induction blocks with
  | nil => simp [firstOpener?] at h
  | cons b blocks ih =>
    have hf : firstOpener? (b :: blocks) cs =
        match find? b.opener cs, firstOpener? blocks cs with
        | some i, some (j, other) => if j < i then some (j, other) else some (i, b)
        | some i, none => some (i, b)
        | none, later => later := by
      simp only [firstOpener?, List.foldr_cons]
      split <;> simp_all
    rw [hf] at h
    split at h
    · rename_i hb hl
      split at h
      · simp only [Option.some.injEq, Prod.mk.injEq] at h
        obtain ⟨rfl, rfl⟩ := h
        exact ⟨List.mem_cons_of_mem _ (ih hl).1, (ih hl).2⟩
      · simp only [Option.some.injEq, Prod.mk.injEq] at h
        obtain ⟨rfl, rfl⟩ := h
        exact ⟨List.mem_cons_self, hb⟩
    · rename_i hb _
      simp only [Option.some.injEq, Prod.mk.injEq] at h
      obtain ⟨rfl, rfl⟩ := h
      exact ⟨List.mem_cons_self, hb⟩
    · exact ⟨List.mem_cons_of_mem _ (ih h).1, (ih h).2⟩

/-- Nothing opens in an empty text. -/
theorem ne_nil_of_firstOpener? {blocks : List BlockDelimiters} {cs : List Char}
    {found : Nat × BlockDelimiters} (h : firstOpener? blocks (maskLiterals cs) = some found) :
    cs ≠ [] := by
  rintro rfl
  obtain ⟨front, back, hcs, _⟩ := eq_append_of_find? (find?_of_firstOpener? h).2
  simp [maskLiterals, pieces, found.2.opener_ne] at hcs

/-- The state behind a text: closers are sought in the text as it is, openers outside literals. -/
def scanBlocks (blocks : List BlockDelimiters) (pending : Pending) (cs : List Char) : Pending :=
  match pending with
  | some closer =>
    match find? closer cs with
    | none => some closer
    | some i => scanBlocks blocks none (cs.drop (i + closer.length))
  | none =>
    match h : firstOpener? blocks (maskLiterals cs) with
    | none => none
    | some (i, block) =>
      have := List.length_pos_iff.2 (ne_nil_of_firstOpener? h)
      have := List.length_pos_iff.2 block.opener_ne
      scanBlocks blocks (some block.closer) (cs.drop (i + block.opener.length))
termination_by (cs.length, if pending.isSome then 1 else 0)
decreasing_by
  · simp only [List.length_drop]
    rcases Nat.lt_or_ge (cs.length - (i + closer.length)) cs.length with hlt | hge
    · exact Prod.Lex.left _ _ hlt
    · rw [show cs.length - (i + closer.length) = cs.length by omega]
      exact Prod.Lex.right _ (by simp)
  · refine Prod.Lex.left _ _ ?_
    simp only [List.length_drop]
    omega

/-! ## Kinds -/

/-- The part of a line of code in which a block comment can open: literals are blanked, and the line
is cut where a comment begins that ends with the line. -/
def codePart (lineOpeners : List (List Char)) (stripped : List Char) : List Char :=
  lineOpeners.foldl (fun code opener => before opener code) (maskLiterals stripped)

/-- The kind of a line and the state behind it. -/
def readLine (comments : CommentSyntax) (pending : Pending) (raw : List Char) :
    LineKind × Pending :=
  let stripped := strip raw
  if pending.isSome then
    (if stripped = [] then .blank else .comment, scanBlocks comments.block pending stripped)
  else if stripped = [] then (.blank, none)
  else if comments.block.any fun block => block.opener.isPrefixOf stripped then
    (.comment, scanBlocks comments.block none stripped)
  else if comments.line.any fun opener => opener.isPrefixOf stripped then (.comment, none)
  else (.code, scanBlocks comments.block none (codePart comments.line stripped))

/-- The lines of a text from some number on, read from some state on. -/
def numbered (comments : CommentSyntax) (number : Nat) (pending : Pending) :
    List (List Char) → List Line
  | [] => []
  | raw :: rest =>
    let (kind, behind) := readLine comments pending raw
    ⟨number, raw, kind⟩ :: numbered comments (number + 1) behind rest

/-- The lines of a source text. -/
def sourceLines (language : Language) (source : List Char) : List Line :=
  numbered language.syntaxOf 1 none (lines source)

/-! ## Counts -/

/-- How many lines are blank, comment and code. -/
structure LineCounts where
  blank : Nat
  comment : Nat
  code : Nat
  deriving DecidableEq

def LineCounts.of (ls : List Line) : LineCounts where
  blank := ls.countP Line.isBlank
  comment := ls.countP Line.isComment
  code := ls.length - ls.countP Line.isBlank - ls.countP Line.isComment

end Provenance

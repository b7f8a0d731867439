import Provenance.Fault

/-!
# Pattern

Patterns of generated code that were found in a file. A pattern covers at least one line; its lines
are numbered from one and ascend, and its confidence is a percentage. `Finding.check` is the only
way to a pattern from numbers that may be anything.
-/

namespace Provenance

/-! ## Kinds -/

/-- The families of patterns. -/
inductive PatternKind where
  | comment
  | structural
  | naming
  | complexity
  deriving DecidableEq

namespace PatternKind

/-- All kinds, in the order in which their patterns are reported. -/
def all : List PatternKind := [.comment, .structural, .naming, .complexity]

def name : PatternKind → String
  | .comment => "comment"
  | .structural => "structure"
  | .naming => "naming"
  | .complexity => "complexity"

/-- The kind of a name. -/
def ofName (name : String) : Checked PatternKind :=
  match all.find? fun kind => kind.name == name with
  | some kind => .ok kind
  | none => .error (.unknownKind name)

/-- A kind is found by its name. -/
theorem ofName_name (kind : PatternKind) : ofName kind.name = .ok kind := by
  cases kind <;> simp [ofName, all, name]

end PatternKind

/-! ## Ascending numbers -/

/-- An ascending list with one more number; a number that is there already is not repeated. -/
def insertNumber (n : Nat) : List Nat → List Nat
  | [] => [n]
  | m :: ms => if n < m then n :: m :: ms else if n = m then m :: ms else m :: insertNumber n ms

/-- The numbers of a list, ascending and without repetition. -/
def ascending (ns : List Nat) : List Nat := ns.foldr insertNumber []

theorem mem_insertNumber {n k : Nat} {ms : List Nat} : k ∈ insertNumber n ms ↔ k = n ∨ k ∈ ms := by
  induction ms with
  | nil => simp [insertNumber]
  | cons m ms ih =>
    simp only [insertNumber]
    split
    · simp
    · split
      · simp_all
      · simp only [List.mem_cons, ih]
        grind

/-- Sorting keeps exactly the numbers of the list. -/
theorem mem_ascending {k : Nat} {ns : List Nat} : k ∈ ascending ns ↔ k ∈ ns := by
  induction ns with
  | nil => simp [ascending]
  | cons n ns ih =>
    rw [ascending, List.foldr_cons, mem_insertNumber, ← ascending, ih, List.mem_cons]

theorem pairwise_insertNumber {n : Nat} {ms : List Nat} (h : ms.Pairwise (· < ·)) :
    (insertNumber n ms).Pairwise (· < ·) := by
  induction ms with
  | nil => simp [insertNumber]
  | cons m ms ih =>
    obtain ⟨hm, hms⟩ := List.pairwise_cons.1 h
    simp only [insertNumber]
    split
    · refine List.pairwise_cons.2 ⟨fun k hk => ?_, h⟩
      rcases List.mem_cons.1 hk with rfl | hk
      · assumption
      · exact Nat.lt_trans (by assumption) (hm k hk)
    · split
      · exact h
      · refine List.pairwise_cons.2 ⟨fun k hk => ?_, ih hms⟩
        rcases mem_insertNumber.1 hk with rfl | hk
        · omega
        · exact hm k hk

/-- Each number is above the one before it. -/
theorem pairwise_ascending (ns : List Nat) : (ascending ns).Pairwise (· < ·) := by
  induction ns with
  | nil => simp [ascending]
  | cons n ns ih => exact pairwise_insertNumber ih

/-! ## Patterns -/

/-- A pattern that was found in a file. -/
structure Pattern where
  kind : PatternKind
  description : String
  /-- In percent. -/
  confidence : Nat
  /-- What the places that match have in common. -/
  signature : String
  /-- The numbers of the covered lines. -/
  lines : List Nat
  confidence_le : confidence ≤ 100
  lines_ne : lines ≠ []
  lines_pos : ∀ n ∈ lines, 1 ≤ n
  lines_ascend : lines.Pairwise (· < ·)
  deriving DecidableEq

/-- A pattern before its numbers are checked. -/
structure Finding where
  kind : PatternKind
  description : String
  confidence : Int
  signature : String
  /-- In any order, and with any repetitions. -/
  lines : List Int
  deriving DecidableEq

/-- The pattern of a finding, or the first fault of it: no lines, a confidence that is no
percentage, a line number below one. -/
def Finding.check (f : Finding) : Checked Pattern :=
  if hn : f.lines = [] then .error .noLines
  else if hc : f.confidence < 0 ∨ 100 < f.confidence then
    .error (.confidenceOutOfRange f.confidence)
  else if hl : ∃ n ∈ f.lines, n < 1 then .error .lineBelowOne
  else .ok {
    kind := f.kind
    description := f.description
    confidence := f.confidence.toNat
    signature := f.signature
    lines := ascending (f.lines.map Int.toNat)
    confidence_le := by omega
    lines_ne := by
      obtain ⟨n, hn⟩ := List.exists_mem_of_ne_nil _ hn
      exact List.ne_nil_of_mem (mem_ascending.2 (List.mem_map_of_mem hn))
    lines_pos := by
      intro k hk
      obtain ⟨n, hn, rfl⟩ := List.mem_map.1 (mem_ascending.1 hk)
      have : ¬ n < 1 := fun h => hl ⟨n, hn, h⟩
      omega
    lines_ascend := pairwise_ascending _ }

end Provenance

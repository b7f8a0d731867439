/-!
# Text — Search

Where one text occurs in another.
-/

namespace Provenance.Text

/-- The position of the first occurrence of a text. -/
def find? (sought : List Char) : List Char → Option Nat
  | [] => if sought.isEmpty then some 0 else none
  | c :: cs => if sought.isPrefixOf (c :: cs) then some 0 else (find? sought cs).map (· + 1)

/-- A text that is found stands between what precedes it and what follows it. -/
theorem eq_append_of_find? {sought cs : List Char} {i : Nat} (h : find? sought cs = some i) :
    ∃ front back, cs = front ++ sought ++ back ∧ front.length = i := by
  induction cs generalizing i with
  | nil =>
    simp only [find?] at h
    split at h
    · rename_i he
      exact ⟨[], [], by simp [List.isEmpty_iff.1 he], by simpa using h⟩
    · simp at h
  | cons c cs ih =>
    simp only [find?] at h
    split at h
    · rename_i hp
      obtain ⟨back, hb⟩ := List.isPrefixOf_iff_prefix.1 hp
      exact ⟨[], back, by simp [hb], by simpa using h⟩
    · obtain ⟨j, hj, rfl⟩ := Option.map_eq_some_iff.1 h
      obtain ⟨front, back, rfl, rfl⟩ := ih hj
      exact ⟨c :: front, back, by simp, by simp⟩

/-- The text before the first occurrence of another, or all of it when there is none. -/
def before (sought cs : List Char) : List Char :=
  match find? sought cs with
  | some i => cs.take i
  | none => cs

/-- Whether one text occurs in another. -/
def occurs (sought cs : List Char) : Bool := (find? sought cs).isSome

end Provenance.Text

import Provenance.Tree
import Provenance.Proofs.Path

/-!
# Proofs — Tree

Proper trees: each entry of a folder has a name that it can have, and shares it with no other entry.
What is found in a proper tree is proper and is reached by names (`IsProper.node?`), through each
folder above it (`node?_append_iff`).
-/

namespace Provenance

open Provenance.Path

namespace Tree

/-- The names of the entries of a folder. -/
def names : Tree → List String
  | .empty => []
  | .file name _ rest => name :: rest.names
  | .folder name _ rest => name :: rest.names

/-- The entries of each folder have names that they can have, and no name twice. -/
inductive IsProper : Tree → Prop
  | empty : IsProper .empty
  | file {name : String} {bytes : List UInt8} {rest : Tree} (hname : isName name = true)
    (hfresh : name ∉ rest.names) (hrest : IsProper rest) : IsProper (.file name bytes rest)
  | folder {name : String} {entries rest : Tree} (hname : isName name = true)
    (hfresh : name ∉ rest.names) (hentries : IsProper entries) (hrest : IsProper rest) :
    IsProper (.folder name entries rest)

end Tree

/-- What a name stands for in a proper tree. -/
def Node.IsProper : Node → Prop
  | .file _ => True
  | .folder entries => entries.IsProper

namespace Tree

/-! ## Finding -/

theorem IsProper.find? {t : Tree} (h : t.IsProper) {name : String} {node : Node}
    (hf : t.find? name = some node) : isName name = true ∧ node.IsProper := by
  induction h with
  | empty => cases hf
  | file hname _ _ ih =>
    rw [Tree.find?] at hf
    split at hf
    · rename_i he
      cases hf
      exact ⟨he ▸ hname, trivial⟩
    · exact ih hf
  | folder hname _ hentries _ _ ih =>
    rw [Tree.find?] at hf
    split at hf
    · rename_i he
      cases hf
      exact ⟨he ▸ hname, hentries⟩
    · exact ih hf

theorem find?_eq_none {name : String} {t : Tree} (h : name ∉ t.names) : t.find? name = none := by
  induction t with
  | empty => rfl
  | file n bytes rest ih =>
    rw [names, List.mem_cons, not_or] at h
    rw [find?, if_neg (Ne.symm h.1), ih h.2]
  | folder n entries rest _ ih =>
    rw [names, List.mem_cons, not_or] at h
    rw [find?, if_neg (Ne.symm h.1), ih h.2]

/-- A path goes on only from a folder. -/
theorem of_node?_cons {name next : String} {rest : List String} {t : Tree} {node : Node}
    (h : t.node? (name :: next :: rest) = some node) :
    ∃ entries, t.find? name = some (.folder entries) ∧ entries.node? (next :: rest) = some node := by
  rw [Tree.node?] at h
  · split at h
    · exact ⟨_, by assumption, h⟩
    · cases h
  · intro he
    cases he

/-- **What is found in a proper tree is proper, and the way to it are names.** -/
theorem IsProper.node? {t : Tree} (h : t.IsProper) {parts : List String} {node : Node}
    (hn : t.node? parts = some node) : AreNames parts ∧ node.IsProper := by
  induction parts generalizing t with
  | nil =>
    cases hn
    exact ⟨.nil, h⟩
  | cons name rest ih =>
    cases rest with
    | nil =>
      obtain ⟨hname, hnode⟩ := h.find? (show t.find? name = some node from hn)
      exact ⟨.cons hname .nil, hnode⟩
    | cons next rest =>
      obtain ⟨entries, hfind, hn⟩ := of_node?_cons hn
      obtain ⟨hname, hentries⟩ := h.find? hfind
      obtain ⟨hrest, hnode⟩ := ih hentries hn
      exact ⟨.cons hname hrest, hnode⟩

theorem IsProper.folder? {t : Tree} (h : t.IsProper) {parts : List String} {entries : Tree}
    (hf : t.folder? parts = some entries) : AreNames parts ∧ entries.IsProper := by
  rw [Tree.folder?] at hf
  split at hf
  · rename_i hn
    cases hf
    exact h.node? hn
  · cases hf

theorem IsProper.hasFile {t : Tree} (h : t.IsProper) {parts : List String}
    (hf : t.hasFile parts = true) : AreNames parts := by
  rw [Tree.hasFile] at hf
  split at hf
  · rename_i hn
    exact (h.node? hn).1
  · cases hf

theorem node?_cons_iff {name : String} {rest : List String} (h : rest ≠ []) {t : Tree}
    {node : Node} : t.node? (name :: rest) = some node ↔
      ∃ entries, t.find? name = some (.folder entries) ∧ entries.node? rest = some node := by
  obtain ⟨next, rest, rfl⟩ := List.exists_cons_of_ne_nil h
  constructor
  · exact of_node?_cons
  · rintro ⟨entries, hfind, hnode⟩
    rw [Tree.node?, hfind]
    · exact hnode
    · intro he
      cases he

theorem hasFile_iff {parts : List String} {t : Tree} :
    t.hasFile parts = true ↔ ∃ bytes, t.node? parts = some (.file bytes) := by
  rw [Tree.hasFile]
  split
  · exact ⟨fun _ => ⟨_, by assumption⟩, fun _ => rfl⟩
  · rename_i hnode
    constructor
    · nofun
    · rintro ⟨bytes, h⟩
      exact absurd h (hnode bytes)

theorem folder?_eq_some_iff {parts : List String} {t entries : Tree} :
    t.folder? parts = some entries ↔ t.node? parts = some (.folder entries) := by
  rw [Tree.folder?]
  split
  · rename_i hnode
    simp [hnode]
  · rename_i hnode
    exact ⟨nofun, fun h => absurd h (hnode entries)⟩

theorem folder?_cons_iff {name : String} {above : List String} {t entries : Tree} :
    t.folder? (name :: above) = some entries ↔
      ∃ first, t.find? name = some (.folder first) ∧ first.folder? above = some entries := by
  cases above with
  | nil =>
    rw [folder?_eq_some_iff, Tree.node?]
    constructor
    · intro hfind
      exact ⟨entries, hfind, rfl⟩
    · rintro ⟨first, hfind, he⟩
      cases he
      exact hfind
  | cons next above =>
    rw [folder?_eq_some_iff, node?_cons_iff (List.cons_ne_nil _ _)]
    simp only [folder?_eq_some_iff]

/-- **A path goes through each folder above its end.** -/
theorem node?_append_iff {above parts : List String} (h : parts ≠ []) {t : Tree} {node : Node} :
    t.node? (above ++ parts) = some node ↔
      ∃ entries, t.folder? above = some entries ∧ entries.node? parts = some node := by
  induction above generalizing t with
  | nil =>
    constructor
    · intro hnode
      exact ⟨t, rfl, hnode⟩
    · rintro ⟨entries, hfolder, hnode⟩
      cases hfolder
      exact hnode
  | cons name above ih =>
    rw [List.cons_append, node?_cons_iff (List.append_ne_nil_of_right_ne_nil _ h)]
    simp only [ih, folder?_cons_iff]
    constructor
    · rintro ⟨first, hfind, entries, hfolder, hnode⟩
      exact ⟨entries, ⟨first, hfind, hfolder⟩, hnode⟩
    · rintro ⟨entries, ⟨first, hfind, hfolder⟩, hnode⟩
      exact ⟨first, hfind, entries, hfolder, hnode⟩

theorem hasFile_append_iff {above parts : List String} (h : parts ≠ []) {t : Tree} :
    t.hasFile (above ++ parts) = true ↔
      ∃ entries, t.folder? above = some entries ∧ entries.hasFile parts = true := by
  simp only [hasFile_iff, node?_append_iff h]
  constructor
  · rintro ⟨bytes, entries, hfolder, hnode⟩
    exact ⟨entries, hfolder, bytes, hnode⟩
  · rintro ⟨entries, hfolder, bytes, hnode⟩
    exact ⟨bytes, entries, hfolder, hnode⟩

end Tree

end Provenance

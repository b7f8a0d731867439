import Mathlib.Data.List.Nodup
import Provenance.Cache

/-!
# Proofs — Cache

What a cache holds, by paths. Each path has at most one entry (`filter_entries`), and of several
analyses that are put in under one path the last one stays (`get?_putAll`).
-/

namespace Provenance

/-! ## The latest of some analyses -/

/-- The last of some analyses that is one of the file at a path. -/
def lastOf (path : String) : List FileAnalysis → Option FileAnalysis
  | [] => none
  | f :: files => (lastOf path files).or (if f.path = path then some f else none)

theorem path_of_lastOf {path : String} {files : List FileAnalysis} {a : FileAnalysis}
    (h : lastOf path files = some a) : a ∈ files ∧ a.path = path := by
  induction files with
  | nil => cases h
  | cons f files ih =>
    rw [lastOf, Option.or_eq_some_iff] at h
    rcases h with h | ⟨_, h⟩
    · exact ⟨List.mem_cons_of_mem _ (ih h).1, (ih h).2⟩
    · split at h
      · cases h
        exact ⟨List.mem_cons_self, by assumption⟩
      · cases h

namespace Cache

/-- **The last analysis of a path stays.** -/
theorem get?_putAll (c : Cache) (files : List FileAnalysis) (path : String) :
    (c.putAll files).get? path = (lastOf path files).or (c.get? path) := by
  induction files generalizing c with
  | nil => rfl
  | cons f files ih =>
    show ((c.put f.path f).putAll files).get? path = _
    rw [ih, get?_put, lastOf, Option.or_assoc]
    by_cases h : f.path = path
    · rw [if_pos h.symm, if_pos h, Option.some_or]
    · rw [if_neg (Ne.symm h), if_neg h, Option.none_or]

/-! ## Entries -/

/-- A path that is not among the entries has no analysis, and neither has it an entry. -/
theorem filter_eq_nil {entries : List (String × FileAnalysis)} {path : String}
    (h : path ∉ entries.map (·.1)) : (entries.filter fun e => e.1 = path) = [] := by
  refine List.filter_eq_nil_iff.2 fun e he hp => h ?_
  rw [← of_decide_eq_true hp]
  exact List.mem_map_of_mem he

/-- **A path has the entry of its analysis, and no other.** -/
theorem filter_entries (c : Cache) (path : String) :
    (c.entries.filter fun e => e.1 = path) = (c.get? path).toList.map fun a => (path, a) := by
  obtain ⟨entries, hnodup⟩ := c
  show _ = ((entries.find? fun e => e.1 == path).map (·.2)).toList.map fun a => (path, a)
  induction entries with
  | nil => rfl
  | cons e rest ih =>
    obtain ⟨p, a⟩ := e
    obtain ⟨hp, hrest⟩ := List.nodup_cons.1 hnodup
    by_cases h : p = path
    · -- no entry behind this one has its path
      subst h
      simp [filter_eq_nil hp]
    · simp [h, ih hrest]

/-- An entry holds the analysis of its path. -/
theorem get?_of_mem {c : Cache} {e : String × FileAnalysis} (h : e ∈ c.entries) :
    c.get? e.1 = some e.2 := by
  have hmem : e ∈ c.entries.filter fun e' => e'.1 = e.1 := List.mem_filter.2 ⟨h, by simp⟩
  rw [filter_entries] at hmem
  obtain ⟨a, ha, he⟩ := List.mem_map.1 hmem
  rw [Option.mem_toList.1 ha, ← he]

end Cache

end Provenance

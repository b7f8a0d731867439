import Provenance.FileAnalysis

/-!
# Cache

The latest analysis of each path. Paths stand in the order in which they first came in; a new
analysis of a path takes the place of the old one.
-/

namespace Provenance

/-- Entries with one more, or with another analysis where the path is there already. -/
def putEntry (path : String) (analysis : FileAnalysis) :
    List (String × FileAnalysis) → List (String × FileAnalysis)
  | [] => [(path, analysis)]
  | (p, a) :: rest =>
    if p = path then (path, analysis) :: rest else (p, a) :: putEntry path analysis rest

/-- A new path comes last, and a known one keeps its place. -/
theorem map_fst_putEntry (path : String) (analysis : FileAnalysis)
    (entries : List (String × FileAnalysis)) :
    (putEntry path analysis entries).map (·.1) =
      if path ∈ entries.map (·.1) then entries.map (·.1) else entries.map (·.1) ++ [path] := by
  induction entries with
  | nil => simp [putEntry]
  | cons e rest ih =>
    obtain ⟨p, a⟩ := e
    by_cases h : p = path
    · simp [putEntry, h]
    · simp only [putEntry, if_neg h, List.map_cons, ih, List.mem_cons]
      by_cases hm : path ∈ rest.map (·.1)
      · simp [hm]
      · simp [hm, Ne.symm h]

/-- The new analysis is found under its path, and nothing else changes. -/
theorem find?_putEntry (path q : String) (analysis : FileAnalysis)
    (entries : List (String × FileAnalysis)) :
    ((putEntry path analysis entries).find? fun e => e.1 == q).map (·.2) =
      if q = path then some analysis else (entries.find? fun e => e.1 == q).map (·.2) := by
  induction entries with
  | nil =>
    by_cases h : q = path
    · simp [putEntry, h]
    · simp [putEntry, h, Ne.symm h]
  | cons e rest ih =>
    obtain ⟨p, a⟩ := e
    by_cases hp : p = path
    · subst hp
      by_cases h : q = p
      · simp [putEntry, h]
      · simp [putEntry, h, Ne.symm h]
    · rw [putEntry, if_neg hp]
      by_cases hq : p = q
      · subst hq
        simp [hp]
      · simp [hq, ih]

/-- The latest analysis of each path. -/
structure Cache where
  entries : List (String × FileAnalysis)
  paths_nodup : (entries.map (·.1)).Nodup

namespace Cache

def empty : Cache := ⟨[], by simp⟩

/-- The paths with an analysis. -/
def paths (c : Cache) : List String := c.entries.map (·.1)

def size (c : Cache) : Nat := c.entries.length

/-- The analysis of a path. -/
def get? (c : Cache) (path : String) : Option FileAnalysis :=
  (c.entries.find? fun e => e.1 == path).map (·.2)

def contains (c : Cache) (path : String) : Bool := c.entries.any fun e => e.1 == path

/-- A cache with an analysis for a path. -/
def put (c : Cache) (path : String) (analysis : FileAnalysis) : Cache where
  entries := putEntry path analysis c.entries
  paths_nodup := by
    rw [map_fst_putEntry]
    split
    · exact c.paths_nodup
    · rename_i h
      exact List.nodup_append.2 ⟨c.paths_nodup, by simp, fun a ha b hb => by
        rintro rfl
        simp only [List.mem_singleton] at hb
        exact h (hb ▸ ha)⟩

/-- What was put in last is found. -/
theorem get?_put (c : Cache) (path q : String) (analysis : FileAnalysis) :
    (c.put path analysis).get? q = if q = path then some analysis else c.get? q :=
  find?_putEntry path q analysis c.entries

/-- A new path comes last, and a known one keeps its place. -/
theorem paths_put (c : Cache) (path : String) (analysis : FileAnalysis) :
    (c.put path analysis).paths = if path ∈ c.paths then c.paths else c.paths ++ [path] :=
  map_fst_putEntry path analysis c.entries

/-- A cache with the analyses of several files, each under its own path. -/
def putAll (c : Cache) (files : List FileAnalysis) : Cache :=
  files.foldl (fun c f => c.put f.path f) c

end Cache

end Provenance

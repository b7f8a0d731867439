/-!
# Grouping

Lists cut into groups: by a key, by distance, by count, and thinned so that stretches do not
overlap. All groups are non-empty, and keep the order of the list.
-/

namespace Provenance

/-! ## By key -/

/-- The values of each key. Keys stand in the order in which they first occur, values in the order
of the list. -/
def group {κ α : Type} [DecidableEq κ] (entries : List (κ × α)) : List (κ × List α) :=
  (entries.map (·.1)).eraseDups.map fun key =>
    (key, (entries.filter fun entry => entry.1 = key).map (·.2))

/-! ## By distance -/

/-- A list cut wherever the distance from one number to the next exceeds the window. -/
def clusters {α : Type} (number : α → Nat) (window : Nat) : List α → List (List α)
  | [] => []
  | x :: xs =>
    match clusters number window xs with
    | (y :: ys) :: rest =>
      if number y - number x ≤ window then (x :: y :: ys) :: rest else [x] :: (y :: ys) :: rest
    | rest => [x] :: rest

/-- A cluster has members. -/
theorem ne_nil_of_mem_clusters {α : Type} {number : α → Nat} {window : Nat} {xs c : List α}
    (h : c ∈ clusters number window xs) : c ≠ [] := by
  fun_induction clusters number window xs with
  | case1 => simp at h
  | case2 x xs y ys rest hr hw ih =>
    rcases List.mem_cons.1 h with rfl | h
    · simp
    · exact ih (by rw [hr]; exact List.mem_cons_of_mem _ h)
  | case3 x xs y ys rest hr hw ih =>
    rcases List.mem_cons.1 h with rfl | h
    · simp
    · exact ih (by rw [hr]; exact h)
  | case4 x xs hr ih =>
    rcases List.mem_cons.1 h with rfl | h
    · simp
    · exact ih h

/-- Clusters lose nothing. -/
theorem flatten_clusters {α : Type} (number : α → Nat) (window : Nat) (xs : List α) :
    (clusters number window xs).flatten = xs := by
  fun_induction clusters number window xs with
  | case1 => rfl
  | case2 x xs y ys rest hr hw ih => simp_all
  | case3 x xs y ys rest hr hw ih => simp_all
  | case4 x xs hr ih => simp_all

/-! ## By count -/

/-- A list cut into pieces of one length, the last of which may be shorter. Nothing is cut into
pieces of length zero. -/
def chunks {α : Type} (size : Nat) (xs : List α) : List (List α) :=
  if h : xs = [] ∨ size = 0 then []
  else
    have := List.length_pos_iff.2 (not_or.1 h).1
    have := Nat.pos_of_ne_zero (not_or.1 h).2
    xs.take size :: chunks size (xs.drop size)
termination_by xs.length
decreasing_by
  simp only [List.length_drop]
  omega

/-- Pieces lose nothing. -/
theorem flatten_chunks {α : Type} {size : Nat} (h : 0 < size) (xs : List α) :
    (chunks size xs).flatten = xs := by
  fun_induction chunks size xs with
  | case1 xs he =>
    rcases he with rfl | hz
    · rfl
    · omega
  | case2 xs he _ _ ih => rw [List.flatten_cons, ih, List.take_append_drop]

/-- The stretches of a length, each with the index that it begins at. -/
def windows {α : Type} (size : Nat) (xs : List α) : List (Nat × List α) :=
  (List.range (xs.length + 1 - size)).map fun i => (i, (xs.drop i).take size)

/-! ## Thinning -/

/-- Stretches of a length by their beginnings, without those that begin before the last one kept has
ended, or before `free`. -/
def thin {α : Type} (size : Nat) : Nat → List (Nat × α) → List (Nat × α)
  | _, [] => []
  | free, (i, x) :: rest =>
    if i < free then thin size free rest else (i, x) :: thin size (i + size) rest

/-- Thinning only leaves stretches out. -/
theorem thin_sublist {α : Type} (size free : Nat) (xs : List (Nat × α)) :
    (thin size free xs).Sublist xs := by
  induction xs generalizing free with
  | nil => exact List.Sublist.slnil
  | cons e rest ih =>
    obtain ⟨i, x⟩ := e
    rw [thin]
    split
    · exact (ih free).cons _
    · exact (ih (i + size)).cons_cons _

end Provenance

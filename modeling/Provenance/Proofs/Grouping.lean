import Mathlib.Data.List.Chain
import Mathlib.Data.List.Perm.Subperm
import Provenance.Grouping
import Provenance.Number.Total

/-!
# Proofs — Grouping

Groups have members, and their members come from the list that is grouped. The groups of a list have
no more members in all than the list has (`total_length_group_le`), and the groups of some of the
keys are the groups of those entries (`group_filter`). Members that are near each other are in one
cluster (`exists_cluster_of_chain`), and a stretch that thinning leaves out overlaps one that is
kept (`exists_mem_thin`).
-/

namespace Provenance

variable {α κ : Type}

/-! ## By key -/

section Keys

variable [DecidableEq κ]

/-- The recursion erases the copies of the first key, and goes on with what is left. -/
theorem nodup_eraseDups (keys : List κ) : keys.eraseDups.Nodup := by
  cases keys with
  | nil => exact List.nodup_nil
  | cons key keys =>
    rw [List.eraseDups_cons, List.nodup_cons]
    constructor
    · simp [List.mem_eraseDups]
    · exact nodup_eraseDups _
termination_by keys.length
decreasing_by
  rw [List.length_cons]
  exact Nat.lt_succ_of_le (List.length_filter_le _ _)

theorem mem_group {entries : List (κ × α)} {key : κ} {members : List α}
    (h : (key, members) ∈ group entries) :
    members ≠ [] ∧ ∀ a ∈ members, (key, a) ∈ entries := by
  obtain ⟨key', hkey, he⟩ := List.mem_map.1 h
  cases he
  constructor
  · obtain ⟨entry, hmem, rfl⟩ := List.mem_map.1 (List.mem_eraseDups.1 hkey)
    exact List.ne_nil_of_mem (List.mem_map_of_mem (List.mem_filter.2 ⟨hmem, by simp⟩))
  · intro a ha
    obtain ⟨⟨key', a'⟩, hmem, rfl⟩ := List.mem_map.1 ha
    obtain ⟨hmem, hkey'⟩ := List.mem_filter.1 hmem
    rwa [← of_decide_eq_true hkey']

/-- A key that occurs has a group, with all its values. -/
theorem group_of_mem {entries : List (κ × α)} {key : κ} {a : α} (h : (key, a) ∈ entries) :
    (key, (entries.filter fun entry => entry.1 = key).map (·.2)) ∈ group entries :=
  List.mem_map.2 ⟨key, List.mem_eraseDups.2 (List.mem_map.2 ⟨(key, a), h, rfl⟩), rfl⟩

/-- A group has all values of its key. -/
theorem eq_of_mem_group {entries : List (κ × α)} {key : κ} {members : List α}
    (h : (key, members) ∈ group entries) :
    members = (entries.filter fun entry => entry.1 = key).map (·.2) := by
  obtain ⟨_, _, he⟩ := List.mem_map.1 h
  cases he
  rfl

theorem nodup_keys_group (entries : List (κ × α)) : ((group entries).map (·.1)).Nodup := by
  rw [group, List.map_map]
  simpa [Function.comp_def] using nodup_eraseDups (entries.map (·.1))

/-- Without the members of a key, the other keys have what they had. -/
theorem filter_filter_of_ne {keyOf : α → κ} {k key : κ} (h : k ≠ key) (xs : List α) :
    ((xs.filter fun a => !decide (keyOf a = key)).filter fun a => decide (keyOf a = k)) =
      xs.filter fun a => decide (keyOf a = k) := by
  rw [List.filter_filter]
  refine List.filter_congr fun a _ => ?_
  by_cases he : keyOf a = k
  · simp [he, h]
  · simp [he]

/-- Different keys have their entries apart. -/
theorem total_length_filter_le {keys : List κ} (h : keys.Nodup) (entries : List (κ × α)) :
    total (keys.map fun key => (entries.filter fun entry => entry.1 = key).length) ≤
      entries.length := by
  induction keys generalizing entries with
  | nil => exact Nat.zero_le _
  | cons key keys ih =>
    obtain ⟨hkey, hkeys⟩ := List.nodup_cons.1 h
    have ih := ih hkeys (entries.filter fun entry => !decide (entry.1 = key))
    have hsame : ∀ k ∈ keys,
        ((entries.filter fun entry => !decide (entry.1 = key)).filter
          fun entry => entry.1 = k).length =
        (entries.filter fun entry => entry.1 = k).length := by
      intro k hk
      have hne : k ≠ key := fun he => hkey (he ▸ hk)
      rw [filter_filter_of_ne hne]
    rw [List.map_congr_left hsame] at ih
    have hsplit := List.length_eq_length_filter_add (l := entries) fun entry => decide (entry.1 = key)
    rw [List.map_cons, total_cons]
    omega

/-- A sum is taken over some members and over the others. -/
theorem total_filter_add (p : α → Bool) (value : α → Int) (xs : List α) :
    total ((xs.filter p).map value) + total ((xs.filter fun a => !p a).map value) =
      total (xs.map value) := by
  induction xs with
  | nil => rfl
  | cons a xs ih =>
    cases hp : p a
    · simp only [List.filter_cons, hp, Bool.not_false, if_true, Bool.false_eq_true, if_false,
        List.map_cons, total_cons]
      omega
    · simp only [List.filter_cons, hp, Bool.not_true, if_true, Bool.false_eq_true, if_false,
        List.map_cons, total_cons]
      omega

/-- **What is summed key by key is summed once**, if the keys are different and all members have one
of them. -/
theorem total_keys {keys : List κ} (h : keys.Nodup) (keyOf : α → κ) (value : α → Int) {xs : List α}
    (hkeys : ∀ a ∈ xs, keyOf a ∈ keys) :
    total (keys.map fun key => total ((xs.filter fun a => decide (keyOf a = key)).map value)) =
      total (xs.map value) := by
  induction keys generalizing xs with
  | nil =>
    have hnil : xs = [] := List.eq_nil_iff_forall_not_mem.2 fun a ha => nomatch hkeys a ha
    rw [hnil]
    rfl
  | cons key keys ih =>
    obtain ⟨hkey, hnodup⟩ := List.nodup_cons.1 h
    have hrest : ∀ a ∈ xs.filter fun a => !decide (keyOf a = key), keyOf a ∈ keys := by
      intro a ha
      obtain ⟨hmem, hne⟩ := List.mem_filter.1 ha
      exact (List.mem_cons.1 (hkeys a hmem)).resolve_left (by simpa using hne)
    have hsame : ∀ k ∈ keys,
        total (((xs.filter fun a => !decide (keyOf a = key)).filter
          fun a => decide (keyOf a = k)).map value) =
        total ((xs.filter fun a => decide (keyOf a = k)).map value) := by
      intro k hk
      have hne : k ≠ key := fun he => hkey (he ▸ hk)
      rw [filter_filter_of_ne hne]
    have ih := ih hnodup hrest
    rw [List.map_congr_left hsame] at ih
    rw [List.map_cons, total_cons, ih, total_filter_add]

/-- The groups of a list have no more members than the list. -/
theorem total_length_group_le (entries : List (κ × α)) :
    total ((group entries).map fun entry => entry.2.length) ≤ entries.length := by
  have h := total_length_filter_le (nodup_eraseDups (entries.map (·.1))) entries
  rw [group, List.map_map]
  simpa [Function.comp_def] using h

/-- The recursion erases the copies of the first key; it is chosen or not with all of them. -/
theorem eraseDups_filter (p : κ → Bool) (keys : List κ) :
    (keys.filter p).eraseDups = keys.eraseDups.filter p := by
  cases keys with
  | nil => rfl
  | cons key keys =>
    have ih := eraseDups_filter p (keys.filter fun k => !k == key)
    rw [List.eraseDups_cons, List.filter_cons, List.filter_cons]
    split
    · rw [List.eraseDups_cons, List.filter_filter, ← ih, List.filter_filter]
      simp only [Bool.and_comm]
    · rename_i hkey
      rw [← ih, List.filter_filter]
      congr 1
      refine List.filter_congr fun k _ => ?_
      by_cases he : k = key
      · simp [he, hkey]
      · simp [he]
termination_by keys.length
decreasing_by
  rw [List.length_cons]
  exact Nat.lt_succ_of_le (List.length_filter_le _ _)

/-- Choosing keys before grouping and after it is the same. -/
theorem group_filter (p : κ → Bool) (entries : List (κ × α)) :
    group (entries.filter fun entry => p entry.1) =
      (group entries).filter fun entry => p entry.1 := by
  have hkeys : (entries.filter fun entry => p entry.1).map (·.1) =
      (entries.map (·.1)).filter p := by
    rw [List.filter_map]
    rfl
  rw [group, hkeys, eraseDups_filter, group, List.filter_map]
  apply List.map_congr_left
  intro key hkey
  have hp : p key = true := (List.mem_filter.1 hkey).2
  rw [List.filter_filter]
  congr 2
  refine List.filter_congr fun entry _ => ?_
  by_cases he : entry.1 = key
  · simp [he, hp]
  · simp [he]

theorem group_filter_sublist (p : κ → Bool) (entries : List (κ × α)) :
    (group (entries.filter fun entry => p entry.1)).Sublist (group entries) := by
  rw [group_filter]
  exact List.filter_sublist

/-- The first key has a group, and the other keys have the groups of the other entries. -/
theorem group_cons (key : κ) (a : α) (entries : List (κ × α)) :
    group ((key, a) :: entries) =
      (key, a :: (entries.filter fun entry => entry.1 = key).map (·.2)) ::
        group (entries.filter fun entry => !decide (entry.1 = key)) := by
  have hkeys : ((entries.map (·.1)).filter fun k => !k == key) =
      (entries.filter fun entry => !decide (entry.1 = key)).map (·.1) := by
    rw [List.filter_map]
    rfl
  rw [group, List.map_cons, List.eraseDups_cons, List.map_cons, hkeys, group]
  congr 1
  · simp
  · apply List.map_congr_left
    intro k hk
    obtain ⟨entry, hentry, rfl⟩ := List.mem_map.1 (List.mem_eraseDups.1 hk)
    have hne : entry.1 ≠ key := by simpa using (List.mem_filter.1 hentry).2
    simp [filter_filter_of_ne hne, Ne.symm hne]

/-- **The first member of a group stands in front of all members of the groups behind it.** -/
theorem pairwise_group {R : α → α → Prop} {entries : List (κ × α)}
    (h : entries.Pairwise fun entry entry' => R entry.2 entry'.2) :
    (group entries).Pairwise fun g g' => ∃ a ∈ g.2.head?, ∀ a' ∈ g'.2, R a a' := by
  cases entries with
  | nil => exact .nil
  | cons entry entries =>
    obtain ⟨key, a⟩ := entry
    obtain ⟨ha, hentries⟩ := List.pairwise_cons.1 h
    rw [group_cons]
    refine List.pairwise_cons.2 ⟨?_, pairwise_group (hentries.filter _)⟩
    intro g hg
    refine ⟨a, rfl, fun a' ha' => ?_⟩
    exact ha _ (List.mem_of_mem_filter ((mem_group hg).2 a' ha'))
termination_by entries.length
decreasing_by
  subst_vars
  rw [List.length_cons]
  exact Nat.lt_succ_of_le (List.length_filter_le _ _)

end Keys

/-! ## Parts -/

/-- A stricter choice leaves a part. -/
theorem filterMap_sublist {f g : α → Option β} {xs : List α}
    (h : ∀ x ∈ xs, ∀ y, g x = some y → f x = some y) :
    (xs.filterMap g).Sublist (xs.filterMap f) := by
  induction xs with
  | nil => exact .slnil
  | cons x xs ih =>
    have ih := ih fun x hx => h x (List.mem_cons_of_mem _ hx)
    cases hg : g x with
    | none =>
      rw [List.filterMap_cons_none hg]
      exact ih.trans ((List.sublist_cons_self x xs).filterMap f)
    | some y =>
      rw [List.filterMap_cons_some hg, List.filterMap_cons_some (h x List.mem_cons_self y hg)]
      exact ih.cons_cons y

theorem flatMap_sublist {f g : α → List β} {xs ys : List α} (h : xs.Sublist ys)
    (hparts : ∀ x ∈ ys, (g x).Sublist (f x)) : (xs.flatMap g).Sublist (ys.flatMap f) := by
  induction h with
  | slnil => exact .slnil
  | cons x _ ih =>
    rw [List.flatMap_cons]
    exact (ih fun y hy => hparts y (List.mem_cons_of_mem _ hy)).trans
      (List.sublist_append_right _ _)
  | cons_cons x _ ih =>
    rw [List.flatMap_cons, List.flatMap_cons]
    exact (hparts x List.mem_cons_self).append
      (ih fun y hy => hparts y (List.mem_cons_of_mem _ hy))

/-- A part of a list of counts makes up no more than the list. -/
theorem total_le_of_sublist {ms ns : List Nat} (h : ms.Sublist ns) : total ms ≤ total ns := by
  induction h with
  | slnil => exact Nat.le_refl _
  | cons n _ ih =>
    rw [total_cons]
    omega
  | cons_cons n _ ih =>
    rw [total_cons, total_cons]
    omega

/-! ## By distance and by count -/

theorem mem_of_mem_clusters {number : α → Nat} {window : Nat} {xs c : List α} {x : α}
    (hc : c ∈ clusters number window xs) (hx : x ∈ c) : x ∈ xs := by
  rw [← flatten_clusters number window xs]
  exact List.mem_flatten_of_mem hc hx

theorem exists_mem_clusters {number : α → Nat} {window : Nat} {xs : List α} {x : α}
    (hx : x ∈ xs) : ∃ c ∈ clusters number window xs, x ∈ c := by
  rw [← flatten_clusters number window xs] at hx
  exact List.mem_flatten.1 hx

section Distance

variable {number : α → Nat} {window : Nat}

theorem exists_clusters_cons (x : α) (xs : List α) :
    ∃ ys rest, clusters number window (x :: xs) = (x :: ys) :: rest := by
  rw [clusters]
  split
  · split
    · exact ⟨_, _, rfl⟩
    · exact ⟨_, _, rfl⟩
  · exact ⟨_, _, rfl⟩

/-- A member is in the cluster of the next one when that is near. -/
theorem clusters_near {x y : α} {xs first : List α} {rest : List (List α)}
    (hnear : number y - number x ≤ window)
    (h : clusters number window (y :: xs) = first :: rest) :
    clusters number window (x :: y :: xs) = (x :: first) :: rest := by
  obtain ⟨ys, rest', hsplit⟩ := exists_clusters_cons y xs
  obtain ⟨rfl, rfl⟩ := List.cons.inj (hsplit.symm.trans h)
  rw [clusters, h]
  exact if_pos hnear

/-- A member whose next one is far is a cluster. -/
theorem clusters_far {x y : α} {xs : List α} (hfar : ¬number y - number x ≤ window) :
    clusters number window (x :: y :: xs) = [x] :: clusters number window (y :: xs) := by
  obtain ⟨ys, rest, h⟩ := exists_clusters_cons y xs
  rw [clusters, h]
  exact if_neg hfar

/-- **Members that are near each other are in one cluster.** -/
theorem mem_cluster_of_near {xs c : List α} (hincrease : xs.Pairwise fun x y => number x < number y)
    (hc : c ∈ clusters number window xs) {x y : α} (hx : x ∈ c) (hy : y ∈ xs)
    (hle : number x ≤ number y) (hnear : number y ≤ number x + window) : y ∈ c := by
  induction xs generalizing c x with
  | nil => cases hy
  | cons z xs ih =>
    obtain ⟨hz, hxs⟩ := List.pairwise_cons.1 hincrease
    -- in front of a later member the first one does not stand
    have hlater : ∀ {c}, c ∈ clusters number window xs → x ∈ c → y ∈ c := by
      intro c hc hx
      have hzx := hz x (mem_of_mem_clusters hc hx)
      refine ih hxs hc hx ((List.mem_cons.1 hy).resolve_left ?_) hle hnear
      rintro rfl
      omega
    cases xs with
    | nil =>
      obtain rfl := List.mem_singleton.1 hc
      exact hy
    | cons w xs =>
      have hw := hz w List.mem_cons_self
      have hwy : y ∈ w :: xs → number w ≤ number y := by
        intro hy
        rcases List.mem_cons.1 hy with rfl | hy
        · exact Nat.le_refl _
        · exact Nat.le_of_lt ((List.pairwise_cons.1 hxs).1 y hy)
      by_cases hstep : number w - number z ≤ window
      · obtain ⟨ys, rest, hsplit⟩ := exists_clusters_cons w xs
        rw [clusters_near hstep hsplit] at hc
        rw [hsplit] at ih hlater
        rcases List.mem_cons.1 hc with rfl | hc
        · rcases List.mem_cons.1 hy with rfl | hbehind
          · exact List.mem_cons_self
          · apply List.mem_cons_of_mem
            rcases List.mem_cons.1 hx with rfl | hx
            · exact ih hxs List.mem_cons_self List.mem_cons_self hbehind (hwy hbehind) (by omega)
            · exact ih hxs List.mem_cons_self hx hbehind hle hnear
        · exact hlater (List.mem_cons_of_mem _ hc) hx
      · rw [clusters_far hstep] at hc
        rcases List.mem_cons.1 hc with rfl | hc
        · obtain rfl := List.mem_singleton.1 hx
          rcases List.mem_cons.1 hy with rfl | hy
          · exact List.mem_cons_self
          · have := hwy hy
            omega
        · exact hlater hc hx

theorem isChain_and {R S : α → α → Prop} {xs : List α} (hR : xs.IsChain R)
    (hS : xs.IsChain S) : xs.IsChain fun x y => R x y ∧ S x y := by
  induction xs with
  | nil => exact .nil
  | cons x xs ih =>
    obtain ⟨hRx, hR⟩ := List.isChain_cons.1 hR
    obtain ⟨hSx, hS⟩ := List.isChain_cons.1 hS
    exact List.isChain_cons.2 ⟨fun y hy => ⟨hRx y hy, hSx y hy⟩, ih hR hS⟩

/-- Members of a list, each of them behind the one before it and near it. -/
abbrev IsNearChain (number : α → Nat) (window : Nat) (chain : List α) : Prop :=
  chain.IsChain fun x y => number x < number y ∧ number y ≤ number x + window

theorem IsNearChain.pairwise {chain : List α} (h : IsNearChain number window chain) :
    chain.Pairwise fun x y => number x < number y := by
  have : Trans (fun x y : α => number x < number y) (fun x y => number x < number y)
      (fun x y => number x < number y) := ⟨Nat.lt_trans⟩
  exact List.IsChain.pairwise (h.imp fun _ _ h => h.1)

theorem nodup_of_increasing {xs : List α} (h : xs.Pairwise fun x y => number x < number y) :
    xs.Nodup := by
  refine h.imp ?_
  rintro x _ hlt rfl
  exact Nat.lt_irrefl _ hlt

theorem mem_cluster_of_chain {xs c : List α} (hincrease : xs.Pairwise fun x y => number x < number y)
    (hc : c ∈ clusters number window xs) {x : α} {chain : List α} (hx : x ∈ c)
    (hmem : ∀ y ∈ chain, y ∈ xs) (hchain : IsNearChain number window (x :: chain)) :
    ∀ y ∈ chain, y ∈ c := by
  induction chain generalizing x with
  | nil => exact fun _ hy => absurd hy List.not_mem_nil
  | cons y chain ih =>
    obtain ⟨⟨hlt, hnear⟩, hchain⟩ := List.isChain_cons_cons.1 hchain
    have hy : y ∈ c :=
      mem_cluster_of_near hincrease hc hx (hmem y List.mem_cons_self) (Nat.le_of_lt hlt) hnear
    intro z hz
    rcases List.mem_cons.1 hz with rfl | hz
    · exact hy
    · exact ih hy (fun w hw => hmem w (List.mem_cons_of_mem _ hw)) hchain z hz

/-- Members that increase are no more than the list that holds them has. -/
theorem length_le_of_chain {chain c : List α} (hsub : ∀ x ∈ chain, x ∈ c)
    (hchain : IsNearChain number window chain) : chain.length ≤ c.length :=
  ((nodup_of_increasing hchain.pairwise).subperm hsub).length_le

/-- **A chain of members that are near each other lies in one cluster.** -/
theorem exists_cluster_of_chain {xs : List α} (hincrease : xs.Pairwise fun x y => number x < number y)
    {chain : List α} (hne : chain ≠ []) (hmem : ∀ x ∈ chain, x ∈ xs)
    (hchain : IsNearChain number window chain) :
    ∃ c ∈ clusters number window xs, (∀ x ∈ chain, x ∈ c) ∧ chain.length ≤ c.length := by
  obtain ⟨first, rest, rfl⟩ := List.exists_cons_of_ne_nil hne
  obtain ⟨c, hc, hfirst⟩ := exists_mem_clusters (hmem first List.mem_cons_self)
  have hrest := mem_cluster_of_chain hincrease hc hfirst
    (fun x hx => hmem x (List.mem_cons_of_mem _ hx)) hchain
  have hall : ∀ x ∈ first :: rest, x ∈ c := by
    intro x hx
    rcases List.mem_cons.1 hx with rfl | hx
    · exact hfirst
    · exact hrest x hx
  exact ⟨c, hc, hall, length_le_of_chain hall hchain⟩

end Distance

theorem mem_of_mem_chunks {size : Nat} (hs : 0 < size) {xs c : List α} {x : α}
    (hc : c ∈ chunks size xs) (hx : x ∈ c) : x ∈ xs := by
  rw [← flatten_chunks hs xs]
  exact List.mem_flatten_of_mem hc hx

/-- A list that fits into one piece is one. -/
theorem chunks_of_le {size : Nat} {xs : List α} (hne : xs ≠ []) (h : xs.length ≤ size) :
    chunks size xs = [xs] := by
  have hpos := List.length_pos_iff.2 hne
  have hsize : size ≠ 0 := by omega
  rw [chunks, dif_neg (by simp [hne, hsize]), List.take_of_length_le h, List.drop_eq_nil_of_le h,
    chunks, dif_pos (.inl rfl)]

/-- A longer list begins with a whole piece. -/
theorem chunks_of_lt {size : Nat} (hsize : 0 < size) {xs : List α} (h : size < xs.length) :
    chunks size xs = xs.take size :: chunks size (xs.drop size) := by
  have hne : xs ≠ [] := List.ne_nil_of_length_pos (by omega)
  rw [chunks, dif_neg (by simp [hne, Nat.ne_of_gt hsize])]

/-- A piece has members. -/
theorem ne_nil_of_mem_chunks {size : Nat} {xs c : List α} (h : c ∈ chunks size xs) : c ≠ [] := by
  fun_induction chunks size xs with
  | case1 => cases h
  | case2 xs hcut _ _ ih =>
    obtain ⟨hne, hsize⟩ := not_or.1 hcut
    rcases List.mem_cons.1 h with rfl | h
    · exact fun hnil => (List.take_eq_nil_iff.1 hnil).elim hsize hne
    · exact ih h

theorem mem_windows_iff {size i : Nat} {xs window : List α} :
    (i, window) ∈ windows size xs ↔ i + size ≤ xs.length ∧ window = (xs.drop i).take size := by
  simp only [windows, List.mem_map, List.mem_range, Prod.mk.injEq]
  constructor
  · rintro ⟨j, hj, rfl, rfl⟩
    exact ⟨by omega, rfl⟩
  · rintro ⟨hi, rfl⟩
    exact ⟨i, by omega, rfl, rfl⟩

theorem pairwise_windows (size : Nat) (xs : List α) :
    (windows size xs).Pairwise fun x y => x.1 < y.1 :=
  List.pairwise_map.2 List.pairwise_lt_range

/-- A window has the length asked for, and lies in the list. -/
theorem mem_windows {size i : Nat} {xs window : List α} (h : (i, window) ∈ windows size xs) :
    window.length = size ∧ ∀ x ∈ window, x ∈ xs := by
  obtain ⟨hi, rfl⟩ := mem_windows_iff.1 h
  constructor
  · rw [List.length_take, List.length_drop]
    omega
  · exact fun x hx => List.mem_of_mem_drop (List.mem_of_mem_take hx)

/-! ## Thinning -/

/-- Stretches that do not overlap take up their lengths. -/
theorem length_le_of_apart {size n : Nat} {starts : List Nat}
    (hinside : ∀ i ∈ starts, i + size ≤ n) (hapart : starts.IsChain fun i j => i + size ≤ j) :
    ∀ i ∈ starts.head?, i + size * starts.length ≤ n := by
  induction starts with
  | nil => exact fun _ hi => nomatch hi
  | cons i starts ih =>
    obtain ⟨hnext, hapart⟩ := List.isChain_cons.1 hapart
    rintro _ ⟨⟩
    rw [List.length_cons, Nat.mul_succ]
    cases starts with
    | nil => simpa using hinside i List.mem_cons_self
    | cons j starts =>
      have := ih (fun k hk => hinside k (List.mem_cons_of_mem _ hk)) hapart j rfl
      have := hnext j rfl
      omega

/-- **A stretch that is left out overlaps a kept one that begins before it.** -/
theorem exists_mem_thin {size free : Nat} (hsize : 0 < size) {xs : List (Nat × α)}
    (hordered : xs.Pairwise fun x y => x.1 < y.1) {entry : Nat × α} (hentry : entry ∈ xs)
    (hfree : free ≤ entry.1) :
    ∃ kept ∈ thin size free xs, kept.1 ≤ entry.1 ∧ entry.1 < kept.1 + size := by
  induction xs generalizing free with
  | nil => cases hentry
  | cons first rest ih =>
    obtain ⟨i, x⟩ := first
    obtain ⟨hfirst, hrest⟩ := List.pairwise_cons.1 hordered
    rw [thin]
    split
    · rename_i hi
      rcases List.mem_cons.1 hentry with rfl | hentry
      · exact absurd hfree (Nat.not_le.2 hi)
      · exact ih hrest hentry hfree
    · rcases List.mem_cons.1 hentry with rfl | hentry
      · exact ⟨_, List.mem_cons_self, Nat.le_refl _, Nat.lt_add_of_pos_right hsize⟩
      · by_cases hoverlap : entry.1 < i + size
        · exact ⟨_, List.mem_cons_self, Nat.le_of_lt (hfirst entry hentry), hoverlap⟩
        · obtain ⟨kept, hkept, hcovers⟩ := ih hrest hentry (Nat.not_lt.1 hoverlap)
          exact ⟨kept, List.mem_cons_of_mem _ hkept, hcovers⟩

theorem le_of_mem_thin {size free : Nat} {xs : List (Nat × α)} {entry : Nat × α}
    (h : entry ∈ thin size free xs) : free ≤ entry.1 := by
  induction xs generalizing free with
  | nil => cases h
  | cons first rest ih =>
    obtain ⟨i, x⟩ := first
    rw [thin] at h
    split at h
    · exact ih h
    · rename_i hi
      rcases List.mem_cons.1 h with rfl | h
      · exact Nat.not_lt.1 hi
      · exact Nat.le_trans (Nat.le_trans (Nat.not_lt.1 hi) (Nat.le_add_right i size)) (ih h)

/-- **Stretches that are kept do not overlap.** -/
theorem pairwise_thin (size free : Nat) (xs : List (Nat × α)) :
    (thin size free xs).Pairwise fun x y => x.1 + size ≤ y.1 := by
  induction xs generalizing free with
  | nil => exact .nil
  | cons first rest ih =>
    obtain ⟨i, x⟩ := first
    rw [thin]
    split
    · exact ih free
    · exact List.pairwise_cons.2 ⟨fun _ h => le_of_mem_thin h, ih (i + size)⟩

/-- The first stretch is kept. -/
theorem thin_ne_nil {size : Nat} {xs : List (Nat × α)} (h : xs ≠ []) : thin size 0 xs ≠ [] := by
  cases xs with
  | nil => exact absurd rfl h
  | cons entry rest =>
    obtain ⟨i, x⟩ := entry
    rw [thin, if_neg (Nat.not_lt_zero i)]
    exact List.cons_ne_nil _ _

/-! ## Changed members -/

section Changed

variable {β : Type} (f : α → β)

/-- Groups do not look at their members. -/
theorem group_map [DecidableEq κ] (entries : List (κ × α)) :
    group (entries.map fun entry => (entry.1, f entry.2)) =
      (group entries).map fun entry => (entry.1, entry.2.map f) := by
  unfold group
  rw [List.map_map, List.map_map]
  apply List.map_congr_left
  intro key _
  simp only [Function.comp_apply, List.filter_map, List.map_map]
  rfl

/-- Clusters only look at the distances of their members. -/
theorem clusters_map {number : α → Nat} {number' : β → Nat} {moved : Nat} {xs : List α}
    (h : ∀ x ∈ xs, number' (f x) = number x + moved) (window : Nat) :
    clusters number' window (xs.map f) = (clusters number window xs).map (List.map f) := by
  induction xs with
  | nil => rfl
  | cons x xs ih =>
    have ih := ih fun y hy => h y (List.mem_cons_of_mem _ hy)
    rw [List.map_cons, clusters, clusters, ih]
    have hx := h x List.mem_cons_self
    cases hc : clusters number window xs with
    | nil => rfl
    | cons c rest =>
      cases c with
      | nil => rfl
      | cons y ys =>
        -- the neighbour is one of the members, so its number is moved as well
        have hmem : y ∈ xs := by
          rw [← flatten_clusters number window xs, hc]
          simp
        have hy := h y (List.mem_cons_of_mem _ hmem)
        have hdistance : number' (f y) - number' (f x) = number y - number x := by omega
        simp only [List.map_cons, hdistance]
        split <;> rfl

theorem chunks_map (size : Nat) (xs : List α) :
    chunks size (xs.map f) = (chunks size xs).map (List.map f) := by
  fun_induction chunks size xs with
  | case1 xs hcut =>
    rw [chunks, dif_pos (by simpa using hcut)]
    rfl
  | case2 xs hcut _ _ ih =>
    rw [chunks, dif_neg (by simpa using hcut), ← List.map_drop, ih, ← List.map_take]
    rfl

theorem windows_map (size : Nat) (xs : List α) :
    windows size (xs.map f) = (windows size xs).map fun entry => (entry.1, entry.2.map f) := by
  simp only [windows, List.map_map, List.length_map]
  apply List.map_congr_left
  intro i _
  simp [List.map_take, List.map_drop]

/-- Thinning only looks at the places of stretches. -/
theorem thin_map (size free : Nat) (xs : List (Nat × α)) :
    thin size free (xs.map fun entry => (entry.1, f entry.2)) =
      (thin size free xs).map fun entry => (entry.1, f entry.2) := by
  induction xs generalizing free with
  | nil => rfl
  | cons entry rest ih =>
    obtain ⟨i, x⟩ := entry
    simp only [List.map_cons, thin]
    split
    · exact ih free
    · rw [ih, List.map_cons]

end Changed

end Provenance

import Mathlib.Data.List.Nodup
import Provenance.Proofs.Grouping

/-!
# Proofs — Grouping — Chain

What the clusters of a list are, said without cutting it. A chain is a list of members each of which
stands behind the one before it and near it; it is maximal when no longer chain has all its members.
The clusters of a list whose numbers increase are its maximal chains (`mem_clusters_iff`), each of
them once, and no two of them have a member in common.
-/

namespace Provenance

variable {α : Type} {number : α → Nat} {window : Nat}

/-- Members that increase are known from what they are. -/
theorem eq_of_increasing {xs ys : List α} (hxs : xs.Pairwise fun x y => number x < number y)
    (hys : ys.Pairwise fun x y => number x < number y) (hsame : ∀ x, x ∈ xs ↔ x ∈ ys) :
    xs = ys := by
  have hperm : xs.Perm ys :=
    (List.perm_ext_iff_of_nodup (nodup_of_increasing hxs) (nodup_of_increasing hys)).2 hsame
  refine hperm.eq_of_pairwise ?_ hxs hys
  intro x y _ _ hlt hgt
  exact absurd hlt (Nat.lt_asymm hgt)

/-! ## Clusters are chains -/

theorem sublist_of_mem_clusters {xs c : List α} (hc : c ∈ clusters number window xs) :
    c.Sublist xs := by
  have h := List.sublist_flatten_of_mem hc
  rwa [flatten_clusters] at h

/-- In a cluster each member is near the one before it. -/
theorem isChain_of_mem_clusters {xs c : List α} (hc : c ∈ clusters number window xs) :
    c.IsChain fun x y => number y - number x ≤ window := by
  fun_induction clusters number window xs generalizing c with
  | case1 => cases hc
  | case2 x xs y ys rest hrest hnear ih =>
    rw [hrest] at ih
    rcases List.mem_cons.1 hc with rfl | hc
    · exact List.isChain_cons_cons.2 ⟨hnear, ih List.mem_cons_self⟩
    · exact ih (List.mem_cons_of_mem _ hc)
  | case3 x xs y ys rest hrest hfar ih =>
    rw [hrest] at ih
    rcases List.mem_cons.1 hc with rfl | hc
    · exact .singleton x
    · exact ih hc
  | case4 x xs hrest ih =>
    rcases List.mem_cons.1 hc with rfl | hc
    · exact .singleton x
    · exact ih hc

section Increasing

variable {xs : List α} (hincrease : xs.Pairwise fun x y => number x < number y)

include hincrease

theorem isNearChain_of_mem_clusters {c : List α} (hc : c ∈ clusters number window xs) :
    IsNearChain number window c := by
  have hlt := (hincrease.sublist (sublist_of_mem_clusters hc)).isChain
  refine (isChain_and hlt (isChain_of_mem_clusters hc)).imp ?_
  rintro x y ⟨hlt, hnear⟩
  exact ⟨hlt, Nat.sub_le_iff_le_add'.1 hnear⟩

theorem disjoint_clusters : (clusters number window xs).Pairwise List.Disjoint := by
  have hdistinct : (clusters number window xs).flatten.Nodup := by
    rw [flatten_clusters]
    exact nodup_of_increasing hincrease
  exact (List.nodup_flatten.1 hdistinct).2

/-- Two clusters that share a member are one. -/
theorem eq_of_mem_clusters {c c' : List α} (hc : c ∈ clusters number window xs)
    (hc' : c' ∈ clusters number window xs) {x : α} (hx : x ∈ c) (hx' : x ∈ c') : c = c' := by
  have : Std.Symm (@List.Disjoint α) := ⟨fun _ _ h _ hx hx' => h hx' hx⟩
  by_contra hne
  exact (disjoint_clusters hincrease).forall hc hc' hne hx hx'

/-- No cluster is listed twice. -/
theorem nodup_clusters : (clusters number window xs).Nodup := by
  refine (disjoint_clusters hincrease).imp_of_mem ?_
  rintro c _ hc _ hdisjoint rfl
  obtain ⟨x, hx⟩ := List.exists_mem_of_ne_nil c (ne_nil_of_mem_clusters hc)
  exact hdisjoint hx hx

end Increasing

/-! ## Clusters are maximal -/

/-- A chain of members with a property, all of which are in no longer one. -/
structure IsMaximalChain (number : α → Nat) (window : Nat) (p : α → Prop) (chain : List α) :
    Prop where
  ne_nil : chain ≠ []
  mem : ∀ x ∈ chain, p x
  near : IsNearChain number window chain
  whole : ∀ other, (∀ x ∈ other, p x) → IsNearChain number window other → chain ⊆ other →
    other = chain

/-- **Clusters are the maximal chains** of a list that increases. -/
theorem mem_clusters_iff {xs c : List α}
    (hincrease : xs.Pairwise fun x y => number x < number y) :
    c ∈ clusters number window xs ↔ IsMaximalChain number window (· ∈ xs) c := by
  constructor
  · intro hc
    have hnear := isNearChain_of_mem_clusters hincrease hc
    have hne := ne_nil_of_mem_clusters hc
    refine ⟨hne, fun x hx => mem_of_mem_clusters hc hx, hnear, ?_⟩
    intro other hmem hother hsub
    obtain ⟨x, hx⟩ := List.exists_mem_of_ne_nil c hne
    obtain ⟨c', hc', hcluster, _⟩ :=
      exists_cluster_of_chain hincrease (List.ne_nil_of_mem (hsub hx)) hmem hother
    -- the other chain lies in one cluster, and that is the cluster of a common member
    obtain rfl := eq_of_mem_clusters hincrease hc hc' hx (hcluster x (hsub hx))
    exact eq_of_increasing hother.pairwise hnear.pairwise fun y => ⟨hcluster y, fun hy => hsub hy⟩
  · intro h
    obtain ⟨c', hc', hcluster, _⟩ := exists_cluster_of_chain hincrease h.ne_nil h.mem h.near
    have hwhole := h.whole c' (fun x hx => mem_of_mem_clusters hc' hx)
      (isNearChain_of_mem_clusters hincrease hc') hcluster
    rwa [← hwhole]

end Provenance

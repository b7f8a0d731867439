import Provenance.Display.Project
import Mathlib.Data.List.Nodup

/-!
# Proofs — Ranking

Files and folders are listed by a share, the largest first, and among equal shares by path. With
distinct paths no two of them tie, so a ranking is the same for every order of what is ranked
(`ranking_perm`).
-/

namespace Provenance

variable {α : Type}

/-- Sorting forgets the order of its input where no two members tie. -/
theorem mergeSort_perm_eq {le : α → α → Bool} (htrans : ∀ a b c, le a b → le b c → le a c)
    (htotal : ∀ a b, le a b || le b a) {xs ys : List α} (h : xs.Perm ys)
    (hanti : ∀ a b, a ∈ xs → b ∈ xs → le a b → le b a → a = b) :
    xs.mergeSort le = ys.mergeSort le := by
  have hxs := List.mergeSort_perm xs le
  have hys := List.mergeSort_perm ys le
  refine List.Perm.eq_of_pairwise ?_ (List.pairwise_mergeSort htrans htotal xs)
    (List.pairwise_mergeSort htrans htotal ys) (hxs.trans (h.trans hys.symm))
  intro a b ha hb hab hba
  exact hanti a b (hxs.mem_iff.1 ha) (h.mem_iff.2 (hys.mem_iff.1 hb)) hab hba

/-- Behind a member of a sorted list stands what it comes before. -/
theorem exists_mergeSort_cons {le : α → α → Bool} (htrans : ∀ a b c, le a b → le b c → le a c)
    (htotal : ∀ a b, le a b || le b a) (a : α) (xs : List α) :
    ∃ front back, (a :: xs).mergeSort le = front ++ a :: back ∧ xs.mergeSort le = front ++ back ∧
      (∀ b ∈ front, le a b = false) ∧ ∀ b ∈ back, le a b = true := by
  obtain ⟨front, back, hcons, hrest, hfront⟩ := List.mergeSort_cons htrans htotal a xs
  have hsorted := List.pairwise_mergeSort htrans htotal (a :: xs)
  rw [hcons] at hsorted
  obtain ⟨_, hback, _⟩ := List.pairwise_append.1 hsorted
  exact ⟨front, back, hcons, hrest, fun b hb => by simpa using hfront b hb,
    (List.pairwise_cons.1 hback).1⟩

theorem filter_append_of_left {p : α → Bool} {front back : List α}
    (hfront : ∀ a ∈ front, p a = true) (hback : ∀ a ∈ back, ¬p a = true) :
    (front ++ back).filter p = front := by
  rw [List.filter_append, List.filter_eq_self.2 hfront, List.filter_eq_nil_iff.2 hback,
    List.append_nil]

theorem filter_append_of_right {p : α → Bool} {front back : List α}
    (hfront : ∀ a ∈ front, ¬p a = true) (hback : ∀ a ∈ back, p a = true) :
    (front ++ back).filter p = back := by
  rw [List.filter_append, List.filter_eq_nil_iff.2 hfront, List.filter_eq_self.2 hback,
    List.nil_append]

/-- **A part of a list is sorted as a part of the sorted list.** -/
theorem mergeSort_sublist {le : α → α → Bool} (htrans : ∀ a b c, le a b → le b c → le a c)
    (htotal : ∀ a b, le a b || le b a) {xs ys : List α} (h : xs.Sublist ys) :
    (xs.mergeSort le).Sublist (ys.mergeSort le) := by
  induction h with
  | slnil => exact List.Sublist.refl _
  | @cons xs ys a _ ih =>
    obtain ⟨front, back, hcons, hrest, _⟩ := exists_mergeSort_cons htrans htotal a ys
    rw [hcons]
    rw [hrest] at ih
    exact ih.trans ((List.sublist_cons_self a back).append_left front)
  | @cons_cons xs ys a _ ih =>
    obtain ⟨front, back, hcons, hrest, hfront, hback⟩ := exists_mergeSort_cons htrans htotal a ys
    obtain ⟨front', back', hcons', hrest', hfront', hback'⟩ :=
      exists_mergeSort_cons htrans htotal a xs
    rw [hcons, hcons']
    rw [hrest, hrest'] at ih
    -- the common member comes before exactly what stands behind it, in both lists
    have hfronts := ih.filter fun b => !le a b
    have hbacks := ih.filter (le a)
    rw [filter_append_of_left (by simpa using hfront') (by simpa using hback'),
      filter_append_of_left (by simpa using hfront) (by simpa using hback)] at hfronts
    rw [filter_append_of_right (by simpa using hfront') hback',
      filter_append_of_right (by simpa using hfront) hback] at hbacks
    exact hfronts.append (hbacks.cons_cons a)

/-- **Sorting and choosing commute.** -/
theorem filter_mergeSort {le : α → α → Bool} (htrans : ∀ a b c, le a b → le b c → le a c)
    (htotal : ∀ a b, le a b || le b a) (p : α → Bool) (xs : List α) :
    (xs.mergeSort le).filter p = (xs.filter p).mergeSort le := by
  have hpart := mergeSort_sublist htrans htotal (List.filter_sublist (p := p) (l := xs))
  have hchosen : ((xs.filter p).mergeSort le).filter p = (xs.filter p).mergeSort le := by
    rw [List.filter_eq_self]
    intro a ha
    exact (List.mem_filter.1 (List.mem_mergeSort.1 ha)).2
  symm
  apply List.Sublist.eq_of_length
  · rw [← hchosen]
    exact hpart.filter p
  · rw [List.length_mergeSort]
    exact ((List.mergeSort_perm xs le).filter p).length_eq.symm

/-! ## Shares and paths -/

/-- Whether one member is listed before another: the larger share, then by path. -/
def ranksBefore (share : α → Int) (path : α → String) (a b : α) : Bool :=
  decide (share b < share a) || (share a == share b && decide (path a ≤ path b))

variable {share : α → Int} {path : α → String}

theorem ranksBefore_iff {a b : α} :
    ranksBefore share path a b ↔ share b < share a ∨ share a = share b ∧ path a ≤ path b := by
  simp [ranksBefore]

theorem ranksBefore_trans (a b c : α) (hab : ranksBefore share path a b)
    (hbc : ranksBefore share path b c) : ranksBefore share path a c := by
  rw [ranksBefore_iff] at *
  rcases hab with hab | ⟨hab, hpab⟩
  · left
    rcases hbc with hbc | ⟨hbc, _⟩ <;> omega
  · rcases hbc with hbc | ⟨hbc, hpbc⟩
    · left
      omega
    · exact .inr ⟨hab.trans hbc, String.le_trans hpab hpbc⟩

theorem ranksBefore_total (a b : α) :
    ranksBefore share path a b || ranksBefore share path b a := by
  rw [Bool.or_eq_true, ranksBefore_iff, ranksBefore_iff]
  rcases Int.lt_trichotomy (share a) (share b) with h | h | h
  · exact .inr (.inl h)
  · rcases String.le_total (path a) (path b) with hp | hp
    · exact .inl (.inr ⟨h, hp⟩)
    · exact .inr (.inr ⟨h.symm, hp⟩)
  · exact .inl (.inl h)

/-- Only what has one path can tie. -/
theorem path_eq_of_ranksBefore {a b : α} (hab : ranksBefore share path a b)
    (hba : ranksBefore share path b a) : path a = path b := by
  rw [ranksBefore_iff] at hab hba
  rcases hab with hab | ⟨_, hab⟩
  · rcases hba with hba | ⟨hba, _⟩ <;> omega
  · rcases hba with hba | ⟨_, hba⟩
    · omega
    · exact String.le_antisymm hab hba

/-- **A ranking of distinct paths does not depend on the order of what is ranked.** -/
theorem ranking_perm {xs ys : List α} (h : xs.Perm ys) (hpaths : (xs.map path).Nodup) :
    xs.mergeSort (ranksBefore share path) = ys.mergeSort (ranksBefore share path) := by
  refine mergeSort_perm_eq ranksBefore_trans ranksBefore_total h fun a b ha hb hab hba => ?_
  exact List.inj_on_of_nodup_map hpaths ha hb (path_eq_of_ranksBefore hab hba)

theorem comesBefore_eq :
    FolderSummary.comesBefore = ranksBefore (fun s => s.generatedPercentage) (fun s => s.path) :=
  rfl

theorem Display.ranked_eq (share : FileAnalysis → Int) (files : List FileAnalysis) :
    Display.ranked share files = files.mergeSort (ranksBefore share fun f => f.path) :=
  rfl

end Provenance

import Mathlib.Data.List.TakeWhile
import Provenance.Proofs.Text.Search
import Provenance.Text.Blank

/-!
# Proofs — Text — Blank

Blanks around a text. A stripped text is what stands between the blanks at both ends
(`exists_strip`), and a word, which has no blank in it, is found among blanks where it is found
without them (`find?_blank_front`, `find?_blank_back`).
-/

namespace Provenance.Text

/-- A text of blanks only. -/
def AreBlanks (cs : List Char) : Prop := ∀ c ∈ cs, isBlank c = true

/-- A text that has characters, and no blank among them. -/
structure IsWord (cs : List Char) : Prop where
  ne_nil : cs ≠ []
  solid : ∀ c ∈ cs, isBlank c = false

theorem IsWord.space_not_mem {sought : List Char} (h : IsWord sought) : ' ' ∉ sought :=
  fun hm => absurd (h.solid ' ' hm) (by decide)

/-! ## Stripping -/

theorem areBlanks_takeWhile (cs : List Char) : AreBlanks (cs.takeWhile isBlank) :=
  fun _ hc => List.mem_takeWhile_imp hc

theorem exists_trimLeft (cs : List Char) :
    ∃ back, trimLeft isBlank cs = strip cs ++ back ∧ AreBlanks back := by
  refine ⟨((trimLeft isBlank cs).reverse.takeWhile isBlank).reverse, ?_, fun c hc =>
    areBlanks_takeWhile _ c (List.mem_reverse.1 hc)⟩
  have hback := List.takeWhile_append_dropWhile (p := isBlank) (l := (trimLeft isBlank cs).reverse)
  have hright := congrArg List.reverse hback
  rw [List.reverse_append, List.reverse_reverse] at hright
  exact hright.symm

/-- **A text stands between the blanks that are stripped off.** -/
theorem exists_strip (cs : List Char) :
    ∃ front back, cs = front ++ strip cs ++ back ∧ AreBlanks front ∧ AreBlanks back := by
  obtain ⟨back, hleft, hback⟩ := exists_trimLeft cs
  refine ⟨cs.takeWhile isBlank, back, ?_, areBlanks_takeWhile cs, hback⟩
  rw [List.append_assoc, ← hleft]
  exact List.takeWhile_append_dropWhile.symm

theorem strip_eq_nil_iff {cs : List Char} : strip cs = [] ↔ AreBlanks cs := by
  constructor
  · intro hnil
    obtain ⟨front, back, hcs, hfront, hback⟩ := exists_strip cs
    rw [hnil, List.append_nil] at hcs
    intro c hc
    rw [hcs] at hc
    exact (List.mem_append.1 hc).elim (hfront c) (hback c)
  · intro hblank
    have hleft : trimLeft isBlank cs = [] := List.dropWhile_eq_nil_iff.2 hblank
    rw [strip, trim, hleft]
    rfl

theorem strip_append_ne_nil {front : List Char} (h : strip front ≠ []) (rest : List Char) :
    strip (front ++ rest) ≠ [] := by
  rw [ne_eq, strip_eq_nil_iff] at h ⊢
  exact fun hall => h fun c hc => hall c (List.mem_append_left _ hc)

/-- Where the first part of a text is not blank, the stripped text starts in it. -/
theorem beginsBefore_of_prefix_strip {sought front rest : List Char} (hfront : strip front ≠ [])
    (h : sought <+: strip (front ++ rest)) :
    BeginsBefore sought (front ++ rest) front.length := by
  obtain ⟨left, right, hcs, hleft, _⟩ := exists_strip (front ++ rest)
  refine ⟨left.length, ?_, ?_⟩
  · by_contra hle
    have hstart : front <+: left :=
      List.prefix_of_prefix_length_le (List.prefix_append _ _)
        ⟨strip (front ++ rest) ++ right, by rw [← List.append_assoc]; exact hcs.symm⟩ (by omega)
    exact hfront (strip_eq_nil_iff.2 fun c hc => hleft c (hstart.subset hc))
  · rw [hcs, List.append_assoc, List.drop_left]
    exact h.trans (List.prefix_append _ _)

/-! ## Words among blanks -/

namespace IsWord

variable {sought cs blanks : List Char}

/-- A word does not reach into the blanks behind a text. -/
theorem prefix_of_append (h : IsWord sought) (hb : AreBlanks blanks) (hp : sought <+: cs ++ blanks) :
    sought <+: cs := by
  rcases List.prefix_or_prefix_of_prefix hp (List.prefix_append cs blanks) with h' | ⟨t, rfl⟩
  · exact h'
  · have ht : t <+: blanks := by rwa [List.prefix_append_right_inj] at hp
    cases t with
    | nil => simp
    | cons c t =>
      have hc := hb c (ht.subset List.mem_cons_self)
      exact absurd hc (by simp [h.solid c (by simp)])

theorem prefix_drop_append (h : IsWord sought) (hb : AreBlanks blanks) (i : Nat) :
    sought <+: (cs ++ blanks).drop i ↔ sought <+: cs.drop i := by
  rw [List.drop_append]
  have hdrop : AreBlanks (blanks.drop (i - cs.length)) := fun c hc => hb c (List.mem_of_mem_drop hc)
  exact ⟨h.prefix_of_append hdrop, fun hp => hp.trans (List.prefix_append _ _)⟩

/-- Blanks are not stripped off behind a word. -/
theorem trimLeft_append (h : IsWord sought) (front rest : List Char) :
    trimLeft isBlank (front ++ (sought ++ rest)) = trimLeft isBlank front ++ (sought ++ rest) := by
  have hword : (sought ++ rest).dropWhile isBlank = sought ++ rest := by
    obtain ⟨c, sought, rfl⟩ := List.exists_cons_of_ne_nil h.ne_nil
    exact List.dropWhile_cons_of_neg (by simp [h.solid c List.mem_cons_self])
  unfold trimLeft
  rw [List.dropWhile_append, hword]
  split
  · rename_i hempty
    rw [List.isEmpty_iff.1 hempty, List.nil_append]
  · rfl

theorem strip_ne_nil (h : IsWord sought) (front rest : List Char) :
    strip (front ++ (sought ++ rest)) ≠ [] := by
  intro hnil
  obtain ⟨c, sought, rfl⟩ := List.exists_cons_of_ne_nil h.ne_nil
  have hblank : isBlank c = true := strip_eq_nil_iff.1 hnil c (by simp)
  rw [h.solid c List.mem_cons_self] at hblank
  cases hblank

theorem prefix_strip_iff (h : IsWord sought) : sought <+: strip cs ↔ sought <+: trimLeft isBlank cs := by
  obtain ⟨back, hleft, hback⟩ := exists_trimLeft cs
  rw [hleft]
  exact ⟨fun hp => hp.trans (List.prefix_append _ _), h.prefix_of_append hback⟩

/-- A text begins with the word that its first part begins with. -/
theorem prefix_strip_append (h : IsWord sought) (hp : sought <+: strip cs) (rest : List Char) :
    sought <+: strip (cs ++ rest) := by
  rw [h.prefix_strip_iff] at hp ⊢
  unfold trimLeft at hp ⊢
  rw [List.dropWhile_append]
  split
  · rename_i hempty
    rw [List.isEmpty_iff.1 hempty] at hp
    exact absurd (List.prefix_nil.1 hp) h.ne_nil
  · exact hp.trans (List.prefix_append _ _)

/-- A word begins in no blank. -/
theorem not_beginsBefore_blanks (h : IsWord sought) (hb : AreBlanks blanks) (cs : List Char) :
    ¬ BeginsBefore sought (blanks ++ cs) blanks.length := by
  rintro ⟨i, hi, hp⟩
  obtain ⟨c, rest, rfl⟩ := List.exists_cons_of_ne_nil h.ne_nil
  rw [List.drop_append_of_le_length hi.le, List.drop_eq_getElem_cons hi, List.cons_append,
    List.cons_prefix_cons] at hp
  have hc := hb blanks[i] (List.getElem_mem hi)
  rw [← hp.1, h.solid c List.mem_cons_self] at hc
  exact absurd hc (by simp)

theorem find?_blank_front (h : IsWord sought) (hb : AreBlanks blanks) (cs : List Char) :
    find? sought (blanks ++ cs) = (find? sought cs).map (blanks.length + ·) :=
  find?_append (h.not_beginsBefore_blanks hb cs)

theorem find?_blank_back (h : IsWord sought) (hb : AreBlanks blanks) (cs : List Char) :
    find? sought (cs ++ blanks) = find? sought cs := by
  apply Option.ext
  intro i
  rw [find?_eq_some_iff, find?_eq_some_iff, h.prefix_drop_append hb]
  simp only [BeginsBefore, h.prefix_drop_append hb]

/-- What is cut off a text is cut off with the blanks behind it. -/
theorem before_blank_back (h : IsWord sought) (hb : AreBlanks blanks) (cs : List Char) :
    ∃ left, AreBlanks left ∧ before sought (cs ++ blanks) = before sought cs ++ left := by
  unfold before
  rw [h.find?_blank_back hb]
  cases hfound : find? sought cs with
  | none => exact ⟨blanks, hb, rfl⟩
  | some i =>
    refine ⟨[], fun _ hc => absurd hc List.not_mem_nil, ?_⟩
    obtain ⟨front, back, rfl, rfl⟩ := eq_append_of_find? hfound
    simp only [List.append_assoc, List.append_nil, List.take_left]

end IsWord

/-- Cuts leave the blanks in front of a text, and some of those behind it. -/
theorem exists_foldl_before_blanks {marks : List (List Char)} (h : ∀ mark ∈ marks, IsWord mark)
    {front back : List Char} (hfront : AreBlanks front) (hback : AreBlanks back)
    (cs : List Char) :
    ∃ left, AreBlanks left ∧ marks.foldl (fun cs mark => before mark cs) (front ++ cs ++ back) =
      front ++ marks.foldl (fun cs mark => before mark cs) cs ++ left := by
  induction marks generalizing cs back with
  | nil => exact ⟨back, hback, rfl⟩
  | cons mark marks ih =>
    have hmark := h mark List.mem_cons_self
    obtain ⟨left, hleft, hcut⟩ := hmark.before_blank_back hback (front ++ cs)
    rw [List.foldl_cons, List.foldl_cons, hcut,
      before_append (hmark.not_beginsBefore_blanks hfront cs)]
    exact ih (fun mark hm => h mark (List.mem_cons_of_mem _ hm)) hleft (before mark cs)

end Provenance.Text

import Mathlib.Data.List.Infix
import Provenance.Text.Search

/-!
# Proofs — Text — Search

Where a text begins in another, what is found there, and what is left when a text is cut at the
first place where one of several texts begins (`foldl_before_eq`). A text that shows another, with
some of its characters blanked and perhaps not all of it (`Shows`), has no words that the other does
not have in the same places.
-/

namespace Provenance.Text

/-! ## Where a text begins -/

/-- A text begins in the first `n` columns of another. -/
def BeginsBefore (sought cs : List Char) (n : Nat) : Prop := ∃ i < n, sought <+: cs.drop i

instance (sought cs : List Char) (n : Nat) : Decidable (BeginsBefore sought cs n) :=
  inferInstanceAs (Decidable (∃ i < n, sought <+: cs.drop i))

theorem not_beginsBefore_zero (sought cs : List Char) : ¬ BeginsBefore sought cs 0 := by
  rintro ⟨i, hi, _⟩
  exact absurd hi (Nat.not_lt_zero i)

theorem beginsBefore_cons {sought cs : List Char} {c : Char} {n : Nat} :
    BeginsBefore sought (c :: cs) (n + 1) ↔ sought <+: c :: cs ∨ BeginsBefore sought cs n := by
  constructor
  · rintro ⟨i, hi, h⟩
    cases i with
    | zero => exact .inl h
    | succ i => exact .inr ⟨i, Nat.lt_of_succ_lt_succ hi, h⟩
  · rintro (h | ⟨i, hi, h⟩)
    · exact ⟨0, Nat.succ_pos n, h⟩
    · exact ⟨i + 1, Nat.succ_lt_succ hi, h⟩

theorem BeginsBefore.mono {sought cs : List Char} {n m : Nat} (h : BeginsBefore sought cs n)
    (hle : n ≤ m) : BeginsBefore sought cs m := by
  obtain ⟨i, hi, hp⟩ := h
  exact ⟨i, Nat.lt_of_lt_of_le hi hle, hp⟩

/-- What begins in the second part of a text begins as far behind the first. -/
theorem BeginsBefore.behind {sought cs : List Char} {n : Nat} (h : BeginsBefore sought cs n)
    (front : List Char) : BeginsBefore sought (front ++ cs) (front.length + n) := by
  obtain ⟨i, hi, hp⟩ := h
  exact ⟨front.length + i, Nat.add_lt_add_left hi _, by rwa [List.drop_length_add_append]⟩

/-- What begins behind the first part of a text begins in the second. -/
theorem BeginsBefore.of_append {sought front cs : List Char} {n : Nat}
    (h : BeginsBefore sought (front ++ cs) (front.length + n)) :
    BeginsBefore sought (front ++ cs) front.length ∨ BeginsBefore sought cs n := by
  obtain ⟨i, hi, hp⟩ := h
  by_cases hlt : i < front.length
  · exact .inl ⟨i, hlt, hp⟩
  · obtain ⟨j, rfl⟩ := Nat.exists_eq_add_of_le (Nat.le_of_not_lt hlt)
    rw [List.drop_length_add_append] at hp
    exact .inr ⟨j, Nat.lt_of_add_lt_add_left hi, hp⟩

/-- A text that occurs in the first part of another begins in it. -/
theorem BeginsBefore.of_isInfix {sought front : List Char} (h : sought <:+: front)
    (hne : sought ≠ []) (rest : List Char) :
    BeginsBefore sought (front ++ rest) front.length := by
  obtain ⟨s, t, rfl⟩ := h
  refine ⟨s.length, ?_, ?_⟩
  · have := List.length_pos_iff.2 hne
    simp only [List.length_append]
    omega
  · rw [List.append_assoc, List.append_assoc, List.drop_left]
    exact List.prefix_append _ _

/-! ## Finding -/

/-- **What is found begins where it is found, and nowhere before.** -/
theorem find?_eq_some_iff {sought cs : List Char} {i : Nat} :
    find? sought cs = some i ↔ sought <+: cs.drop i ∧ ¬ BeginsBefore sought cs i := by
  induction cs generalizing i with
  | nil =>
    cases sought with
    | nil =>
      constructor
      · intro h
        obtain rfl : 0 = i := Option.some.inj h
        exact ⟨List.nil_prefix, not_beginsBefore_zero _ _⟩
      · rintro ⟨_, hno⟩
        cases i with
        | zero => rfl
        | succ i => exact absurd ⟨0, Nat.succ_pos i, List.nil_prefix⟩ hno
    | cons s sought => simp [find?]
  | cons c cs ih =>
    by_cases hp : sought <+: c :: cs
    · rw [find?, if_pos (List.isPrefixOf_iff_prefix.2 hp)]
      cases i with
      | zero => simp [hp, not_beginsBefore_zero]
      | succ i => simp [beginsBefore_cons, hp]
    · rw [find?, if_neg fun h => hp (List.isPrefixOf_iff_prefix.1 h)]
      cases i with
      | zero => simp [hp]
      | succ i => simp [beginsBefore_cons, hp, ih]

/-- What is found ends within the text. -/
theorem add_length_le_of_find? {sought cs : List Char} {i : Nat} (h : find? sought cs = some i) :
    i + sought.length ≤ cs.length := by
  obtain ⟨front, back, rfl, rfl⟩ := eq_append_of_find? h
  simp only [List.length_append]
  omega

/-- Nothing is found where it does not occur. -/
theorem find?_eq_none_iff {sought cs : List Char} : find? sought cs = none ↔ ¬ sought <:+: cs := by
  induction cs with
  | nil => cases sought <;> simp [find?]
  | cons c cs ih =>
    rw [List.infix_cons_iff, not_or, ← ih]
    by_cases hp : sought <+: c :: cs
    · rw [find?, if_pos (List.isPrefixOf_iff_prefix.2 hp)]
      simp [hp]
    · rw [find?, if_neg fun h => hp (List.isPrefixOf_iff_prefix.1 h)]
      simp [hp]

/-- What does not begin in the first part of a text is sought in the second. -/
theorem find?_append {sought front rest : List Char}
    (h : ¬ BeginsBefore sought (front ++ rest) front.length) :
    find? sought (front ++ rest) = (find? sought rest).map (front.length + ·) := by
  induction front with
  | nil => simp
  | cons c front ih =>
    rw [List.cons_append, List.length_cons, beginsBefore_cons, not_or] at h
    rw [List.cons_append, find?, if_neg fun hp => h.1 (List.isPrefixOf_iff_prefix.1 hp), ih h.2,
      Option.map_map]
    congr 1
    funext n
    simp only [Function.comp, List.length_cons]
    omega

/-! ## Cutting -/

theorem before_isPrefix (sought cs : List Char) : before sought cs <+: cs := by
  unfold before
  split
  · exact List.take_prefix _ _
  · exact List.prefix_refl _

theorem before_eq_nil {sought cs : List Char} (h : sought <+: cs) : before sought cs = [] := by
  have hfound : find? sought cs = some 0 :=
    find?_eq_some_iff.2 ⟨h, not_beginsBefore_zero _ _⟩
  rw [before, hfound]
  rfl

theorem before_nil (sought : List Char) : before sought [] = [] :=
  List.prefix_nil.1 (before_isPrefix sought [])

/-- A cut behind the first part of a text keeps the first part. -/
theorem before_append {sought front rest : List Char}
    (h : ¬ BeginsBefore sought (front ++ rest) front.length) :
    before sought (front ++ rest) = front ++ before sought rest := by
  rw [before, find?_append h, before]
  cases find? sought rest with
  | none => rfl
  | some i => exact List.take_length_add_append i

section Cut

variable {marks : List (List Char)}

theorem foldl_before_nil (marks : List (List Char)) :
    marks.foldl (fun cs mark => before mark cs) [] = [] := by
  induction marks with
  | nil => rfl
  | cons mark marks ih => rw [List.foldl_cons, before_nil, ih]

theorem foldl_before_isPrefix (marks : List (List Char)) (cs : List Char) :
    marks.foldl (fun cs mark => before mark cs) cs <+: cs := by
  induction marks generalizing cs with
  | nil => exact List.prefix_refl cs
  | cons mark marks ih => exact (ih _).trans (before_isPrefix mark cs)

/-- Cuts behind the first part of a text keep the first part. -/
theorem foldl_before_append {front rest : List Char}
    (h : ∀ mark ∈ marks, ¬ BeginsBefore mark (front ++ rest) front.length) :
    marks.foldl (fun cs mark => before mark cs) (front ++ rest) =
      front ++ marks.foldl (fun cs mark => before mark cs) rest := by
  induction marks generalizing rest with
  | nil => rfl
  | cons mark marks ih =>
    rw [List.foldl_cons, List.foldl_cons, before_append (h mark List.mem_cons_self)]
    apply ih
    -- what is left of the rest has no further marks
    rintro other hother ⟨i, hi, hp⟩
    refine h other (List.mem_cons_of_mem _ hother) ⟨i, hi, ?_⟩
    rw [List.drop_append_of_le_length hi.le] at hp ⊢
    exact hp.trans ((List.prefix_append_right_inj _).2 (before_isPrefix mark rest))

/-- A text falls into the part before the first of some marks, and the rest. -/
structure IsCut (marks : List (List Char)) (front rest : List Char) : Prop where
  clear : ∀ mark ∈ marks, ¬ BeginsBefore mark (front ++ rest) front.length
  ended : rest = [] ∨ ∃ mark ∈ marks, mark <+: rest

theorem exists_isCut (marks : List (List Char)) (cs : List Char) :
    ∃ front rest, cs = front ++ rest ∧ IsCut marks front rest := by
  induction cs with
  | nil => exact ⟨[], [], rfl, fun mark _ => not_beginsBefore_zero mark _, .inl rfl⟩
  | cons c cs ih =>
    by_cases hmark : ∃ mark ∈ marks, mark <+: c :: cs
    · exact ⟨[], c :: cs, rfl, fun mark _ => not_beginsBefore_zero mark _, .inr hmark⟩
    · obtain ⟨front, rest, rfl, hcut⟩ := ih
      refine ⟨c :: front, rest, rfl, ?_, hcut.ended⟩
      intro mark hm
      rw [List.cons_append, List.length_cons, beginsBefore_cons, not_or]
      exact ⟨fun hp => hmark ⟨mark, hm, hp⟩, hcut.clear mark hm⟩

/-- Marks of which none begins within another. -/
def AreApart (marks : List (List Char)) : Prop :=
  ∀ mark ∈ marks, ∀ other ∈ marks, mark ≠ other → ∀ c ∈ mark, other.head? ≠ some c

/-- No other mark begins within a mark. -/
theorem AreApart.not_beginsBefore (h : AreApart marks) {mark other : List Char}
    (hmark : mark ∈ marks) (hother : other ∈ marks) (hdiff : mark ≠ other) (hne : other ≠ [])
    (more : List Char) : ¬ BeginsBefore other (mark ++ more) mark.length := by
  rintro ⟨i, hi, hp⟩
  obtain ⟨d, other, rfl⟩ := List.exists_cons_of_ne_nil hne
  rw [List.drop_append_of_le_length hi.le, List.drop_eq_getElem_cons hi, List.cons_append,
    List.cons_prefix_cons] at hp
  exact h mark hmark _ hother hdiff mark[i] (List.getElem_mem hi) (congrArg some hp.1)

/-- **Cuts at several marks, one after another, are one cut at the first mark of all.** -/
theorem foldl_before_eq (h : AreApart marks) {front rest : List Char}
    (hcut : IsCut marks front rest) :
    marks.foldl (fun cs mark => before mark cs) (front ++ rest) = front := by
  rw [foldl_before_append hcut.clear]
  rcases hcut.ended with rfl | ⟨mark, hmark, hp⟩
  · rw [foldl_before_nil, List.append_nil]
  -- the mark at the start of the rest stays there until it is cut at
  have hgone : ∀ left : List (List Char), left ⊆ marks → mark ∈ left → ∀ rest, mark <+: rest →
      left.foldl (fun cs mark => before mark cs) rest = [] := by
    intro left
    induction left with
    | nil => exact fun _ hmem => absurd hmem List.not_mem_nil
    | cons other left ih =>
      intro hsub hmem rest hp
      rw [List.foldl_cons]
      by_cases hother : other <+: rest
      · rw [before_eq_nil hother, foldl_before_nil]
      · have hdiff : mark ≠ other := fun heq => hother (heq ▸ hp)
        have hne : other ≠ [] := fun hnil => hother (hnil ▸ List.nil_prefix)
        obtain ⟨more, rfl⟩ := hp
        rw [before_append (h.not_beginsBefore hmark (hsub List.mem_cons_self) hdiff hne more)]
        exact ih (fun _ hm => hsub (List.mem_cons_of_mem _ hm))
          ((List.mem_cons.1 hmem).resolve_left hdiff) _ (List.prefix_append _ _)
  rw [hgone marks (List.Subset.refl _) hmark rest hp, List.append_nil]

/-- A mark that begins before another one ends does not go on behind it. -/
theorem AreApart.prefix_of_prefix_append (h : AreApart marks) {mark other front more : List Char}
    (hmark : mark ∈ marks) (hother : other ∈ marks) (hne : mark ≠ [])
    (hp : other <+: front ++ mark ++ more) : other <+: front ++ mark := by
  rcases List.prefix_or_prefix_of_prefix hp (List.prefix_append (front ++ mark) more) with h' | h'
  · exact h'
  -- the first mark would lie within the other
  by_cases hdiff : other = mark
  · subst hdiff
    have hlen := h'.length_le
    rw [List.length_append] at hlen
    obtain rfl : front = [] := List.length_eq_zero_iff.1 (by omega)
    exact List.prefix_refl _
  · obtain ⟨c, mark, rfl⟩ := List.exists_cons_of_ne_nil hne
    refine absurd rfl (h other hother _ hmark hdiff c (h'.subset ?_))
    simp

/-- **What stands behind the first mark does not change where a text is cut.** -/
theorem foldl_before_congr (h : AreApart marks) {mark : List Char} (hmark : mark ∈ marks)
    (hne : mark ≠ []) (front more more' : List Char) :
    marks.foldl (fun cs mark => before mark cs) (front ++ mark ++ more) =
      marks.foldl (fun cs mark => before mark cs) (front ++ mark ++ more') := by
  obtain ⟨kept, rest, hsplit, hcut⟩ := exists_isCut marks (front ++ mark ++ more)
  -- the cut is not behind the mark
  have hle : kept.length ≤ front.length := by
    by_contra hlt
    refine hcut.clear mark hmark ⟨front.length, by omega, ?_⟩
    rw [← hsplit, List.append_assoc, List.drop_left]
    exact List.prefix_append _ _
  obtain ⟨left, rfl⟩ : kept <+: front :=
    List.prefix_of_prefix_length_le ⟨rest, hsplit.symm⟩
      (by rw [List.append_assoc]; exact List.prefix_append _ _) hle
  have hrest : rest = left ++ mark ++ more := by
    simpa only [List.append_assoc, List.append_cancel_left_eq] using hsplit.symm
  subst hrest
  have hcut' : IsCut marks kept (left ++ mark ++ more') := by
    constructor
    · rintro other hother ⟨i, hi, hp⟩
      refine hcut.clear other hother ⟨i, hi, ?_⟩
      rw [List.drop_append_of_le_length hi.le, List.append_assoc left, ← List.append_assoc,
        ← List.append_assoc] at hp ⊢
      exact (h.prefix_of_prefix_append hmark hother hne hp).trans (List.prefix_append _ _)
    · obtain ⟨other, hother, hp⟩ := hcut.ended.resolve_left (by simp [hne])
      exact .inr ⟨other, hother,
        (h.prefix_of_prefix_append hmark hother hne hp).trans (List.prefix_append _ _)⟩
  have hsame : ∀ more, kept ++ left ++ mark ++ more = kept ++ (left ++ mark ++ more) := by
    intro more
    simp only [List.append_assoc]
  rw [hsame, hsame, foldl_before_eq h hcut, foldl_before_eq h hcut']

end Cut

/-! ## Views -/

/-- A view of a text: each of its characters is that of the text in the same place, or a space, and
it may end before the text does. -/
inductive Shows : List Char → List Char → Prop
  | nil {cs : List Char} : Shows [] cs
  | same {c : Char} {view cs : List Char} (h : Shows view cs) : Shows (c :: view) (c :: cs)
  | blank {c : Char} {view cs : List Char} (h : Shows view cs) : Shows (' ' :: view) (c :: cs)

namespace Shows

variable {view cs sought : List Char}

theorem blanks {view rest : List Char} (h : Shows view rest) (cs : List Char) :
    Shows (List.replicate cs.length ' ' ++ view) (cs ++ rest) := by
  induction cs with
  | nil => exact h
  | cons c cs ih => exact .blank ih

theorem of_isPrefix {view' : List Char} (hp : view' <+: view) (h : Shows view cs) :
    Shows view' cs := by
  induction h generalizing view' with
  | nil =>
    obtain rfl := List.prefix_nil.1 hp
    exact .nil
  | same h ih =>
    rcases List.prefix_cons_iff.1 hp with rfl | ⟨t, rfl, ht⟩
    · exact .nil
    · exact .same (ih ht)
  | blank h ih =>
    rcases List.prefix_cons_iff.1 hp with rfl | ⟨t, rfl, ht⟩
    · exact .nil
    · exact .blank (ih ht)

theorem trans {mid : List Char} (h : Shows view mid) (h' : Shows mid cs) : Shows view cs := by
  induction h generalizing cs with
  | nil => exact .nil
  | same h ih =>
    cases h' with
    | same h' => exact .same (ih h')
    | blank h' => exact .blank (ih h')
  | blank h ih =>
    cases h' with
    | same h' => exact .blank (ih h')
    | blank h' => exact .blank (ih h')

theorem drop (h : Shows view cs) (n : Nat) : Shows (view.drop n) (cs.drop n) := by
  induction h generalizing n with
  | nil =>
    rw [List.drop_nil]
    exact .nil
  | same h ih =>
    cases n with
    | zero => exact .same h
    | succ n => exact ih n
  | blank h ih =>
    cases n with
    | zero => exact .blank h
    | succ n => exact ih n

/-- A word at the start of a view is one at the start of the text. -/
theorem isPrefix (h : Shows view cs) (hsolid : ' ' ∉ sought) (hp : sought <+: view) :
    sought <+: cs := by
  induction h generalizing sought with
  | nil =>
    obtain rfl := List.prefix_nil.1 hp
    exact List.nil_prefix
  | same h ih =>
    rcases List.prefix_cons_iff.1 hp with rfl | ⟨t, rfl, ht⟩
    · exact List.nil_prefix
    · exact List.cons_prefix_cons.2 ⟨rfl, ih (fun hm => hsolid (List.mem_cons_of_mem _ hm)) ht⟩
  | blank h ih =>
    rcases List.prefix_cons_iff.1 hp with rfl | ⟨t, rfl, ht⟩
    · exact List.nil_prefix
    · exact absurd List.mem_cons_self hsolid

/-- A word begins in a text where it begins in a view. -/
theorem beginsBefore (h : Shows view cs) (hsolid : ' ' ∉ sought) {n : Nat}
    (hb : BeginsBefore sought view n) : BeginsBefore sought cs n := by
  obtain ⟨i, hi, hp⟩ := hb
  exact ⟨i, hi, (h.drop i).isPrefix hsolid hp⟩

theorem isInfix (h : Shows view cs) (hsolid : ' ' ∉ sought) (hi : sought <:+: view) :
    sought <:+: cs := by
  obtain ⟨s, t, rfl⟩ := hi
  have hp := (h.drop s.length).isPrefix hsolid (by
    rw [List.append_assoc, List.drop_left]
    exact List.prefix_append _ _)
  exact hp.isInfix.trans (List.drop_suffix _ _).isInfix

end Shows

end Provenance.Text

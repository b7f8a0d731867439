import Provenance.Detect.Comment
import Provenance.Proofs.Detect.Evidence
import Provenance.Proofs.Grouping
import Provenance.Proofs.Number.Percentage

/-!
# Proofs — Detect — Comment

The comment detector finishes on every file, and what it finds is sound: comments, and the lines of
code they stand above (`gives_detect`). In a file that is moved down it finds the same, further down
(`detect_padded`).
-/

namespace Provenance.Detect.Comment

open Binary64 Lexis

variable {settings : CommentSettings} {ls : List Line}

/-! ## Comments and the code they stand above -/

theorem mem_commentTails {l : Line} {rest : List Line} (h : (l, rest) ∈ commentTails ls) :
    ∃ front, ls = front ++ l :: rest ∧ l.isComment := by
  induction ls with
  | nil => cases h
  | cons l' ls ih =>
    rw [commentTails] at h
    by_cases hc : l'.isComment
    · rw [if_pos hc] at h
      rcases List.mem_cons.1 h with he | h
      · cases he
        exact ⟨[], rfl, hc⟩
      · obtain ⟨front, rfl, hl⟩ := ih h
        exact ⟨l' :: front, rfl, hl⟩
    · rw [if_neg hc] at h
      obtain ⟨front, rfl, hl⟩ := ih h
      exact ⟨l' :: front, rfl, hl⟩

theorem eq_append_of_codeBelow? {rest : List Line} {code : Line} (h : codeBelow? rest = some code) :
    ∃ between back, rest = between ++ code :: back ∧ code.isCode ∧ ∀ l ∈ between, l.isComment := by
  induction rest with
  | nil => cases h
  | cons l rest ih =>
    rw [codeBelow?] at h
    cases hk : l.kind with
    | code =>
      rw [hk] at h
      cases h
      exact ⟨[], rest, rfl, by rw [Line.isCode, hk]; rfl, by simp⟩
    | blank =>
      rw [hk] at h
      cases h
    | comment =>
      rw [hk] at h
      obtain ⟨between, back, rfl, hc, hb⟩ := ih h
      refine ⟨l :: between, back, rfl, hc, fun l' hl' => ?_⟩
      rcases List.mem_cons.1 hl' with rfl | hl'
      · rw [Line.isComment, hk]
        rfl
      · exact hb l' hl'

/-- A remark is a comment of the file, and its code is what the comment stands above. -/
theorem mem_comments {c : Remark} (h : c ∈ comments ls) :
    c.line ∈ ls ∧ c.line.isComment ∧ ∀ l ∈ c.code, StandsAbove ls c.line l := by
  obtain ⟨⟨l, rest⟩, hmem, rfl⟩ := List.mem_map.1 h
  obtain ⟨front, hls, hl⟩ := mem_commentTails hmem
  refine ⟨by simp [hls], hl, fun code hcode => ?_⟩
  obtain ⟨between, back, rfl, hc, hb⟩ := eq_append_of_codeBelow? hcode
  exact ⟨front, between, back, hls, hl, hc, hb⟩

/-- Comments cover themselves and the code they stand above. -/
theorem ofComments_coverage {cs : List Remark} (hne : cs ≠ []) (h : ∀ c ∈ cs, c ∈ comments ls) :
    OfComments ls (coverage cs) := by
  have hself : ∀ c ∈ cs, (c.line.number : Int) ∈ coverage cs := fun c hc =>
    List.mem_flatMap.2 ⟨c, hc, List.mem_cons_self⟩
  constructor
  · obtain ⟨c, hc⟩ := List.exists_mem_of_ne_nil cs hne
    obtain ⟨hl, hk, _⟩ := mem_comments (h c hc)
    exact ⟨c.line, hl, hk, hself c hc⟩
  · intro n hn
    obtain ⟨c, hc, hn⟩ := List.mem_flatMap.1 hn
    obtain ⟨hl, hk, hbelow⟩ := mem_comments (h c hc)
    rcases List.mem_cons.1 hn with rfl | hn
    · exact .inl ⟨c.line, hl, hk, rfl⟩
    · obtain ⟨l, hcode, rfl⟩ := List.mem_map.1 hn
      exact .inr ⟨c.line, l, hbelow l (Option.mem_toList.1 hcode), hself c hc, rfl⟩

theorem isSound_of_coverage {cs : List Remark} (hne : cs ≠ []) (h : ∀ c ∈ cs, c ∈ comments ls)
    {f : Finding} (hk : f.kind = .comment) (hc : 30 ≤ f.confidence ∧ f.confidence ≤ 90)
    (hl : f.lines = coverage cs) : IsSound ls .comment f := by
  have hevidence := ofComments_coverage hne h
  refine ⟨hk, by omega, by omega, ?_, by rw [hl]; exact hevidence⟩
  obtain ⟨c, _, _, hmem⟩ := hevidence.some_comment
  rw [hl]
  exact List.ne_nil_of_mem hmem

/-! ## Confidence -/

/-- A comment counts twice at most. -/
theorem gives_confidence {matched count : Nat} (h : matched ≤ 2 * count) :
    Gives (confidence matched count) fun c => 30 ≤ c ∧ c ≤ 90 := by
  have hexact := isExact_count (by omega : 120 ≤ 1000)
  have hle : (((60 * matched : Nat) : Int) : Rat) ≤ (120 : Nat) * ((max count 1 : Nat) : Int) := by
    have : 60 * matched ≤ 120 * max count 1 := by omega
    exact_mod_cast this
  refine (gives_countQuotient (by omega) (by omega) hexact hle).bind fun share hs => ?_
  have hsum := (between_count 30 (by omega)).raise hs (by omega)
  exact gives_capped 30 90 (between_count 90 (by omega)) hsum (by omega)

/-! ## Templated comments -/

/-- The comments of a template are comments of the list, and follow the template. -/
theorem mem_repeatedTemplates {cs : List Remark} {template : Template} {members : List Remark}
    (h : (template, members) ∈ repeatedTemplates settings cs) :
    members ≠ [] ∧ ∀ c ∈ members, c ∈ cs := by
  obtain ⟨hne, hmem⟩ := mem_group (List.mem_filter.1 h).1
  refine ⟨hne, fun c hc => ?_⟩
  obtain ⟨c', hc', he⟩ := List.mem_filterMap.1 (hmem c hc)
  obtain ⟨_, _, he⟩ := Option.map_eq_some_iff.1 he
  cases he
  exact hc'

/-- No comment follows two templates. -/
theorem total_repeatedTemplates_le (settings : CommentSettings) (cs : List Remark) :
    total ((repeatedTemplates settings cs).map fun entry => entry.2.length) ≤ cs.length := by
  refine (total_le_of_sublist (List.filter_sublist.map _)).trans ?_
  exact (total_length_group_le _).trans (List.length_filterMap_le _ _)

theorem gives_templated :
    Gives (templated settings (comments ls)) fun fs => ∀ f ∈ fs, IsSound ls .comment f := by
  have hmatched := total_repeatedTemplates_le settings (comments ls)
  refine Gives.mapM fun entry hentry => ?_
  obtain ⟨template, members⟩ := entry
  obtain ⟨hne, hmem⟩ := mem_repeatedTemplates hentry
  refine (gives_confidence (by omega)).bind fun confidence hc => .pure ?_
  exact isSound_of_coverage hne hmem rfl hc rfl

/-! ## Restating comments -/

/-- Telling words stand below a division only where there are two of them. -/
theorem gives_restating? (c : Remark) :
    Gives (restating? settings c) fun c? => ∀ c' ∈ c?, c' = c := by
  rw [restating?]
  split
  · exact .ok (by simp)
  rename_i hsaid
  cases c.code with
  | none => exact .ok (by simp)
  | some l =>
    refine (gives_share (by omega) (List.length_filter_le _ _)).bind fun overlap _ => .pure ?_
    split
    · exact fun c' hc' => (Option.some.inj hc').symm
    · simp

theorem gives_filterMapM_restating? (cs : List Remark) :
    Gives (cs.filterMapM (restating? settings)) fun found => found.Sublist cs := by
  induction cs with
  | nil => exact ⟨[], rfl, List.Sublist.slnil⟩
  | cons c cs ih =>
    rw [List.filterMapM_cons]
    refine (gives_restating? c).bind fun c? hc => ?_
    cases c? with
    | none => exact ih.mono fun found h => h.cons c
    | some c' =>
      rw [hc c' rfl]
      exact ih.bind fun found h => .pure (h.cons_cons c)

theorem gives_restating :
    Gives (restating settings (comments ls)) fun fs => ∀ f ∈ fs, IsSound ls .comment f := by
  refine (gives_filterMapM_restating? (comments ls)).bind fun found hfound => ?_
  cases found with
  | nil => exact .pure (by simp)
  | cons first rest =>
    have hlen := hfound.length_le
    refine (gives_confidence (by omega)).bind fun confidence hc => .pure fun f hf => ?_
    rw [List.mem_singleton.1 hf]
    exact isSound_of_coverage (List.cons_ne_nil _ _) (fun c hc => hfound.subset hc) rfl hc rfl

/-! ## The detector -/

/-- **The comment detector finds only what comments give evidence for.** -/
theorem gives_detect (settings : CommentSettings) (ls : List Line) :
    Gives (detect settings ls) fun fs => ∀ f ∈ fs, IsSound ls .comment f := by
  refine gives_templated.bind fun templated ht => gives_restating.bind fun restating hr => .pure ?_
  intro f hf
  rcases List.mem_append.1 hf with hf | hf
  · exact ht f hf
  · exact hr f hf

/-! ## Files that are moved down -/

section Moved

variable (settings) {moved count : Nat} {padded front back : List Line}

def Remark.moveDown (moved : Nat) (c : Remark) : Remark :=
  { c with line := c.line.moveDown moved, code := c.code.map (Line.moveDown moved) }

@[simp] theorem Remark.moveDown_text (c : Remark) : (c.moveDown moved).text = c.text := rfl

theorem codeBelow?_moveDown (ls : List Line) :
    codeBelow? (ls.map (Line.moveDown moved)) = (codeBelow? ls).map (Line.moveDown moved) := by
  induction ls with
  | nil => rfl
  | cons l rest ih =>
    have hkind : (l.moveDown moved).kind = l.kind := rfl
    rw [List.map_cons, codeBelow?, codeBelow?, hkind]
    cases l.kind with
    | code => rfl
    | blank => rfl
    | comment => exact ih

/-- A comment stands above no code behind the last line. -/
theorem codeBelow?_append {back : List Line} (h : ∀ l ∈ back, l.isBlank) (ls : List Line) :
    codeBelow? (ls ++ back) = codeBelow? ls := by
  induction ls with
  | nil =>
    cases back with
    | nil => rfl
    | cons l back =>
      simp [codeBelow?, Line.kind_of_isBlank (h l List.mem_cons_self)]
  | cons l rest ih =>
    rw [List.cons_append, codeBelow?, codeBelow?, ih]

theorem comments_cons (l : Line) (ls : List Line) :
    comments (l :: ls) = if l.isComment then
      ⟨l, commentText l.text, codeBelow? ls⟩ :: comments ls else comments ls := by
  rw [comments, commentTails]
  split <;> rfl

theorem comments_moveDown (ls : List Line) :
    comments (ls.map (Line.moveDown moved)) = (comments ls).map (Remark.moveDown moved) := by
  induction ls with
  | nil => rfl
  | cons l rest ih =>
    rw [List.map_cons, comments_cons, comments_cons, codeBelow?_moveDown, ih]
    show (if l.isComment then _ else _) = _
    split <;> rfl

theorem comments_append_blank {back : List Line} (h : ∀ l ∈ back, l.isBlank) (ls : List Line) :
    comments (ls ++ back) = comments ls := by
  induction ls with
  | nil =>
    induction back with
    | nil => rfl
    | cons l back ih =>
      have hno := Line.isComment_of_isBlank (h l List.mem_cons_self)
      rw [List.nil_append, comments_cons, hno]
      exact ih fun l hl => h l (List.mem_cons_of_mem _ hl)
  | cons l rest ih =>
    rw [List.cons_append, comments_cons, comments_cons, codeBelow?_append h, ih]

theorem comments_blank_append {front : List Line} (h : ∀ l ∈ front, l.isBlank) (ls : List Line) :
    comments (front ++ ls) = comments ls := by
  induction front with
  | nil => rfl
  | cons l front ih =>
    have hno := Line.isComment_of_isBlank (h l List.mem_cons_self)
    rw [List.cons_append, comments_cons, hno]
    exact ih fun l hl => h l (List.mem_cons_of_mem _ hl)

theorem comments_padded (h : IsPadded count moved ls padded front back) :
    comments padded = (comments ls).map (Remark.moveDown moved) := by
  rw [h.eq, comments_blank_append h.front_blank, comments_append_blank h.back_blank,
    comments_moveDown]

theorem coverage_moveDown (cs : List Remark) :
    coverage (cs.map (Remark.moveDown moved)) = (coverage cs).map (· + (moved : Int)) := by
  unfold coverage
  rw [List.flatMap_map, List.map_flatMap]
  congr 1
  funext c
  cases hc : c.code <;> simp [Remark.moveDown, Line.moveDown, hc]

theorem repeatedTemplates_moveDown (cs : List Remark) :
    repeatedTemplates settings (cs.map (Remark.moveDown moved)) =
      (repeatedTemplates settings cs).map
        fun entry => (entry.1, entry.2.map (Remark.moveDown moved)) := by
  unfold repeatedTemplates
  have hkeys : ((cs.map (Remark.moveDown moved)).filterMap fun c =>
      (Template.of? settings.minWords.val c.text).map fun template => (template, c)) =
      (cs.filterMap fun c =>
        (Template.of? settings.minWords.val c.text).map fun template => (template, c)).map
          fun entry => (entry.1, entry.2.moveDown moved) := by
    rw [List.filterMap_map, List.map_filterMap]
    congr 1
    funext c
    show (Template.of? settings.minWords.val c.text).map _ = _
    cases Template.of? settings.minWords.val c.text <;> rfl
  rw [hkeys, group_map, List.filter_map]
  congr 2
  funext entry
  simp

theorem templated_moveDown (cs : List Remark) :
    templated settings (cs.map (Remark.moveDown moved)) =
      List.map (Finding.moveDown moved) <$> templated settings cs := by
  unfold templated
  rw [repeatedTemplates_moveDown]
  apply mapM_map_of_comm
  intro entry _
  obtain ⟨template, members⟩ := entry
  simp only [List.map_map, Function.comp_def, List.length_map, map_bind, map_pure]
  apply bind_congr
  intro c
  simp [templateFinding, Finding.moveDown, coverage_moveDown]

theorem restating?_moveDown (c : Remark) :
    restating? settings (c.moveDown moved) =
      Option.map (Remark.moveDown moved) <$> restating? settings c := by
  obtain ⟨line, text, code⟩ := c
  unfold restating?
  by_cases hfew : (tellingWords text).length < 2
  · simp only [Remark.moveDown, hfew, if_true]
    rfl
  · simp only [Remark.moveDown, hfew, if_false]
    cases code with
    | none => rfl
    | some l =>
      simp only [Option.map_some, map_bind, map_pure]
      show (_ >>= _) = _
      apply bind_congr
      intro overlap
      split <;> rfl

theorem restating_moveDown (cs : List Remark) :
    restating settings (cs.map (Remark.moveDown moved)) =
      List.map (Finding.moveDown moved) <$> restating settings cs := by
  unfold restating
  rw [filterMapM_map_of_comm fun c _ => restating?_moveDown settings c, bind_map_left, map_bind]
  apply bind_congr
  intro found
  cases found with
  | nil => rfl
  | cons first rest =>
    have hcover : coverage ((first :: rest).map (Remark.moveDown moved)) = _ :=
      coverage_moveDown (first :: rest)
    simp only [List.map_cons, List.length_cons, List.length_map, map_bind, map_pure] at hcover ⊢
    apply bind_congr
    intro c
    simp [restatingFinding, Finding.moveDown, hcover]

theorem detect_padded (h : IsPadded count moved ls padded front back) :
    detect settings padded = List.map (Finding.moveDown moved) <$> detect settings ls := by
  unfold detect
  rw [comments_padded h, templated_moveDown, restating_moveDown]
  simp only [bind_map_left, map_bind, map_pure, List.map_append]

end Moved

end Provenance.Detect.Comment

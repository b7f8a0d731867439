import Provenance.Proofs.Detect.Comment

/-!
# Proofs — Detect — Comment — Template

Templated comments part the comments of a file. Each finding covers all comments of one template, of
which there are enough, and no other comment (`TellsOfTemplate`); the lines of code that it covers
besides are no comments. So a comment is covered once if its template is repeated often enough, and
not at all otherwise, and findings stand in the order of their first comments
(`templates_part_comments`).
-/

namespace Provenance.Detect.Comment

open Lexis

variable {settings : CommentSettings} {ls : List Line} {template : Template}

/-! ## Comments of a template -/

/-- The template that a line follows, as a comment. -/
def templateOf? (settings : CommentSettings) (l : Line) : Option Template :=
  Template.of? settings.minWords.val (commentText l.text)

/-- The comments that follow a template. -/
def commentsOf (settings : CommentSettings) (ls : List Line) (template : Template) : List Line :=
  ls.filter fun l => l.isComment && decide (templateOf? settings l = some template)

theorem mem_commentsOf {l : Line} : l ∈ commentsOf settings ls template ↔
    l ∈ ls ∧ l.isComment ∧ templateOf? settings l = some template := by
  simp [commentsOf]

/-- The remarks on the comments of a file are of these comments, in their order. -/
theorem map_line_comments (ls : List Line) :
    (comments ls).map Remark.line = ls.filter Line.isComment := by
  induction ls with
  | nil => rfl
  | cons l ls ih =>
    rw [comments_cons, List.filter_cons]
    split
    · rw [List.map_cons, ih]
    · exact ih

theorem text_of_mem_comments {c : Remark} (h : c ∈ comments ls) :
    c.text = commentText c.line.text := by
  obtain ⟨entry, _, rfl⟩ := List.mem_map.1 h
  rfl

/-- The remarks on comments that follow a template, with the template as their key. -/
def keyed (settings : CommentSettings) (ls : List Line) : List (Template × Remark) :=
  (comments ls).filterMap fun c =>
    (Template.of? settings.minWords.val c.text).map fun template => (template, c)

theorem repeatedTemplates_eq (settings : CommentSettings) (ls : List Line) :
    repeatedTemplates settings (comments ls) =
      (group (keyed settings ls)).filter fun entry =>
        decide (settings.minTemplateRepeats.val ≤ entry.2.length) := rfl

theorem mem_keyed {c : Remark} : (template, c) ∈ keyed settings ls ↔
    c ∈ comments ls ∧ templateOf? settings c.line = some template := by
  simp only [keyed, List.mem_filterMap, Option.map_eq_some_iff, Prod.mk.injEq]
  constructor
  · rintro ⟨c', hc', key, hkey, rfl, rfl⟩
    rw [text_of_mem_comments hc'] at hkey
    exact ⟨hc', hkey⟩
  · rintro ⟨hc, hkey⟩
    refine ⟨c, hc, template, ?_, rfl, rfl⟩
    rwa [text_of_mem_comments hc]

/-- The remarks of a key, without their key. -/
theorem map_snd_filter_keyed (template : Template) (cs : List Remark) :
    (((cs.filterMap fun c => (Template.of? settings.minWords.val c.text).map fun key =>
      (key, c)).filter fun entry => entry.1 = template).map (·.2)) =
      cs.filter fun c => decide (Template.of? settings.minWords.val c.text = some template) := by
  induction cs with
  | nil => rfl
  | cons c cs ih =>
    cases hkey : Template.of? settings.minWords.val c.text with
    | none => simp [hkey, ih]
    | some key =>
      by_cases he : key = template
      · simp [hkey, he, ih]
      · simp [hkey, he, ih]

/-- **The remarks that are kept of a template are of all comments that follow it.** -/
theorem map_line_members {members : List Remark}
    (h : (template, members) ∈ group (keyed settings ls)) :
    members.map Remark.line = commentsOf settings ls template := by
  have hmembers : members = (comments ls).filter fun c =>
      decide (templateOf? settings c.line = some template) := by
    rw [eq_of_mem_group h, keyed, map_snd_filter_keyed]
    refine List.filter_congr fun c hc => ?_
    rw [text_of_mem_comments hc, templateOf?]
  calc members.map Remark.line
      = ((comments ls).map Remark.line).filter fun l =>
          decide (templateOf? settings l = some template) := by
        rw [hmembers, List.filter_map]
        simp only [Function.comp_def]
    _ = commentsOf settings ls template := by
        rw [map_line_comments, List.filter_filter, commentsOf]
        simp only [Bool.and_comm]

/-! ## Covered comments -/

/-- The comments that a finding covers. -/
def coveredComments (ls : List Line) (f : Finding) : List Line :=
  ls.filter fun l => l.isComment && decide ((l.number : Int) ∈ f.lines)

theorem mem_coveredComments {l : Line} {f : Finding} : l ∈ coveredComments ls f ↔
    l ∈ ls ∧ l.isComment ∧ (l.number : Int) ∈ f.lines := by
  simp [coveredComments]

/-- Lines of one number are one line. -/
theorem eq_of_number (hnumbers : ls.Pairwise fun l l' => l.number < l'.number) {l l' : Line}
    (hl : l ∈ ls) (hl' : l' ∈ ls) (he : l.number = l'.number) : l = l' :=
  List.inj_on_of_nodup_map (List.pairwise_map.2 (hnumbers.imp Nat.ne_of_lt)) hl hl' he

/-- **Of the comments of a file some comments cover themselves only.** -/
theorem mem_coverage_iff (hnumbers : ls.Pairwise fun l l' => l.number < l'.number)
    {cs : List Remark} (h : ∀ c ∈ cs, c ∈ comments ls) {l : Line} (hl : l ∈ ls)
    (hcomment : l.isComment) : (l.number : Int) ∈ coverage cs ↔ l ∈ cs.map Remark.line := by
  constructor
  · intro hmem
    obtain ⟨c, hc, hmem⟩ := List.mem_flatMap.1 hmem
    obtain ⟨hline, _, hcode⟩ := mem_comments (h c hc)
    rcases List.mem_cons.1 hmem with he | hmem
    · have hsame := eq_of_number hnumbers hl hline (Int.ofNat.inj he)
      exact List.mem_map.2 ⟨c, hc, hsame.symm⟩
    · -- a line of code has another number than a comment
      obtain ⟨code, hbelow, he⟩ := List.mem_map.1 hmem
      obtain ⟨hin, hkind⟩ := List.mem_filter.1 (hcode code (Option.mem_toList.1 hbelow)).mem.2
      obtain rfl := eq_of_number hnumbers hl hin (Int.ofNat.inj he).symm
      rw [Line.isCode, Line.kind_of_isComment hcomment] at hkind
      cases hkind
  · intro hmem
    obtain ⟨c, hc, rfl⟩ := List.mem_map.1 hmem
    exact List.mem_flatMap.2 ⟨c, hc, List.mem_cons_self⟩

/-! ## Findings -/

/-- The count of comments stands at the end of a description. -/
theorem exists_describe_eq (count : Nat) (template : Template) :
    ∃ what, describe count template = what ++ " repeated " ++ Nat.repr count ++ " times" := by
  cases template with
  | heading head =>
    refine ⟨"Docstring section header '" ++ String.ofList head ++ "'", ?_⟩
    rw [@String.append_assoc _ "'" " repeated "]
    simp only [String.reduceAppend]
    rfl
  | sentence first words =>
    refine ⟨"Templated comments starting with '" ++ String.ofList first ++ "' (" ++
      Nat.repr words ++ " words)", ?_⟩
    rw [@String.append_assoc _ " words)" " repeated "]
    simp only [String.reduceAppend]
    rfl

/-- What a finding says of a template: it covers the comments that follow it, of which there are
enough, no other comment, and lines of code that these comments stand above, and its description
ends with the count of the comments. Where lines are numbered from one the finding is a pattern on
just these lines. -/
structure TellsOfTemplate (settings : CommentSettings) (ls : List Line) (template : Template)
    (f : Finding) : Prop where
  kind_eq : f.kind = .comment
  signature_eq : f.signature = signature template
  description_eq : f.description = describe (commentsOf settings ls template).length template
  comments_eq : coveredComments ls f = commentsOf settings ls template
  count_told : ∃ what, f.description =
    what ++ " repeated " ++ Nat.repr (coveredComments ls f).length ++ " times"
  enough : settings.minTemplateRepeats.val ≤ (commentsOf settings ls template).length
  comment_or_below : ∀ n ∈ f.lines, (∃ c ∈ commentsOf settings ls template, (c.number : Int) = n) ∨
    ∃ c ∈ commentsOf settings ls template, ∃ l, StandsAbove ls c l ∧ (l.number : Int) = n
  pattern : (∀ l ∈ ls, 1 ≤ l.number) →
    ∃ p, f.check = .ok p ∧ ∀ n : Nat, n ∈ p.lines ↔ (n : Int) ∈ f.lines

theorem tellsOfTemplate_templateFinding
    (hnumbers : ls.Pairwise fun l l' => l.number < l'.number) {members : List Remark}
    (h : (template, members) ∈ repeatedTemplates settings (comments ls)) {c : Int}
    (hc : 30 ≤ c ∧ c ≤ 90) :
    TellsOfTemplate settings ls template (templateFinding c template members) := by
  obtain ⟨hgroup, henough⟩ := List.mem_filter.1 h
  obtain ⟨hne, hmem⟩ := mem_repeatedTemplates h
  have hlines := map_line_members hgroup
  have hlength : members.length = (commentsOf settings ls template).length := by
    rw [← hlines, List.length_map]
  have hsound : IsSound ls .comment (templateFinding c template members) :=
    isSound_of_coverage hne hmem rfl hc rfl
  have hcovered : coveredComments ls (templateFinding c template members) =
      commentsOf settings ls template := by
    refine List.filter_congr fun l hl => ?_
    rw [Bool.eq_iff_iff, Bool.and_eq_true, Bool.and_eq_true, decide_eq_true_eq, decide_eq_true_eq]
    refine and_congr_right fun hcomment => ?_
    show (l.number : Int) ∈ coverage members ↔ _
    rw [mem_coverage_iff hnumbers hmem hl hcomment, hlines, mem_commentsOf]
    simp [hl, hcomment]
  refine ⟨rfl, rfl, ?_, hcovered, ?_, ?_, ?_, ?_⟩
  · rw [← hlength]
    rfl
  · rw [hcovered, ← hlength]
    exact exists_describe_eq members.length template
  · rw [← hlength]
    exact of_decide_eq_true henough
  · intro n hn
    obtain ⟨remark, hremark, hn⟩ := List.mem_flatMap.1 hn
    have hline : remark.line ∈ commentsOf settings ls template :=
      hlines ▸ List.mem_map_of_mem hremark
    rcases List.mem_cons.1 hn with rfl | hn
    · exact .inl ⟨_, hline, rfl⟩
    · obtain ⟨l, hcode, rfl⟩ := List.mem_map.1 hn
      obtain ⟨_, _, habove⟩ := mem_comments (hmem remark hremark)
      exact .inr ⟨_, hline, l, habove l (Option.mem_toList.1 hcode), rfl⟩
  · intro hpos
    obtain ⟨p, hp, _, hplines⟩ := gives_check hpos hsound
    refine ⟨p, hp, fun n => ?_⟩
    rw [hplines, hsound.evidence.mem_ascending]

/-- The findings of templates part the comments that follow them: no two findings share a comment, a
comment is covered if its template is repeated often enough and in no other case, and findings stand
in the order of their first comments. -/
structure PartComments (settings : CommentSettings) (ls : List Line) (found : List Finding) :
    Prop where
  tells : ∀ f ∈ found, ∃ template, TellsOfTemplate settings ls template f
  apart : found.Pairwise fun f g => ∀ l ∈ coveredComments ls f, l ∉ coveredComments ls g
  covered_iff : ∀ l ∈ ls, l.isComment → ((∃ f ∈ found, (l.number : Int) ∈ f.lines) ↔
    ∃ template, templateOf? settings l = some template ∧
      settings.minTemplateRepeats.val ≤ (commentsOf settings ls template).length)
  ordered : found.Pairwise fun f g => ∃ first ∈ (coveredComments ls f).head?,
    ∀ l ∈ coveredComments ls g, first.number < l.number

/-! ## The partition -/

/-- One finding for each template that is repeated often enough, and it covers the comments that are
kept of the template. -/
theorem gives_templated_told (settings : CommentSettings)
    (hnumbers : ls.Pairwise fun l l' => l.number < l'.number) :
    Gives (templated settings (comments ls)) (List.Forall₂
      (fun entry f => TellsOfTemplate settings ls entry.1 f ∧
        coveredComments ls f = entry.2.map Remark.line)
      (repeatedTemplates settings (comments ls))) := by
  have hmatched := total_repeatedTemplates_le settings (comments ls)
  refine Gives.mapM_forall₂ fun entry hentry => ?_
  obtain ⟨template, members⟩ := entry
  refine (gives_confidence (by omega)).bind fun c hc => .pure ?_
  have htells := tellsOfTemplate_templateFinding hnumbers hentry hc
  refine ⟨htells, ?_⟩
  rw [htells.comments_eq, map_line_members (List.mem_filter.1 hentry).1]

/-- A comment whose template is repeated often enough is kept with it. -/
theorem exists_mem_repeatedTemplates {l : Line} (hl : l ∈ ls) (hcomment : l.isComment)
    (htemplate : templateOf? settings l = some template)
    (henough : settings.minTemplateRepeats.val ≤ (commentsOf settings ls template).length) :
    ∃ members, (template, members) ∈ repeatedTemplates settings (comments ls) := by
  have hmem : l ∈ (comments ls).map Remark.line := by
    rw [map_line_comments]
    exact List.mem_filter.2 ⟨hl, hcomment⟩
  obtain ⟨c, hc, rfl⟩ := List.mem_map.1 hmem
  have hgroup := group_of_mem (mem_keyed.2 ⟨hc, htemplate⟩)
  refine ⟨_, List.mem_filter.2 ⟨hgroup, decide_eq_true ?_⟩⟩
  rwa [← map_line_members hgroup, List.length_map] at henough

/-- Templates are kept once. -/
theorem pairwise_keys_repeatedTemplates (settings : CommentSettings) (ls : List Line) :
    (repeatedTemplates settings (comments ls)).Pairwise fun entry entry' =>
      entry.1 ≠ entry'.1 := by
  rw [repeatedTemplates_eq]
  exact (List.pairwise_map.1 (nodup_keys_group _)).filter _

/-- Templates are kept in the order of their first comments. -/
theorem pairwise_repeatedTemplates (settings : CommentSettings)
    (hnumbers : ls.Pairwise fun l l' => l.number < l'.number) :
    (repeatedTemplates settings (comments ls)).Pairwise fun entry entry' =>
      ∃ c ∈ entry.2.head?, ∀ c' ∈ entry'.2, c.line.number < c'.line.number := by
  have hcomments : ((comments ls).map Remark.line).Pairwise
      fun l l' => l.number < l'.number := by
    rw [map_line_comments]
    exact hnumbers.filter _
  have hkeyed : (keyed settings ls).Pairwise fun entry entry' =>
      entry.2.line.number < entry'.2.line.number := by
    refine List.pairwise_filterMap.2 ((List.pairwise_map.1 hcomments).imp ?_)
    intro c c' hlt entry hentry entry' hentry'
    obtain ⟨_, _, rfl⟩ := Option.map_eq_some_iff.1 hentry
    obtain ⟨_, _, rfl⟩ := Option.map_eq_some_iff.1 hentry'
    exact hlt
  rw [repeatedTemplates_eq]
  exact (pairwise_group hkeyed).filter _

/-- **Templated comments part the comments of a file**, in all files whose lines are in the order of
their numbers. -/
theorem templates_part_comments (settings : CommentSettings) {ls : List Line}
    (hnumbers : ls.Pairwise fun l l' => l.number < l'.number) :
    ∃ found, templated settings (comments ls) = .ok found ∧ PartComments settings ls found := by
  obtain ⟨found, hfound, htold⟩ := gives_templated_told settings hnumbers
  refine ⟨found, hfound, ?_, ?_, ?_, ?_⟩
  · intro f hf
    obtain ⟨entry, _, htells, _⟩ := exists_of_mem_forall₂ htold hf
    exact ⟨entry.1, htells⟩
  · refine pairwise_of_forall₂ ?_ htold (pairwise_keys_repeatedTemplates settings ls)
    intro entry entry' f g hf hg hne l hl hl'
    rw [hf.1.comments_eq, mem_commentsOf] at hl
    rw [hg.1.comments_eq, mem_commentsOf] at hl'
    exact hne (Option.some.inj (hl.2.2.symm.trans hl'.2.2))
  · intro l hl hcomment
    constructor
    · rintro ⟨f, hf, hmem⟩
      obtain ⟨entry, _, htells, _⟩ := exists_of_mem_forall₂ htold hf
      have hcovered := mem_coveredComments.2 ⟨hl, hcomment, hmem⟩
      rw [htells.comments_eq, mem_commentsOf] at hcovered
      exact ⟨entry.1, hcovered.2.2, htells.enough⟩
    · rintro ⟨template, htemplate, henough⟩
      obtain ⟨members, hentry⟩ :=
        exists_mem_repeatedTemplates hl hcomment htemplate henough
      obtain ⟨f, hf, htells, _⟩ := exists_of_mem_forall₂ htold.flip hentry
      have hcovered := mem_commentsOf.2 ⟨hl, hcomment, htemplate⟩
      rw [← htells.comments_eq, mem_coveredComments] at hcovered
      exact ⟨f, hf, hcovered.2.2⟩
  · refine pairwise_of_forall₂ ?_ htold (pairwise_repeatedTemplates settings hnumbers)
    rintro entry entry' f g ⟨_, hf⟩ ⟨_, hg⟩ ⟨c, hc, hbefore⟩
    refine ⟨c.line, ?_, ?_⟩
    · rw [hf, List.head?_map, hc]
      rfl
    · intro l hl
      rw [hg] at hl
      obtain ⟨c', hc', rfl⟩ := List.mem_map.1 hl
      exact hbefore c' hc'

/-- Comments of two templates over two lines of code, and a comment that follows none. -/
def mixedComments : List Line := [
  ⟨1, "# Args:".toList, .comment⟩, ⟨2, "# Get the user".toList, .comment⟩,
  ⟨3, "x = 1".toList, .code⟩, ⟨5, "# args".toList, .comment⟩,
  ⟨6, "# get an item".toList, .comment⟩, ⟨7, "# later".toList, .comment⟩,
  ⟨9, "y = 2".toList, .code⟩]

/-- Both templates are told with their own comments, and with the same lines of code. -/
theorem mixedComments_parted :
    let settings : CommentSettings := { minTemplateRepeats := ⟨2, by decide⟩ }
    (mixedComments.Pairwise fun l l' => l.number < l'.number) ∧
      ∃ found, templated settings (comments mixedComments) = .ok found ∧
        PartComments settings mixedComments found ∧
        found.map Finding.lines = [[1, 3, 5, 9], [2, 3, 6, 9]] := by
  intro settings
  have hnumbers : mixedComments.Pairwise fun l l' => l.number < l'.number := by decide
  obtain ⟨found, hfound, hpart⟩ := templates_part_comments settings hnumbers
  have hlines : List.map Finding.lines <$> templated settings (comments mixedComments) =
      .ok [[1, 3, 5, 9], [2, 3, 6, 9]] := by
    decide +kernel
  rw [hfound] at hlines
  exact ⟨hnumbers, found, hfound, hpart, Except.ok.inj hlines⟩

end Provenance.Detect.Comment

import Mathlib.Algebra.BigOperators.Ring.List
import Mathlib.Algebra.Order.BigOperators.Group.List
import Provenance.Proofs.FileAnalysis
import Provenance.Proofs.Number.CountPercentage
import Provenance.Proofs.Outcome
import Provenance.Proofs.ProjectAnalysis.Folder

/-!
# Proofs — ProjectAnalysis — Average

The share of a project, and that of a folder, is an average of the shares of its files, in which a
large file weighs more than a small one. Lines are summed before they are divided, so the average
lies between an exact share that is not larger and one that is not smaller
(`exists_smaller_share`, `exists_larger_share`), and percentages keep that order
(`averages_lie_among_shares`). Files without code have no weight. The files that a pass analyses are
such files (`Tells.tellsShare`).
-/

namespace Provenance

/-! ## Files that tell their share -/

/-- The lines of a file that are generated or human. -/
def attributedLines (a : FileAnalysis) : Int := a.generatedLines + a.humanLines

/-- A file with counts of lines that tells the percentage of the generated ones. -/
structure TellsShare (a : FileAnalysis) : Prop where
  counts : HasCounts a
  percentage : countPercentage a.generatedLines (attributedLines a) = .ok a.generatedPercentage

/-- A file with lines of code. -/
def HasCode (a : FileAnalysis) : Prop := 0 < a.codeLines

instance (a : FileAnalysis) : Decidable (HasCode a) := inferInstanceAs (Decidable (0 < a.codeLines))

theorem hasCode_iff {a : FileAnalysis} : HasCode a ↔ 0 < attributedLines a := by
  rw [attributedLines, a.attributed]
  rfl

/-- **Scored files tell their share.** -/
theorem tellsShare_of_scoreFile {path language : String} {ls : List Line} {ps : List Pattern}
    {a : FileAnalysis} (h : scoreFile path language ls ps = .ok a) : TellsShare a := by
  rw [scoreFile] at h
  dsimp only at h
  split at h
  · have ha := of_check_eq_ok h
    exact ⟨by simp [HasCounts, ha], by rw [attributedLines, ha]; rfl⟩
  · obtain ⟨percentage, hpercentage, h⟩ := of_bind_eq_ok h
    obtain ⟨confidence, _, h⟩ := of_bind_eq_ok h
    have ha := of_check_eq_ok h
    have hverdicts := length_eq_verdicts ((lineLikelihoods ls ps).map (·.2))
    refine ⟨?_, ?_⟩
    · rw [HasCounts, ha]
      dsimp only
      omega
    · rw [attributedLines, ha]
      dsimp only
      rwa [add_sub_cancel]

theorem tellsShare_of_analyzeFile {settings : Settings} {path : String} {content : Content}
    {a : FileAnalysis} (h : analyzeFile settings path content = .ok a) : TellsShare a := by
  rw [analyzeFile] at h
  obtain ⟨source, _, h⟩ := of_bind_eq_ok h
  cases hsource : analyzeSource settings path (Language.ofPath path) source with
  | error fault =>
    rw [hsource] at h
    cases h
  | ok a' =>
    rw [hsource] at h
    cases h
    rw [analyzeSource] at hsource
    obtain ⟨patterns, _, hscore⟩ := of_bind_eq_ok hsource
    exact tellsShare_of_scoreFile hscore

/-- The files that a pass analysed tell their share. -/
theorem Tells.tellsShare {settings : Settings} {jobs : List Job} {project : ProjectAnalysis}
    (h : Tells settings jobs project) : ∀ a ∈ project.files, TellsShare a := by
  intro a ha
  have htold : Except.ok a ∈ jobs.filterMap (Job.analysis? settings) :=
    h.files ▸ List.mem_map_of_mem ha
  obtain ⟨job, _, hjob⟩ := List.mem_filterMap.1 htold
  obtain ⟨content, _, ha⟩ := Option.map_eq_some_iff.1 hjob
  exact tellsShare_of_analyzeFile ha

/-! ## Shares of sums -/

/-- The files among some that have code. -/
def withCode (files : List FileAnalysis) : List FileAnalysis :=
  files.filter fun a => decide (HasCode a)

theorem mem_withCode {files : List FileAnalysis} {a : FileAnalysis} :
    a ∈ withCode files ↔ a ∈ files ∧ HasCode a := by
  rw [withCode, List.mem_filter, decide_eq_true_eq]

theorem withCode_ne_nil {files : List FileAnalysis} (hcode : ∃ a ∈ files, HasCode a) :
    withCode files ≠ [] := by
  obtain ⟨a, ha, hc⟩ := hcode
  exact List.ne_nil_of_mem (mem_withCode.2 ⟨ha, hc⟩)

section Shares

variable {files : List FileAnalysis} (h : ∀ a ∈ files, TellsShare a)
include h

/-- Files without code add nothing. -/
theorem sums_eq : sumGenerated files = ((withCode files).map fun a => a.generatedLines).sum ∧
    sumGenerated files + sumHuman files = ((withCode files).map attributedLines).sum := by
  induction files with
  | nil => exact ⟨rfl, rfl⟩
  | cons a files ih =>
    obtain ⟨hg, hw⟩ := ih fun b hb => h b (List.mem_cons_of_mem _ hb)
    obtain ⟨hgenerated, hhuman⟩ := (h a List.mem_cons_self).counts
    have hsumg : sumGenerated (a :: files) = a.generatedLines + sumGenerated files := rfl
    have hsumh : sumHuman (a :: files) = a.humanLines + sumHuman files := rfl
    by_cases hcode : HasCode a
    · rw [withCode, List.filter_cons_of_pos (by simpa using hcode), ← withCode, List.map_cons,
        List.map_cons, List.sum_cons, List.sum_cons, ← hg, ← hw, attributedLines]
      omega
    · have hnone := mt hasCode_iff.2 hcode
      rw [attributedLines] at hnone
      rw [withCode, List.filter_cons_of_neg (by simpa using hcode), ← withCode, ← hg, ← hw]
      omega

/-- Each file weighted by all lines of the files, and all generated lines weighted by each file. -/
theorem sum_weighted :
    ((withCode files).map fun a => sumGenerated files * attributedLines a).sum =
      ((withCode files).map fun a =>
        a.generatedLines * (sumGenerated files + sumHuman files)).sum := by
  obtain ⟨hg, hw⟩ := sums_eq h
  rw [List.sum_map_mul_left, List.sum_map_mul_right, ← hg, ← hw]

variable (hcode : ∃ a ∈ files, HasCode a)
include hcode

/-- Some file with code has no smaller share than all files together. -/
theorem exists_larger_share : ∃ a ∈ withCode files,
    sumGenerated files * attributedLines a ≤
      a.generatedLines * (sumGenerated files + sumHuman files) :=
  List.exists_le_of_sum_le (withCode_ne_nil hcode) _ _ (sum_weighted h).le

/-- Some file with code has no larger share than all files together. -/
theorem exists_smaller_share : ∃ a ∈ withCode files,
    a.generatedLines * (sumGenerated files + sumHuman files) ≤
      sumGenerated files * attributedLines a :=
  List.exists_le_of_sum_le (withCode_ne_nil hcode) _ _ (sum_weighted h).ge

theorem sum_attributed_pos : 0 < sumGenerated files + sumHuman files := by
  obtain ⟨a, ha, hc⟩ := hcode
  have hnonneg : ∀ n ∈ (withCode files).map attributedLines, 0 ≤ n := by
    intro n hn
    obtain ⟨b, hb, rfl⟩ := List.mem_map.1 hn
    exact (hasCode_iff.1 (mem_withCode.1 hb).2).le
  have hle := List.single_le_sum hnonneg _ (List.mem_map_of_mem (mem_withCode.2 ⟨ha, hc⟩))
  rw [← (sums_eq h).2] at hle
  exact (hasCode_iff.1 hc).trans_le hle

end Shares

/-! ## Averages -/

/-- A share that lies between the smallest and the largest of some shares. -/
def IsAmong (share : Int) (shares : List Int) : Prop :=
  ∃ least greatest, shares.min? = some least ∧ shares.max? = some greatest ∧
    least ≤ share ∧ share ≤ greatest

theorem isAmong_of_mem {share low high : Int} {shares : List Int} (hlow : low ∈ shares)
    (hhigh : high ∈ shares) (h1 : low ≤ share) (h2 : share ≤ high) : IsAmong share shares := by
  have hne : shares ≠ [] := List.ne_nil_of_mem hlow
  obtain ⟨least, hleast⟩ := Option.ne_none_iff_exists'.1 (mt List.min?_eq_none_iff.1 hne)
  obtain ⟨greatest, hgreatest⟩ := Option.ne_none_iff_exists'.1 (mt List.max?_eq_none_iff.1 hne)
  refine ⟨least, greatest, hleast, hgreatest, ?_, ?_⟩
  · exact ((List.min?_eq_some_iff.1 hleast).2 low hlow).trans h1
  · exact h2.trans ((List.max?_eq_some_iff.1 hgreatest).2 high hhigh)

/-- The percentages that the files with code tell. -/
def sharesOf (files : List FileAnalysis) : List Int :=
  (withCode files).map fun a => a.generatedPercentage

/-- **The share of some files lies among their shares.** -/
theorem isAmong_sharedPercentage {files : List FileAnalysis} (h : ∀ a ∈ files, TellsShare a)
    (hcode : ∃ a ∈ files, HasCode a) {share : Int} (he : sharedPercentage files = .ok share) :
    IsAmong share (sharesOf files) := by
  obtain ⟨hg, hh⟩ := sums_nonneg fun a ha => (h a ha).counts
  have hpos := sum_attributed_pos h hcode
  obtain ⟨high, hhigh, hle⟩ := exists_larger_share h hcode
  obtain ⟨low, hlow, hge⟩ := exists_smaller_share h hcode
  have hpart : ∀ a ∈ withCode files, TellsShare a ∧ 0 ≤ a.generatedLines ∧
      a.generatedLines ≤ attributedLines a ∧ 0 < attributedLines a := by
    intro a ha
    obtain ⟨ha, hc⟩ := mem_withCode.1 ha
    obtain ⟨hag, hah⟩ := (h a ha).counts
    refine ⟨h a ha, hag, ?_, hasCode_iff.1 hc⟩
    rw [attributedLines]
    omega
  obtain ⟨hhigh', h1, h2, h3⟩ := hpart high hhigh
  obtain ⟨hlow', l1, l2, l3⟩ := hpart low hlow
  refine isAmong_of_mem (List.mem_map_of_mem hlow) (List.mem_map_of_mem hhigh) ?_ ?_
  · exact percentage_mono l1 l2 l3 hg (by omega) hpos hge hlow'.percentage he
  · exact percentage_mono hg (by omega) hpos h1 h2 h3 hle he hhigh'.percentage

/-- The share of a folder lies among those of the files that it directly holds. -/
theorem isAmong_of_summarizeFolders {project : ProjectAnalysis} {folders : List FolderSummary}
    (h : ∀ a ∈ project.files, TellsShare a) (hfolders : summarizeFolders project = .ok folders)
    {s : FolderSummary} (hs : s ∈ folders) (hcode : ∃ a ∈ heldIn project s.path, HasCode a) :
    IsAmong s.generatedPercentage (sharesOf (heldIn project s.path)) := by
  obtain ⟨_, hsum⟩ := isSummaryOf_of_mem hfolders hs
  have hshares : ∀ a ∈ heldIn project s.path, TellsShare a := fun a ha =>
    h a (List.mem_of_mem_filter ha)
  refine isAmong_sharedPercentage hshares hcode ?_
  rw [sharedPercentage, ← hsum.generatedLines_eq, ← hsum.humanLines_eq]
  exact hsum.percentage_eq

/-- **The averages of a pass lie among the shares of the files that it analysed**, that of the
project as well as those of its folders. -/
theorem Tells.averages {settings : Settings} {jobs : List Job} {project : ProjectAnalysis}
    (h : Tells settings jobs project) (hcode : ∃ a ∈ project.files, HasCode a) :
    IsAmong project.generatedPercentage (sharesOf project.files) ∧
    ∀ folders, summarizeFolders project = .ok folders → ∀ s ∈ folders,
      (∃ a ∈ heldIn project s.path, HasCode a) →
        IsAmong s.generatedPercentage (sharesOf (heldIn project s.path)) :=
  ⟨isAmong_sharedPercentage h.tellsShare hcode h.generatedPercentage,
    fun _ hfolders _ hs hheld => isAmong_of_summarizeFolders h.tellsShare hfolders hs hheld⟩

/-- **Averages lie among the shares that they are taken of.** Files that tell their share, of which
one at least has code, make up a project whose share lies among those of its files with code, and so
does the share of each folder that directly holds a file with code. -/
theorem averages_lie_among_shares {files : List FileAnalysis} (h : ∀ a ∈ files, TellsShare a)
    (hcode : ∃ a ∈ files, HasCode a) (path : String) (totalFiles : Int)
    (skipped : List SkippedFile) (timestamp : Timestamp) :
    ∃ project folders, aggregate path totalFiles files skipped timestamp = .ok project ∧
      summarizeFolders project = .ok folders ∧
      IsAmong project.generatedPercentage (sharesOf files) ∧
      ∀ s ∈ folders, (∃ a ∈ heldIn project s.path, HasCode a) →
        IsAmong s.generatedPercentage (sharesOf (heldIn project s.path)) := by
  obtain ⟨project, hproject, hfiles, _⟩ :=
    gives_aggregate (fun a ha => (h a ha).counts) path totalFiles skipped timestamp
  obtain ⟨folders, hfolders, _⟩ :=
    gives_summarizeFolders (p := project) (hfiles ▸ fun a ha => (h a ha).counts)
  refine ⟨project, folders, hproject, hfolders, ?_, ?_⟩
  · obtain ⟨share, hshare, rfl⟩ := of_aggregate_eq_ok hproject
    exact isAmong_sharedPercentage h hcode hshare
  · intro s hs hheld
    exact isAmong_of_summarizeFolders (hfiles ▸ h) hfolders hs hheld

/-- A file of which an eighth is generated, which is rounded up, and one without code beside it; a
file of which three quarters are generated lies in another folder. -/
def unevenFiles : List FileAnalysis :=
  [counted "lib/a.py" 1 7 13, counted "lib/b.py" 0 0 0, counted "bin/c.py" 3 1 75]

theorem uneven_averages :
    (∀ a ∈ unevenFiles, TellsShare a) ∧ (∃ a ∈ unevenFiles, HasCode a) ∧
    sharesOf unevenFiles = [13, 75] ∧
    ∃ project folders, aggregate "" 3 unevenFiles [] ⟨2000, 1, 1, 0, 0, 0, 0⟩ = .ok project ∧
      summarizeFolders project = .ok folders ∧
      IsAmong project.generatedPercentage [13, 75] ∧
      ∀ s ∈ folders, (∃ a ∈ heldIn project s.path, HasCode a) →
        IsAmong s.generatedPercentage (sharesOf (heldIn project s.path)) := by
  have htell : ∀ a ∈ unevenFiles, TellsShare a := by
    intro a ha
    rcases List.mem_cons.1 ha with rfl | ha
    · exact ⟨⟨by decide, by decide⟩, by decide +kernel⟩
    rcases List.mem_cons.1 ha with rfl | ha
    · exact ⟨⟨by decide, by decide⟩, by decide +kernel⟩
    obtain rfl := List.mem_singleton.1 ha
    exact ⟨⟨by decide, by decide⟩, by decide +kernel⟩
  have hcode : ∃ a ∈ unevenFiles, HasCode a := ⟨_, List.mem_cons_self, by decide⟩
  exact ⟨htell, hcode, by decide,
    averages_lie_among_shares htell hcode "" 3 [] ⟨2000, 1, 1, 0, 0, 0, 0⟩⟩

end Provenance

import Provenance.Proofs.Grouping
import Provenance.Proofs.ProjectAnalysis
import Provenance.Proofs.Ranking

/-!
# Proofs — Report

What is reported of a project does not depend on the order in which its files were found: sums are
taken over all files, folders are grouped and then ranked, and tables show rankings. Every consumer
of the list of files has its own lemma, and `reports_ignore_order` puts them together.
-/

namespace Provenance

/-! ## Sums -/

theorem total_perm {ns ms : List Int} (h : ns.Perm ms) : total ns = total ms := by
  induction h with
  | nil => rfl
  | cons n _ ih => rw [total_cons, total_cons, ih]
  | swap n m ns =>
    simp only [total_cons]
    omega
  | trans _ _ ih₁ ih₂ => exact ih₁.trans ih₂

section Sums

variable {files files' : List FileAnalysis} (h : files.Perm files')
include h

theorem sumGenerated_perm : sumGenerated files = sumGenerated files' := total_perm (h.map _)

theorem sumHuman_perm : sumHuman files = sumHuman files' := total_perm (h.map _)

theorem sharedPercentage_perm : sharedPercentage files = sharedPercentage files' := by
  rw [sharedPercentage, sharedPercentage, sumGenerated_perm h, sumHuman_perm h]

theorem summarizeFolder_perm (folder : String) :
    summarizeFolder folder files = summarizeFolder folder files' := by
  rw [summarizeFolder, summarizeFolder, sharedPercentage_perm h, sumGenerated_perm h,
    sumHuman_perm h, h.length_eq]

end Sums

/-! ## Folders -/

theorem eq_of_summarizeFolder_eq_error {folder : String} {files : List FileAnalysis} {fault : Fault}
    (h : summarizeFolder folder files = .error fault) : fault = .number .quotientTooLarge := by
  rcases of_bind_eq_error h with hshare | ⟨share, _, he⟩
  · exact eq_of_countPercentage_eq_error hshare
  · cases he

theorem of_summarizeFolder_eq_ok {folder : String} {files : List FileAnalysis} {s : FolderSummary}
    (h : summarizeFolder folder files = .ok s) :
    ∃ share, sharedPercentage files = .ok share ∧
      s = ⟨folder, files.length, sumGenerated files, sumHuman files, share⟩ := by
  obtain ⟨share, hshare, he⟩ := of_bind_eq_ok h
  cases he
  exact ⟨share, hshare, rfl⟩

/-- A summary bears the path of its folder, so the summaries of a list of folders spell that list.
-/
theorem paths_of_summaries {folders : List String} {filesOf : String → List FileAnalysis}
    {summaries : List FolderSummary}
    (h : folders.mapM (fun folder => summarizeFolder folder (filesOf folder)) = .ok summaries) :
    summaries.map (fun s => s.path) = folders := by
  rw [map_eq_of_mapM ?_ h, List.map_id']
  intro folder s hs
  obtain ⟨share, _, rfl⟩ := of_summarizeFolder_eq_ok hs
  rfl

/-! ## Projects -/

/-- Two projects made up of the same files, which one of them lists in another order. -/
structure Reordered (p q : ProjectAnalysis) : Prop where
  path : p.path = q.path
  totalFiles : p.totalFiles = q.totalFiles
  analyzedFiles : p.analyzedFiles = q.analyzedFiles
  totalLines : p.totalLines = q.totalLines
  generatedLines : p.generatedLines = q.generatedLines
  humanLines : p.humanLines = q.humanLines
  generatedPercentage : p.generatedPercentage = q.generatedPercentage
  files : p.files.Perm q.files

theorem aggregate_perm {files files' : List FileAnalysis} (h : files.Perm files') (path : String)
    (totalFiles : Int) (skipped skipped' : List SkippedFile) (timestamp timestamp' : Timestamp) :
    Agree Reordered (aggregate path totalFiles files skipped timestamp)
      (aggregate path totalFiles files' skipped' timestamp') := by
  rw [aggregate, aggregate, sharedPercentage_perm h]
  cases sharedPercentage files' with
  | error e => exact .error e
  | ok share =>
    exact .ok ⟨rfl, rfl, h.length_eq, total_perm (h.map _), sumGenerated_perm h, sumHuman_perm h,
      rfl, h⟩

variable {p q : ProjectAnalysis} (h : Reordered p q)
include h

/-- The folders are met in the order of the files, and ranked afterwards. -/
theorem summarizeFolders_reordered : summarizeFolders p = summarizeFolders q := by
  rw [summarizeFolders, summarizeFolders, h.path]
  have hfolders : ((p.files.map fun f => folderOf q.path f.path).eraseDups).Perm
      (q.files.map fun f => folderOf q.path f.path).eraseDups := by
    rw [List.perm_ext_iff_of_nodup (nodup_eraseDups _) (nodup_eraseDups _)]
    intro folder
    rw [List.mem_eraseDups, List.mem_eraseDups]
    exact (h.files.map _).mem_iff
  have hin : ∀ folder, summarizeFolder folder (filesIn q.path p.files folder) =
      summarizeFolder folder (filesIn q.path q.files folder) := fun folder =>
    summarizeFolder_perm (h.files.filter _) folder
  simp only [hin]
  have hagree := Agree.mapM_perm (f := fun folder =>
    summarizeFolder folder (filesIn q.path q.files folder))
    (fun folder e => eq_of_summarizeFolder_eq_error) hfolders
  refine (hagree.bind fun summaries summaries' hsummaries hperm => .ok ?_).eq
  rw [comesBefore_eq, ranking_perm hperm]
  rw [paths_of_summaries hsummaries]
  exact nodup_eraseDups _

/-! ## Tables, verdict and chart -/

namespace Display

theorem generatedTable_reordered (hpaths : (p.files.map fun f => f.path).Nodup)
    (settings : BandSettings) (top : Int) :
    generatedTable settings p top = generatedTable settings q top := by
  rw [generatedTable, generatedTable, ranked_eq, ranked_eq, ranking_perm h.files hpaths]
  simp only [fileTable, h.path]

theorem humanTable_reordered (hpaths : (p.files.map fun f => f.path).Nodup)
    (settings : BandSettings) (top : Int) :
    humanTable settings p top = humanTable settings q top := by
  rw [humanTable, humanTable, ranked_eq, ranked_eq, ranking_perm h.files hpaths]
  simp only [fileTable, h.path]

theorem verdict_reordered (settings : BandSettings) : verdict settings p = verdict settings q := by
  have hpanel : verdictPanel settings p = verdictPanel settings q := by
    unfold verdictPanel
    rw [h.totalFiles, h.analyzedFiles, h.totalLines, h.generatedLines, h.humanLines,
      h.generatedPercentage]
  rw [verdict, verdict, hpanel]

/-- Shares are drawn ascending; equal shares are the same number. -/
theorem distribution_reordered (settings : BandSettings) :
    distribution settings p = distribution settings q := by
  have hys : (p.files.map fun f => f.generatedPercentage).mergeSort (fun a b => decide (a ≤ b)) =
      (q.files.map fun f => f.generatedPercentage).mergeSort (fun a b => decide (a ≤ b)) := by
    refine mergeSort_perm_eq ?_ ?_ (h.files.map _) ?_
    · intro a b c hab hbc
      simp only [decide_eq_true_eq] at *
      omega
    · intro a b
      simp only [Bool.or_eq_true, decide_eq_true_eq]
      omega
    · intro a b _ _ hab hba
      simp only [decide_eq_true_eq] at *
      omega
  simp only [distribution, h.files.length_eq, hys, h.generatedPercentage]

end Display

/-! ## Reports -/

omit h

/-- Two projects of which the same is reported: the totals, the folders, the tables, the verdict and
the distribution. -/
structure ReportedAlike (settings : BandSettings) (top : Int) (p q : ProjectAnalysis) : Prop where
  totalFiles : p.totalFiles = q.totalFiles
  analyzedFiles : p.analyzedFiles = q.analyzedFiles
  totalLines : p.totalLines = q.totalLines
  generatedLines : p.generatedLines = q.generatedLines
  humanLines : p.humanLines = q.humanLines
  generatedPercentage : p.generatedPercentage = q.generatedPercentage
  folders : summarizeFolders p = summarizeFolders q
  generatedTable : Display.generatedTable settings p top = Display.generatedTable settings q top
  humanTable : Display.humanTable settings p top = Display.humanTable settings q top
  folderTable : Display.folderTable settings <$> summarizeFolders p =
    Display.folderTable settings <$> summarizeFolders q
  verdict : Display.verdict settings p = Display.verdict settings q
  distribution : Display.distribution settings p = Display.distribution settings q

theorem Reordered.reportedAlike (h : Reordered p q) (hpaths : (p.files.map fun f => f.path).Nodup)
    (settings : BandSettings) (top : Int) : ReportedAlike settings top p q where
  totalFiles := h.totalFiles
  analyzedFiles := h.analyzedFiles
  totalLines := h.totalLines
  generatedLines := h.generatedLines
  humanLines := h.humanLines
  generatedPercentage := h.generatedPercentage
  folders := summarizeFolders_reordered h
  generatedTable := Display.generatedTable_reordered h hpaths settings top
  humanTable := Display.humanTable_reordered h hpaths settings top
  folderTable := by rw [summarizeFolders_reordered h]
  verdict := Display.verdict_reordered h settings
  distribution := Display.distribution_reordered h settings

/-- Counted files are summarized folder by folder. -/
theorem gives_summarizeFolders (h : ∀ f ∈ p.files, HasCounts f) :
    Gives (summarizeFolders p) fun _ => True := by
  refine Gives.bind (P := fun _ => True) ?_ fun summaries _ => .pure trivial
  refine (Gives.mapM (P := fun _ => True) fun folder _ => ?_).mono fun _ _ => trivial
  have hin : ∀ f ∈ filesIn p.path p.files folder, HasCounts f := fun f hf =>
    h f (List.mem_of_mem_filter hf)
  exact (gives_sharedPercentage hin).bind fun _ _ => .pure trivial

/-- **Reports do not depend on the order of the files**: files of distinct paths in any other order
make up a project of which the same is reported, or fail in the same way; and files whose lines are
counted do not fail. -/
theorem reports_ignore_order {files files' : List FileAnalysis} (hperm : files.Perm files')
    (hpaths : (files.map fun f => f.path).Nodup) (path : String) (totalFiles : Int)
    (skipped skipped' : List SkippedFile) (timestamp timestamp' : Timestamp)
    (settings : BandSettings) (top : Int) :
    Agree (ReportedAlike settings top) (aggregate path totalFiles files skipped timestamp)
        (aggregate path totalFiles files' skipped' timestamp') ∧
      ((∀ f ∈ files, HasCounts f) → ∃ project folders,
        aggregate path totalFiles files skipped timestamp = .ok project ∧
          summarizeFolders project = .ok folders) := by
  constructor
  · refine (aggregate_perm hperm path totalFiles skipped skipped' timestamp timestamp').imp ?_
    intro p q hp h
    obtain ⟨share, _, rfl⟩ := of_aggregate_eq_ok hp
    exact h.reportedAlike hpaths settings top
  · intro h
    obtain ⟨project, he, hfiles, _⟩ := gives_aggregate h path totalFiles skipped timestamp
    obtain ⟨folders, hf, _⟩ := gives_summarizeFolders (hfiles ▸ h)
    exact ⟨project, folders, he, hf⟩

/-- A file of two lines, of which one counts as generated. -/
def halfGenerated (path : String) : FileAnalysis where
  path
  language := "python"
  totalLines := 2
  generatedLines := 1
  humanLines := 1
  commentLines := 0
  emptyLines := 0
  generatedPercentage := 50
  humanPercentage := 50
  confidence := 30
  patterns := []
  shares := rfl
  attributed := rfl

/-- Three files that tie in every ranking and of which a table names two, found in either order. -/
theorem tied_files_reported_alike : ∃ p q folders,
    aggregate "src" 3 (["src/a.py", "src/b.py", "src/lib/c.py"].map halfGenerated) []
      ⟨2000, 1, 1, 0, 0, 0, 0⟩ = .ok p ∧
    aggregate "src" 3 (["src/lib/c.py", "src/b.py", "src/a.py"].map halfGenerated) []
      ⟨2000, 1, 1, 0, 0, 0, 1⟩ = .ok q ∧
    summarizeFolders p = .ok folders ∧ ReportedAlike {} 2 p q := by
  have hperm : (["src/a.py", "src/b.py", "src/lib/c.py"].map halfGenerated).Perm
      (["src/lib/c.py", "src/b.py", "src/a.py"].map halfGenerated) :=
    (List.reverse_perm ["src/lib/c.py", "src/b.py", "src/a.py"]).map halfGenerated
  obtain ⟨hagree, hcounts⟩ := reports_ignore_order hperm (by decide) "src" 3 [] []
    ⟨2000, 1, 1, 0, 0, 0, 0⟩ ⟨2000, 1, 1, 0, 0, 0, 1⟩ {} 2
  obtain ⟨p, folders, hp, hfolders⟩ := hcounts fun f hf => by
    obtain ⟨path, _, rfl⟩ := List.mem_map.1 hf
    exact ⟨Int.one_nonneg, Int.one_nonneg⟩
  rw [hp] at hagree
  obtain ⟨q, hq, h⟩ := hagree.exists_ok
  exact ⟨p, q, folders, hp, hq, hfolders, h⟩

end Provenance

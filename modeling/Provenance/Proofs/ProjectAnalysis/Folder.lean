import Provenance.Proofs.Path
import Provenance.Proofs.Report

/-!
# Proofs — ProjectAnalysis — Folder

The folders of a project. Each file is in one folder, which is seen from the project where it lies
in it (`isFolderOf_iff`); so the folders part the files, and what is summed folder by folder are the
sums of the project (`folders_part_files`). Only a percentage that is too large for a number keeps
folders from being told, and no counts of lines have one.
-/

namespace Provenance

/-! ## The folder of a file -/

/-- The folder that directly holds a file, as it is told in the summaries of a project: a dot for
the folder of the project itself, the way down from there for a folder below it, and the folder as
it is spelled for any other. -/
inductive IsFolderOf (projectPath filePath : String) : String → Prop
  | root (h : (Path.ofString filePath).parent = Path.ofString projectPath) :
    IsFolderOf projectPath filePath "."
  | below {rest : List String} (hrest : rest ≠ [])
    (h : (Path.ofString filePath).parent = (Path.ofString projectPath).append rest) :
    IsFolderOf projectPath filePath (Path.joined rest)
  | outside (h : ∀ rest, (Path.ofString filePath).parent ≠ (Path.ofString projectPath).append rest) :
    IsFolderOf projectPath filePath (Path.ofString filePath).parent.text

theorem Path.text_relative {rest : List String} (h : rest ≠ []) :
    Path.text ⟨"", rest⟩ = Path.joined rest := by
  rw [Path.text, if_neg (by simp [h]), String.empty_append]

/-- Without a project, relative folders are seen as they are spelled, too. -/
theorem folderOf_eq (projectPath filePath : String) :
    folderOf projectPath filePath =
      (((Path.ofString filePath).parent.relativeTo? (Path.ofString projectPath)).getD
        (Path.ofString filePath).parent).text := by
  rw [folderOf]
  split
  · rename_i h
    subst h
    generalize (Path.ofString filePath).parent = parent
    cases hrel : parent.relativeTo? (Path.ofString "") with
    | none => rfl
    | some q =>
      obtain ⟨rest, rfl, rfl⟩ := Path.relativeTo?_eq_some_iff.1 hrel
      rfl
  · rfl

/-- **Each file has one folder**, and it is told there. -/
theorem isFolderOf_iff {projectPath filePath folder : String} :
    IsFolderOf projectPath filePath folder ↔ folderOf projectPath filePath = folder := by
  rw [folderOf_eq]
  constructor
  · intro h
    cases h with
    | root h =>
      have hrest : (Path.ofString filePath).parent = (Path.ofString projectPath).append [] := by
        rw [h, Path.append, List.append_nil]
      rw [Path.relativeTo?_eq_some_iff.2 ⟨[], hrest, rfl⟩]
      rfl
    | below hrest h =>
      rw [Path.relativeTo?_eq_some_iff.2 ⟨_, h, rfl⟩]
      exact Path.text_relative hrest
    | outside h =>
      have hnone :
          (Path.ofString filePath).parent.relativeTo? (Path.ofString projectPath) = none := by
        rw [Option.eq_none_iff_forall_ne_some]
        intro q hq
        obtain ⟨rest, he, _⟩ := Path.relativeTo?_eq_some_iff.1 hq
        exact h rest he
      rw [hnone]
      rfl
  · rintro rfl
    cases hrel : (Path.ofString filePath).parent.relativeTo? (Path.ofString projectPath) with
    | none =>
      refine .outside fun rest he => ?_
      rw [Path.relativeTo?_eq_some_iff.2 ⟨rest, he, rfl⟩] at hrel
      cases hrel
    | some q =>
      obtain ⟨rest, he, rfl⟩ := Path.relativeTo?_eq_some_iff.1 hrel
      by_cases hrest : rest = []
      · subst hrest
        rw [Path.append, List.append_nil] at he
        exact .root he
      · rw [Option.getD_some, Path.text_relative hrest]
        exact .below hrest he

instance (projectPath filePath folder : String) :
    Decidable (IsFolderOf projectPath filePath folder) :=
  decidable_of_iff _ isFolderOf_iff.symm

/-! ## Summaries -/

/-- The files that a folder directly holds. -/
def heldIn (project : ProjectAnalysis) (folder : String) : List FileAnalysis :=
  project.files.filter fun a => decide (IsFolderOf project.path a.path folder)

/-- The folders that directly hold files, in the order of the files. -/
def foldersOf (project : ProjectAnalysis) : List String :=
  (project.files.map fun a => folderOf project.path a.path).eraseDups

section Summaries

variable {project : ProjectAnalysis} {folder : String}

theorem heldIn_eq : heldIn project folder =
    project.files.filter fun a => decide (folderOf project.path a.path = folder) :=
  List.filter_congr fun _ _ => decide_eq_decide.2 isFolderOf_iff

theorem filesIn_eq : filesIn project.path project.files folder = heldIn project folder := by
  rw [heldIn_eq, filesIn]
  refine List.filter_congr fun a _ => ?_
  rw [Bool.eq_iff_iff, beq_iff_eq, decide_eq_true_eq]

theorem mem_foldersOf :
    folder ∈ foldersOf project ↔ ∃ a ∈ project.files, folderOf project.path a.path = folder := by
  rw [foldersOf, List.mem_eraseDups, List.mem_map]

theorem folderOf_mem_foldersOf {a : FileAnalysis} (h : a ∈ project.files) :
    folderOf project.path a.path ∈ foldersOf project := by
  rw [mem_foldersOf]
  exact ⟨a, h, rfl⟩

theorem nodup_foldersOf (project : ProjectAnalysis) : (foldersOf project).Nodup :=
  nodup_eraseDups _

theorem heldIn_ne_nil (h : folder ∈ foldersOf project) : heldIn project folder ≠ [] := by
  obtain ⟨a, ha, he⟩ := mem_foldersOf.1 h
  rw [heldIn_eq]
  exact List.ne_nil_of_mem (List.mem_filter.2 ⟨ha, decide_eq_true he⟩)

/-- What is summed folder by folder is summed over the files. -/
theorem total_foldersOf (value : FileAnalysis → Int) :
    total ((foldersOf project).map fun folder => total ((heldIn project folder).map value)) =
      total (project.files.map value) := by
  simp only [heldIn_eq]
  exact total_keys (nodup_foldersOf project) (fun a : FileAnalysis => folderOf project.path a.path)
    value fun a => folderOf_mem_foldersOf

/-- Files are counted by ones. -/
theorem total_ones (files : List FileAnalysis) :
    total (files.map fun _ => (1 : Int)) = files.length := by
  induction files with
  | nil => rfl
  | cons a files ih =>
    rw [List.map_cons, total_cons, ih, List.length_cons]
    omega

/-- Each folder is summarized, and the summaries are ranked. -/
theorem summarizeFolders_eq : summarizeFolders project =
    (foldersOf project).mapM (fun folder => summarizeFolder folder (heldIn project folder)) >>=
      fun summaries => .ok (summaries.mergeSort FolderSummary.comesBefore) := by
  simp only [← filesIn_eq]
  rfl

end Summaries

/-- A summary of files: how many there are, their lines, and the share of generated lines. -/
structure IsSummaryOf (files : List FileAnalysis) (s : FolderSummary) : Prop where
  files_eq : s.files = files.length
  generatedLines_eq : s.generatedLines = sumGenerated files
  humanLines_eq : s.humanLines = sumHuman files
  percentage_eq : countPercentage s.generatedLines (s.generatedLines + s.humanLines) =
    .ok s.generatedPercentage

/-- The summary of a folder is one of its files. -/
theorem isSummaryOf_summarizeFolder {folder : String} {files : List FileAnalysis}
    {s : FolderSummary} (h : summarizeFolder folder files = .ok s) :
    s.path = folder ∧ IsSummaryOf files s := by
  obtain ⟨share, hshare, rfl⟩ := of_summarizeFolder_eq_ok h
  exact ⟨rfl, rfl, rfl, rfl, hshare⟩

/-- Folders that part the files of a project: each file is in one of them, each of them sums up the
files that it holds, and together they have the sums of the project. The most generated folder
stands first, and of equally generated ones the first by path. -/
structure PartFiles (project : ProjectAnalysis) (folders : List FolderSummary) : Prop where
  paths_nodup : (folders.map fun s => s.path).Nodup
  folder_of_file : ∀ a ∈ project.files, ∃ s ∈ folders, IsFolderOf project.path a.path s.path ∧
    ∀ t ∈ folders, IsFolderOf project.path a.path t.path → t = s
  summary : ∀ s ∈ folders, heldIn project s.path ≠ [] ∧ IsSummaryOf (heldIn project s.path) s
  files_total : total (folders.map fun s => (s.files : Int)) = project.files.length
  generatedLines_total : total (folders.map fun s => s.generatedLines) = project.generatedLines
  humanLines_total : total (folders.map fun s => s.humanLines) = project.humanLines
  ranked : folders.Pairwise fun s t => t.generatedPercentage < s.generatedPercentage ∨
    s.generatedPercentage = t.generatedPercentage ∧ s.path < t.path

/-- Distinct paths are ranked strictly. -/
theorem pairwise_ranked {summaries : List FolderSummary}
    (h : (summaries.map fun s => s.path).Nodup) :
    (summaries.mergeSort FolderSummary.comesBefore).Pairwise fun s t =>
      t.generatedPercentage < s.generatedPercentage ∨
        s.generatedPercentage = t.generatedPercentage ∧ s.path < t.path := by
  have hsorted : (summaries.mergeSort FolderSummary.comesBefore).Pairwise fun s t =>
      FolderSummary.comesBefore s t :=
    List.pairwise_mergeSort ranksBefore_trans ranksBefore_total summaries
  have hpaths : ((summaries.mergeSort FolderSummary.comesBefore).map fun s => s.path).Nodup :=
    ((List.mergeSort_perm _ _).map _).nodup_iff.2 h
  refine (hsorted.and (List.pairwise_map.1 hpaths)).imp ?_
  rintro s t ⟨hrank, hne⟩
  rcases ranksBefore_iff.1 hrank with hlt | ⟨heq, hle⟩
  · exact .inl hlt
  · refine .inr ⟨heq, ?_⟩
    by_contra hnot
    exact hne (String.le_antisymm hle (String.not_lt.1 hnot))

section Folders

variable {project : ProjectAnalysis} {folders : List FolderSummary}
  (h : summarizeFolders project = .ok folders)
include h

theorem of_summarizeFolders_eq_ok : ∃ summaries,
    (foldersOf project).mapM (fun folder => summarizeFolder folder (heldIn project folder)) =
        .ok summaries ∧
      folders = summaries.mergeSort FolderSummary.comesBefore := by
  rw [summarizeFolders_eq] at h
  obtain ⟨summaries, hsummaries, he⟩ := of_bind_eq_ok h
  cases he
  exact ⟨summaries, hsummaries, rfl⟩

/-- A summary is told of a folder that holds files, and sums them up. -/
theorem isSummaryOf_of_mem {s : FolderSummary} (hs : s ∈ folders) :
    s.path ∈ foldersOf project ∧ IsSummaryOf (heldIn project s.path) s := by
  obtain ⟨summaries, hsummaries, rfl⟩ := of_summarizeFolders_eq_ok h
  obtain ⟨folder, hfolder, he⟩ := exists_of_mem_mapM hsummaries (List.mem_mergeSort.1 hs)
  obtain ⟨rfl, hsum⟩ := isSummaryOf_summarizeFolder he
  exact ⟨hfolder, hsum⟩

/-- A figure that each summary takes over its files adds up to that figure of all files. -/
theorem total_of_summaries {figure : FolderSummary → Int} (value : FileAnalysis → Int)
    (hfigure : ∀ files s, IsSummaryOf files s → figure s = total (files.map value)) :
    total (folders.map figure) = total (project.files.map value) := by
  obtain ⟨summaries, hsummaries, rfl⟩ := of_summarizeFolders_eq_ok h
  have hperm := List.mergeSort_perm summaries FolderSummary.comesBefore
  rw [total_perm (hperm.map figure), ← total_foldersOf value]
  rw [map_eq_of_mapM (fun folder s hs => ?_) hsummaries]
  exact hfigure _ s (isSummaryOf_summarizeFolder hs).2

/-- **The summaries of all folders part the files.** -/
theorem partFiles_of_summarizeFolders
    (hgenerated : project.generatedLines = sumGenerated project.files)
    (hhuman : project.humanLines = sumHuman project.files) : PartFiles project folders := by
  obtain ⟨summaries, hsummaries, hsorted⟩ := of_summarizeFolders_eq_ok h
  have hperm : folders.Perm summaries := hsorted ▸ List.mergeSort_perm _ _
  have hpaths : summaries.map (fun s => s.path) = foldersOf project := paths_of_summaries hsummaries
  have hnodup : (summaries.map fun s => s.path).Nodup := hpaths ▸ nodup_foldersOf project
  constructor
  · exact (hperm.map _).nodup_iff.2 hnodup
  · intro a ha
    have hfolder : folderOf project.path a.path ∈ summaries.map fun s => s.path :=
      hpaths ▸ folderOf_mem_foldersOf ha
    obtain ⟨s, hs, he⟩ := List.mem_map.1 hfolder
    refine ⟨s, hperm.mem_iff.2 hs, isFolderOf_iff.2 he.symm, fun t ht htfolder => ?_⟩
    exact List.inj_on_of_nodup_map hnodup (hperm.mem_iff.1 ht) hs
      ((isFolderOf_iff.1 htfolder).symm.trans he.symm)
  · intro s hs
    obtain ⟨hfolder, hsum⟩ := isSummaryOf_of_mem h hs
    exact ⟨heldIn_ne_nil hfolder, hsum⟩
  · rw [total_of_summaries h (fun _ => 1) fun files s hs => ?_, total_ones]
    rw [total_ones, hs.files_eq]
  · rw [total_of_summaries h (fun a => a.generatedLines) fun files s hs => hs.generatedLines_eq,
      hgenerated]
    rfl
  · rw [total_of_summaries h (fun a => a.humanLines) fun files s hs => hs.humanLines_eq, hhuman]
    rfl
  · rw [hsorted]
    exact pairwise_ranked hnodup

end Folders

/-- Folders are not summarized where the percentage of one of them is too large, and only there. A
folder like that holds a file with a negative count. -/
structure Overflows (project : ProjectAnalysis) : Prop where
  fails : summarizeFolders project = .error (.number .quotientTooLarge)
  folder : ∃ a ∈ project.files, ∃ folder, IsFolderOf project.path a.path folder ∧
    sharedPercentage (heldIn project folder) = .error (.number .quotientTooLarge) ∧
      ∃ b ∈ heldIn project folder, ¬HasCounts b

theorem overflows_of_error {project : ProjectAnalysis} {fault : Fault}
    (h : summarizeFolders project = .error fault) : Overflows project := by
  have hfails := h
  rw [summarizeFolders_eq] at h
  rcases of_bind_eq_error h with hsummaries | ⟨summaries, _, he⟩
  · obtain ⟨folder, hfolder, hfault⟩ := exists_of_mapM_eq_error hsummaries
    obtain rfl := eq_of_summarizeFolder_eq_error hfault
    have hshare : sharedPercentage (heldIn project folder) = .error (.number .quotientTooLarge) := by
      rcases of_bind_eq_error hfault with hshare | ⟨share, _, he⟩
      · exact hshare
      · cases he
    obtain ⟨a, ha, he⟩ := mem_foldersOf.1 hfolder
    refine ⟨hfails, a, ha, folder, isFolderOf_iff.2 he, hshare, ?_⟩
    by_contra hnone
    obtain ⟨share, hok, _⟩ := gives_sharedPercentage fun b hb => by
      by_contra hb'
      exact hnone ⟨b, hb, hb'⟩
    rw [hshare] at hok
    cases hok
  · cases he

/-- **The folders of a project part its files**: each file is in one folder, and the summaries of
the folders add up to the project. No folders are told only where the percentage of one is too
large, which takes a file with a negative count. -/
theorem folders_part_files {path : String} {totalFiles : Int} {files : List FileAnalysis}
    {skipped : List SkippedFile} {timestamp : Timestamp} {project : ProjectAnalysis}
    (h : aggregate path totalFiles files skipped timestamp = .ok project) :
    (∃ folders, summarizeFolders project = .ok folders ∧ PartFiles project folders) ∨
      Overflows project := by
  obtain ⟨share, _, rfl⟩ := of_aggregate_eq_ok h
  cases hfolders : summarizeFolders _ with
  | error fault => exact .inr (overflows_of_error hfolders)
  | ok folders => exact .inl ⟨folders, rfl, partFiles_of_summarizeFolders hfolders rfl rfl⟩

/-- A file of a project itself, two in a folder of it, one in a folder below that, and one more from
elsewhere. -/
def sourceFiles : List FileAnalysis :=
  ["src/main.py", "src/lib/a.py", "src/lib/b.py", "src/lib/io/a.py", "etc/a.py"].map halfGenerated

theorem sourceFiles_in_folders : ∃ project folders,
    aggregate "src" 5 sourceFiles [] ⟨2000, 1, 1, 0, 0, 0, 0⟩ = .ok project ∧
    summarizeFolders project = .ok folders ∧ PartFiles project folders ∧
    IsFolderOf "src" "src/main.py" "." ∧ IsFolderOf "src" "src/lib/io/a.py" "lib/io" ∧
    IsFolderOf "src" "etc/a.py" "etc" := by
  have hcounts : ∀ a ∈ sourceFiles, HasCounts a := by
    intro a ha
    obtain ⟨path, _, rfl⟩ := List.mem_map.1 ha
    exact ⟨Int.one_nonneg, Int.one_nonneg⟩
  obtain ⟨project, hproject, hfiles, _⟩ :=
    gives_aggregate hcounts "src" 5 [] ⟨2000, 1, 1, 0, 0, 0, 0⟩
  rcases folders_part_files hproject with ⟨folders, hfolders, hparts⟩ | hoverflows
  · exact ⟨project, folders, hproject, hfolders, hparts, by decide +kernel, by decide +kernel,
      by decide +kernel⟩
  · -- files whose lines are counted do not overflow
    obtain ⟨_, _, _, _, _, b, hb, hnot⟩ := hoverflows.folder
    exact absurd (hcounts b (hfiles ▸ List.mem_of_mem_filter hb)) hnot

/-- A text of which some lines are told to be generated, the others to be human. -/
def counted (path : String) (generated human percentage : Int) : FileAnalysis where
  path
  language := "text"
  totalLines := generated + human
  generatedLines := generated
  humanLines := human
  commentLines := 0
  emptyLines := 0
  generatedPercentage := percentage
  humanPercentage := 100 - percentage
  confidence := 0
  patterns := []
  shares := by omega
  attributed := by omega

/-- More lines than there are numbers for. -/
def countless : Int := Nat.pow 10 309

/-- Two files in two folders, of one line and of none: the generated lines that the first one has
too many, the second one has too few. -/
def overdrawnFiles : List FileAnalysis :=
  [counted "a/x.py" countless (1 - countless) 0, counted "b/y.py" (-countless) countless 0]

/-- **Negative counts keep a project from being summarized.** The two files make up a project of one
human line, but the share of the first folder is above all numbers. -/
theorem overdrawn_files_not_summarized :
    ¬∀ (path : String) (totalFiles : Int) (files : List FileAnalysis) (skipped : List SkippedFile)
      (timestamp : Timestamp) (project : ProjectAnalysis),
      aggregate path totalFiles files skipped timestamp = .ok project →
        ∃ folders, summarizeFolders project = .ok folders ∧ PartFiles project folders := by
  intro h
  have hproject : aggregate "" 2 overdrawnFiles [] ⟨2000, 1, 1, 0, 0, 0, 0⟩ =
      .ok ⟨"", 2, 2, 1, 0, 1, 0, overdrawnFiles, [], ⟨2000, 1, 1, 0, 0, 0, 0⟩⟩ := by
    decide +kernel
  obtain ⟨folders, hfolders, _⟩ := h _ _ _ _ _ _ hproject
  have hfails : summarizeFolders
      ⟨"", 2, 2, 1, 0, 1, 0, overdrawnFiles, [], ⟨2000, 1, 1, 0, 0, 0, 0⟩⟩ =
      .error (.number .quotientTooLarge) := by
    decide +kernel
  rw [hfails] at hfolders
  cases hfolders

end Provenance

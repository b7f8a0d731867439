import Provenance.Proofs.Discovery
import Provenance.Proofs.Outcome
import Provenance.Workspace

/-!
# Proofs — Workspace

The analysis of one file and the pass over a project come by different ways to the content of a
file, to the path that its analysis is kept under, and to the words in which a failure is told. They
agree on every file that is discovered (`file_agrees_with_project`).
-/

namespace Provenance

open Provenance.Path

/-! ## Loading -/

/-- Content is refused as unreadable or as not supported. -/
theorem reason_of_source {path : String} {content : Content} {failure : Failure}
    (h : content.source path = .error failure) (job : String) :
    (ProviderFailure.known failure).reason job = failure.message := by
  cases content with
  | text cs =>
    rw [Content.source] at h
    split at h
    · cases h
      rfl
    · cases h
  | bytes bs =>
    rw [Content.source] at h
    split at h
    · cases h
      rfl
    · split at h
      · cases h
        rfl
      · cases h

/-- A failure to load a file speaks for itself: a pass tells it in its own words. -/
theorem reason_of_load {disk : Disk} {path : String} {maxSize : Int} {failure : Failure}
    (h : disk.load path maxSize = .error failure) (job : String) :
    (ProviderFailure.known failure).reason job = failure.message := by
  rw [Disk.load] at h
  split at h
  · cases h
    rfl
  · split at h
    · cases h
      rfl
    · cases h
      rfl
  · split at h
    · cases h
      rfl
    · exact reason_of_source h job

namespace Workspace

variable {settings : Settings} {disk : Disk}

/-- The key of an absolute path is its spelling. -/
theorem key_text (disk : Disk) {path : Path} (h : path.IsAbsolute) :
    key disk path.text = path.text := by
  rw [key, Disk.resolve, ofString_text h, resolve_eq h]

/-- The job of a file on disk. -/
def job (disk : Disk) (settings : Settings) (path : Path) : Job where
  path := path.text
  provided :=
    ((disk.load path.text (settings.discovery.maxFileSize.val : Nat)).mapError .known).map .text

theorem jobs_eq (disk : Disk) (settings : Settings) (paths : List Path) :
    jobs disk settings paths = paths.map (job disk settings) := rfl

/-- The analysis of a file by a workspace that keeps nothing. -/
def analyzeAlone (settings : Settings) (disk : Disk) (path : String) :
    Except AnalysisError FileAnalysis :=
  (analyzeFile ⟨settings, .empty, none⟩ disk path none false).1

section Ways

variable {path : Path} (h : path.IsAbsolute)
include h

/-- By itself a file is loaded, and its text is analysed. -/
theorem analyzeAlone_eq (settings : Settings) (disk : Disk) :
    analyzeAlone settings disk path.text =
      (disk.load path.text (settings.discovery.maxFileSize.val : Nat)).mapError .failure >>=
        fun cs => Provenance.analyzeFile settings path.text (.text cs) := by
  rw [analyzeAlone, analyzeFile, key_text disk h]
  show (analyzeAnew ⟨settings, .empty, none⟩ disk path.text none).1 = _
  rw [analyzeAnew, contentOf]
  dsimp only
  cases disk.load path.text (settings.discovery.maxFileSize.val : Nat) with
  | error failure => rfl
  | ok cs =>
    rw [Except.map]
    dsimp only
    cases ha : Provenance.analyzeFile settings path.text (.text cs) with
    | ok a => exact ha.symm
    | error e => exact ha.symm

/-- **Both ways come to the same end**: a readable file has one analysis, and any other is refused
with one reason. -/
theorem analyzeFile_agrees (settings : Settings) (disk : Disk) :
    (∃ a, analyzeAlone settings disk path.text = .ok a ∧
      (job disk settings path).analysis? settings = some (.ok a) ∧
      (job disk settings path).skipped? = none) ∨
    ∃ failure, analyzeAlone settings disk path.text =
        .error (.failure failure) ∧
      (job disk settings path).analysis? settings = none ∧
      (job disk settings path).skipped? = some ⟨path.text, failure.message⟩ := by
  rw [analyzeAlone_eq h]
  cases hload : disk.load path.text (settings.discovery.maxFileSize.val : Nat) with
  | error failure =>
    -- the provider fails with what the single file is refused with
    right
    have hjob : (job disk settings path).content = .error failure.message := by
      rw [Job.content, job, hload, ← reason_of_load hload path.text]
      rfl
    rw [Job.analysis?, Job.skipped?, hjob]
    exact ⟨failure, rfl, rfl, rfl⟩
  | ok cs =>
    have hjob : (job disk settings path).content =
        (((Content.text cs).source path.text).mapError Failure.message).map fun _ => .text cs :=
      Job.content_of_provided (by rw [job, hload]; rfl)
    rw [Job.analysis?, Job.skipped?, hjob]
    cases hsource : (Content.text cs).source path.text with
    | error failure => exact .inr ⟨failure, analyzeFile_eq_error settings hsource, rfl, rfl⟩
    | ok source =>
      obtain ⟨a, ha, _⟩ := gives_analyzeFile settings hsource
      exact .inl ⟨a, ha, congrArg some ha, rfl⟩

end Ways

/-! ## Passes -/

/-- Of the jobs of different files one is that of a file. -/
theorem filter_jobs {paths : List Path} (hnodup : paths.Nodup)
    (habsolute : ∀ path ∈ paths, path.IsAbsolute) {path : Path} (hmem : path ∈ paths) :
    ((jobs disk settings paths).filter fun j => j.path = path.text) = [job disk settings path] := by
  have hone : (paths.filter fun p => p.text = path.text) = [path] := by
    have hcongr : (paths.filter fun p => p.text = path.text) =
        paths.filter fun p => decide (p = path) := by
      refine List.filter_congr fun p hp => ?_
      rw [decide_eq_decide]
      exact ⟨text_injective (habsolute p hp) (habsolute path hmem), fun he => by rw [he]⟩
    rw [hcongr, List.filter_eq, List.count_eq_one_of_mem hnodup hmem]
    rfl
  rw [jobs_eq, List.filter_map]
  show (paths.filter fun p => p.text = path.text).map (job disk settings) = _
  rw [hone]
  rfl

end Workspace

/-- What is told of a file is found by its path. -/
theorem filter_told {β : Type} {told : Job → Option β} {pathOf : β → String}
    (h : ∀ job b, told job = some b → pathOf b = job.path) (jobs : List Job) (path : String) :
    ((jobs.filterMap told).filter fun b => pathOf b = path) =
      (jobs.filter fun job => job.path = path).filterMap told := by
  rw [List.filter_filterMap, List.filterMap_filter]
  refine List.filterMap_congr fun job _ => ?_
  cases htold : told job with
  | none => simp
  | some b =>
    rw [← h job b htold]
    by_cases hpath : pathOf b = path
    · simp [hpath]
    · simp [hpath]

theorem path_of_analysis? {settings : Settings} {job : Job} {a : FileAnalysis}
    (h : (job.analysis? settings).bind Except.toOption = some a) : a.path = job.path := by
  rw [Job.analysis?] at h
  cases hcontent : job.content with
  | error reason =>
    rw [hcontent] at h
    cases h
  | ok content =>
    rw [hcontent] at h
    have h : (analyzeFile settings job.path content).toOption = some a := h
    cases ha : analyzeFile settings job.path content with
    | error e =>
      rw [ha] at h
      cases h
    | ok a' =>
      rw [ha] at h
      cases h
      exact path_of_analyzeFile ha

theorem path_of_skipped? {job : Job} {s : SkippedFile} (h : job.skipped? = some s) :
    s.path = job.path := by
  rw [Job.skipped?] at h
  split at h
  · cases h
  · cases h
    rfl

/-- A project tells of the file at a path what the file has by itself: its analysis, or the message
of its failure. It is told of once, in one of the two lists. -/
inductive TellsAs (project : ProjectAnalysis) (path : String) :
    Except AnalysisError FileAnalysis → Prop
  | analyzed {a : FileAnalysis} (hfile : (project.files.filter fun f => f.path = path) = [a])
    (hskipped : (project.skipped.filter fun s => s.path = path) = []) :
    TellsAs project path (.ok a)
  | skipped {failure : Failure} (hfile : (project.files.filter fun f => f.path = path) = [])
    (hskipped : (project.skipped.filter fun s => s.path = path) = [⟨path, failure.message⟩]) :
    TellsAs project path (.error (.failure failure))

theorem Tells.tellsAs {settings : Settings} {disk : Disk} {paths : List Path}
    {project : ProjectAnalysis} (h : Tells settings (Workspace.jobs disk settings paths) project)
    (hnodup : paths.Nodup) (habsolute : ∀ path ∈ paths, path.IsAbsolute) {path : Path}
    (hmem : path ∈ paths) :
    TellsAs project path.text (Workspace.analyzeAlone settings disk path.text) := by
  have hfiles : (project.files.filter fun f => f.path = path.text) =
      ((Workspace.job disk settings path).analysis? settings).toList.filterMap
        Except.toOption := by
    rw [h.files_eq, filter_told fun _ _ => path_of_analysis?,
      Workspace.filter_jobs hnodup habsolute hmem, filterMap_cons_eq]
    cases (Workspace.job disk settings path).analysis? settings with
    | none => rfl
    | some result => cases result <;> rfl
  have hskipped : (project.skipped.filter fun s => s.path = path.text) =
      (Workspace.job disk settings path).skipped?.toList := by
    rw [h.reasons, filter_told fun _ _ => path_of_skipped?,
      Workspace.filter_jobs hnodup habsolute hmem, filterMap_cons_eq]
    exact List.append_nil _
  have hagrees := Workspace.analyzeFile_agrees (habsolute path hmem) settings disk
  generalize Workspace.analyzeAlone settings disk path.text = result at hagrees ⊢
  rcases hagrees with ⟨a, rfl, hanalysis, hnone⟩ | ⟨failure, rfl, hnone, hsome⟩
  · rw [hanalysis] at hfiles
    rw [hnone] at hskipped
    exact .analyzed hfiles hskipped
  · rw [hnone] at hfiles
    rw [hsome] at hskipped
    exact .skipped hfiles hskipped

theorem jobs_do_not_cancel (disk : Disk) (settings : Settings) (paths : List Path) :
    ∀ job ∈ Workspace.jobs disk settings paths, job.cancels = false := by
  intro job hjob
  obtain ⟨path, _, rfl⟩ := List.mem_map.1 hjob
  rfl

/-- A workspace answers with the result of the pass over the files that are discovered. -/
theorem Workspace.analyzeProject_of_jobs (w : Workspace) {control : VersionControl} {disk : Disk}
    {root : String} {timestamp : Timestamp} {project : ProjectAnalysis}
    (h : Provenance.analyzeProject w.settings (key disk root) timestamp false
      (jobs disk w.settings (discover control disk w.settings.discovery root)) = .ok project) :
    (w.analyzeProject control disk root .never timestamp).1 = .ok (some project) := by
  have hnever : Cancellation.never.atStart = false := rfl
  have hunmarked : ∀ jobs, Cancellation.never.mark jobs = jobs := fun _ => rfl
  rw [analyzeProject, hnever, hunmarked, h]

/-- **The analysis of one file agrees with the pass over the project.** In a proper tree, of which
version control lists paths or nothing, a pass over the files that are discovered has a result,
which tells of each of them what the file has by itself, once, and of nothing else. Workers that
share the pass come to the same result. -/
theorem file_agrees_with_project (w : Workspace) {control : VersionControl} {disk : Disk}
    (h : disk.root.IsProper) (hcontrol : control.ListsPaths disk.root) (root : String)
    (timestamp : Timestamp) :
    let paths := discover control disk w.settings.discovery root
    ∃ project, (w.analyzeProject control disk root .never timestamp).1 = .ok (some project) ∧
      (∀ path ∈ paths,
        TellsAs project path.text (Workspace.analyzeAlone w.settings disk path.text)) ∧
      project.files.length + project.skipped.length = paths.length ∧
      WorkersComeTo w.settings (Workspace.jobs disk w.settings paths) (Workspace.key disk root)
        timestamp project := by
  intro paths
  obtain ⟨hnodup, habsolute⟩ := discover_lists h hcontrol w.settings.discovery root
  have hcancels := jobs_do_not_cancel disk w.settings paths
  obtain ⟨project, hproject, htells⟩ :=
    gives_tells w.settings (Workspace.key disk root) timestamp hcancels
  have htold : ∀ path ∈ paths,
      TellsAs project path.text (Workspace.analyzeAlone w.settings disk path.text) :=
    fun _ hpath => htells.tellsAs hnodup habsolute hpath
  have hlength : project.files.length + project.skipped.length = paths.length := by
    rw [← htells.analyzedFiles, htells.complete]
    exact List.length_map _
  exact ⟨project, w.analyzeProject_of_jobs hproject, htold, hlength,
    workersComeTo hcancels hproject⟩

/-! ## A repository with a text and a binary file -/

def smallDisk : Disk where
  root := .folder "work"
    (.file "a.py" [120, 61, 49]
      (.folder "lib" (.file "b.py" [0] .empty)
        (.folder ".git"
          (.file "HEAD" "ref: refs/heads/main\n".toUTF8.toList
            (.folder "objects" .empty (.folder "refs" .empty .empty))) .empty))) .empty
  cwd := ⟨"/", ["work"]⟩

/-- Both files are listed for the folder that the repository is in. -/
def smallControl : VersionControl where
  hasRepository _ folder := ["work"].isPrefixOf folder
  listing? _ folder := if folder = ["work"] then some "a.py\x00lib/b.py\x00" else none

def pythonFiles : Settings :=
  { Settings.standard with
    discovery :=
      { Settings.standard.discovery with includeExtensions := [".py"], excludePatterns := [] } }

theorem isProper_smallDisk : smallDisk.root.IsProper :=
  have hlib : (Tree.file "b.py" [0] .empty).IsProper := .file (by decide) List.not_mem_nil .empty
  have hgit := Tree.IsProper.file (by decide) (by decide)
    (.folder (by decide) (by decide) .empty (.folder (by decide) List.not_mem_nil .empty .empty))
  .folder (by decide) List.not_mem_nil
    (.file (by decide) (by decide)
      (.folder (by decide) (by decide) hlib (.folder (by decide) List.not_mem_nil hgit .empty)))
    .empty

theorem listedFiles_small : listedFiles "a.py\x00lib/b.py\x00" = ["a.py", "lib/b.py"] := by
  have hsplit : ((("a.py\x00lib/b.py\x00".toList.splitOn '\x00').map String.ofList).filter
      fun file => file != "").eraseDups = ["a.py", "lib/b.py"] := by decide +kernel
  rw [listedFiles]
  rw [hsplit]
  exact List.mergeSort_of_pairwise (by decide)

theorem listsPaths_smallControl : smallControl.ListsPaths smallDisk.root := by
  intro folder listing hlisting file hfile
  rw [smallControl] at hlisting
  dsimp only at hlisting
  split at hlisting
  · cases hlisting
    rw [listedFiles_small] at hfile
    rcases List.mem_cons.1 hfile with rfl | hfile
    · exact .file (show AreNames ["a.py"] by decide)
    · obtain rfl := List.mem_singleton.1 hfile
      exact .file (show AreNames ["lib", "b.py"] by decide)
  · cases hlisting

theorem discover_smallDisk : discover smallControl smallDisk pythonFiles.discovery "." =
    [⟨"/", ["work", "a.py"]⟩, ⟨"/", ["work", "lib", "b.py"]⟩] := by
  have hroot : smallDisk.resolve "." = ⟨"/", ["work"]⟩ := by decide +kernel
  have hconsidered : consideredFiles smallControl smallDisk.root ["work"] =
      ["a.py", "lib/b.py"] := by
    rw [consideredFiles]
    show listedFiles _ = _
    exact listedFiles_small
  rw [discover, hroot]
  dsimp only
  rw [hconsidered]
  decide +kernel

theorem smallDisk_agrees :
    smallDisk.root.IsProper ∧ smallControl.ListsPaths smallDisk.root ∧ ∃ project,
    (Workspace.analyzeProject ⟨pythonFiles, .empty, none⟩ smallControl smallDisk "." .never
      ⟨2000, 1, 1, 0, 0, 0, 0⟩).1 = .ok (some project) ∧
    (∃ a, Workspace.analyzeAlone pythonFiles smallDisk "/work/a.py" = .ok a ∧
      (project.files.filter fun f => f.path = "/work/a.py") = [a]) ∧
    (project.skipped.filter fun s => s.path = "/work/lib/b.py") =
      [⟨"/work/lib/b.py", "Input '/work/lib/b.py' is unreadable: binary content"⟩] := by
  obtain ⟨project, hproject, htells, _⟩ := file_agrees_with_project ⟨pythonFiles, .empty, none⟩
    isProper_smallDisk listsPaths_smallControl "." ⟨2000, 1, 1, 0, 0, 0, 0⟩
  dsimp only at htells
  rw [discover_smallDisk] at htells
  have htext : TellsAs project "/work/a.py"
      (Workspace.analyzeAlone pythonFiles smallDisk "/work/a.py") :=
    htells ⟨"/", ["work", "a.py"]⟩ (by decide)
  have hbinary : TellsAs project "/work/lib/b.py"
      (Workspace.analyzeAlone pythonFiles smallDisk "/work/lib/b.py") :=
    htells ⟨"/", ["work", "lib", "b.py"]⟩ (by decide)
  refine ⟨isProper_smallDisk, listsPaths_smallControl, project, hproject, ?_, ?_⟩
  · obtain ⟨a, ha, _⟩ := gives_analyzeFile pythonFiles
      (show (Content.text ['x', '=', '1']).source "/work/a.py" = .ok ['x', '=', '1'] from rfl)
    have hpath : IsAbsolute ⟨"/", ["work", "a.py"]⟩ := ⟨rfl, by decide⟩
    have hload : smallDisk.load (Path.text ⟨"/", ["work", "a.py"]⟩)
        (pythonFiles.discovery.maxFileSize.val : Nat) = .ok ['x', '=', '1'] := by decide +kernel
    have hfile : Workspace.analyzeAlone pythonFiles smallDisk "/work/a.py" = .ok a := by
      rw [← ha]
      exact (Workspace.analyzeAlone_eq hpath pythonFiles smallDisk).trans (by rw [hload]; rfl)
    rw [hfile] at htext
    cases htext with
    | analyzed hfiles _ => exact ⟨a, hfile, hfiles⟩
  · have hfile : Workspace.analyzeAlone pythonFiles smallDisk "/work/lib/b.py" =
      .error (.failure (.unsupported "/work/lib/b.py" Failure.binaryContent)) := rfl
    rw [hfile] at hbinary
    cases hbinary with
    | skipped _ hskipped => exact hskipped

end Provenance

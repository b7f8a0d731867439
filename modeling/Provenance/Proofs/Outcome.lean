import Provenance.Proofs.Pool.Progress

/-!
# Proofs — Outcome

What a pass tells of its files. A file whose provider gives a source text is analysed, and any other
is skipped with a reason; each stands in one of the two lists, in the order of the files, and says
nothing of its neighbours (`pass_tells_every_file`). The result is the same when workers share the
pass.
-/

namespace Provenance

variable {settings : Settings}

/-! ## Readable files -/

/-- The content that a file is analysed by, or why the file is skipped: its provider failed, or what
the provider gave is no source text. -/
def Job.content (job : Job) : Except String Content :=
  match job.provided with
  | .error failure => .error (failure.reason job.path)
  | .ok content =>
    match content.source job.path with
    | .ok _ => .ok content
    | .error failure => .error failure.message

theorem Job.content_of_provided {job : Job} {content : Content} (h : job.provided = .ok content) :
    job.content = ((content.source job.path).mapError Failure.message).map fun _ => content := by
  rw [Job.content, h]
  dsimp only
  cases content.source job.path <;> rfl

def Job.isReadable (job : Job) : Bool := job.content.isOk

/-- The analysis of a file that is readable. -/
def Job.analysis? (settings : Settings) (job : Job) : Option (Except AnalysisError FileAnalysis) :=
  job.content.toOption.map (analyzeFile settings job.path)

/-- How a file is told of that is not readable. -/
def Job.skipped? (job : Job) : Option SkippedFile :=
  match job.content with
  | .ok _ => none
  | .error reason => some ⟨job.path, reason⟩

/-- A file is analysed or skipped, as its content says. -/
theorem outcome_of_content (settings : Settings) (job : Job) :
    (∃ content a, job.content = .ok content ∧ analyzeFile settings job.path content = .ok a ∧
      job.outcome settings = .ok (.analyzed a)) ∨
    ∃ reason, job.content = .error reason ∧
      job.outcome settings = .ok (.skipped ⟨job.path, reason⟩) := by
  rw [Job.content, Job.outcome]
  cases job.provided with
  | error failure => exact .inr ⟨_, rfl, rfl⟩
  | ok content =>
    dsimp only
    cases hsource : content.source job.path with
    | error failure =>
      rw [analyzeFile_eq_error settings hsource]
      exact .inr ⟨_, rfl, rfl⟩
    | ok source =>
      obtain ⟨a, ha, _⟩ := gives_analyzeFile settings hsource
      rw [ha]
      exact .inl ⟨content, a, rfl, ha, rfl⟩

/-- The outcome of a file tells which of the two it is. -/
theorem told_of_outcome {job : Job} {outcome : Outcome} (h : job.outcome settings = .ok outcome) :
    outcome.analysis?.map Except.ok = job.analysis? settings ∧
      outcome.skipped? = job.skipped? := by
  rw [Job.analysis?, Job.skipped?]
  rcases outcome_of_content settings job with
    ⟨content, a, hcontent, ha, houtcome⟩ | ⟨reason, hcontent, houtcome⟩
  · rw [houtcome] at h
    cases h
    rw [hcontent]
    exact ⟨congrArg some ha.symm, rfl⟩
  · rw [houtcome] at h
    cases h
    rw [hcontent]
    exact ⟨rfl, rfl⟩

/-! ## The two lists -/

theorem AreOutcomesOf.tail {job : Job} {jobs : List Job} {outcome : Outcome}
    {outcomes : List Outcome} (h : AreOutcomesOf settings (job :: jobs) (outcome :: outcomes)) :
    job.outcome settings = .ok outcome ∧ AreOutcomesOf settings jobs outcomes := by
  constructor
  · obtain ⟨job', hjob, ho⟩ := h 0 outcome rfl
    cases hjob
    exact ho
  · intro i o ho
    exact h (i + 1) o ho

/-- Each file stands in the list it belongs to, in the order of the files. -/
theorem told_of_outcomes {jobs : List Job} {outcomes : List Outcome}
    (h : AreOutcomesOf settings jobs outcomes) (hlen : outcomes.length = jobs.length) :
    (outcomes.filterMap Outcome.analysis?).map Except.ok =
        jobs.filterMap (Job.analysis? settings) ∧
      outcomes.filterMap Outcome.skipped? = jobs.filterMap Job.skipped? := by
  induction jobs generalizing outcomes with
  | nil =>
    rw [List.length_eq_zero_iff.1 hlen]
    exact ⟨rfl, rfl⟩
  | cons job jobs ih =>
    cases outcomes with
    | nil => cases hlen
    | cons outcome outcomes =>
      obtain ⟨hhead, htail⟩ := h.tail
      obtain ⟨hanalyses, hskipped⟩ := ih htail (Nat.succ.inj hlen)
      obtain ⟨ha, hs⟩ := told_of_outcome hhead
      constructor
      · rw [List.filterMap_cons, List.filterMap_cons, ← ha, ← hanalyses]
        cases outcome.analysis? <;> rfl
      · rw [List.filterMap_cons, List.filterMap_cons, hs, hskipped]

theorem paths_of_skipped (jobs : List Job) :
    (jobs.filterMap Job.skipped?).map (fun s => s.path) =
      (jobs.filter fun job => !job.isReadable).map Job.path := by
  induction jobs with
  | nil => rfl
  | cons job jobs ih =>
    rw [List.filterMap_cons, List.filter_cons, Job.isReadable, Job.skipped?]
    cases job.content with
    | ok content => exact ih
    | error reason => exact congrArg (job.path :: ·) ih

/-- No outcome is lost, and none stands in both lists. -/
theorem length_outcomes (outcomes : List Outcome) :
    (outcomes.filterMap Outcome.analysis?).length + (outcomes.filterMap Outcome.skipped?).length =
      outcomes.length := by
  induction outcomes with
  | nil => rfl
  | cons outcome outcomes ih =>
    rw [List.filterMap_cons, List.filterMap_cons, List.length_cons, ← ih]
    cases outcome with
    | analyzed a => exact Nat.succ_add _ _
    | skipped s => exact Nat.add_succ _ _

/-! ## What a pass tells -/

/-- A project tells of files what they are: the analyses of those that are readable and the paths of
all others, in the order of the files, with the figures of the analysed files only. -/
structure Tells (settings : Settings) (jobs : List Job) (project : ProjectAnalysis) : Prop where
  files : project.files.map Except.ok = jobs.filterMap (Job.analysis? settings)
  skipped : project.skipped.map (fun s => s.path) =
    (jobs.filter fun job => !job.isReadable).map Job.path
  reasons : project.skipped = jobs.filterMap Job.skipped?
  totalFiles : project.totalFiles = jobs.length
  analyzedFiles : project.analyzedFiles = project.files.length
  complete : project.analyzedFiles + project.skipped.length = jobs.length
  totalLines : project.totalLines = total (project.files.map fun f => f.totalLines)
  generatedLines : project.generatedLines = sumGenerated project.files
  humanLines : project.humanLines = sumHuman project.files
  generatedPercentage : sharedPercentage project.files = .ok project.generatedPercentage

/-- A pass that nothing cancels tells of its files. -/
theorem gives_tells (settings : Settings) (path : String) (timestamp : Timestamp) {jobs : List Job}
    (h : ∀ job ∈ jobs, job.cancels = false) :
    Gives (analyzeProject settings path timestamp false jobs) (Tells settings jobs) := by
  obtain ⟨⟨outcomes, cancelled⟩, hrun, hcancelled, hare, hlen⟩ := gives_run settings false jobs
  have hnone : jobs.any Job.cancels = false :=
    List.any_eq_false.2 fun job hjob => by rw [h job hjob]; exact Bool.false_ne_true
  have hcancelled : cancelled = false := hcancelled.trans (by rw [hnone]; rfl)
  subst hcancelled
  have hlen : outcomes.length = jobs.length := hlen rfl
  obtain ⟨project, hproject, _⟩ := gives_result hare path jobs.length timestamp
  refine ⟨project, by rw [analyzeProject, hrun]; exact hproject, ?_⟩
  obtain ⟨hfiles, hskipped⟩ := told_of_outcomes hare hlen
  have haggregate : aggregate path jobs.length (outcomes.filterMap Outcome.analysis?)
      (outcomes.filterMap Outcome.skipped?) timestamp = .ok project := by
    rw [Progress.result, if_neg Bool.false_ne_true] at hproject
    cases hagg : aggregate path jobs.length (outcomes.filterMap Outcome.analysis?)
        (outcomes.filterMap Outcome.skipped?) timestamp with
    | error fault =>
      rw [hagg] at hproject
      cases hproject
    | ok project' =>
      rw [hagg] at hproject
      cases hproject
      rfl
  obtain ⟨share, hshare, rfl⟩ := of_aggregate_eq_ok haggregate
  exact {
    files := hfiles
    skipped := (congrArg _ hskipped).trans (paths_of_skipped jobs)
    reasons := hskipped
    totalFiles := rfl
    analyzedFiles := rfl
    complete := (length_outcomes outcomes).trans hlen
    totalLines := rfl
    generatedLines := rfl
    humanLines := rfl
    generatedPercentage := hshare }

/-- The files of a project are the analyses of the readable files. -/
theorem Tells.files_eq {jobs : List Job} {project : ProjectAnalysis}
    (h : Tells settings jobs project) :
    project.files = jobs.filterMap fun job => (job.analysis? settings).bind Except.toOption := by
  have hfiles := congrArg (List.filterMap Except.toOption) h.files
  rw [List.filterMap_map, List.filterMap_filterMap] at hfiles
  rw [← hfiles]
  exact (List.filterMap_some).symm

/-! ## Files that fail -/

theorem filterMap_cons_eq {α β : Type} (f : α → Option β) (a : α) (as : List α) :
    (a :: as).filterMap f = (f a).toList ++ as.filterMap f := by
  rw [List.filterMap_cons]
  cases f a <;> rfl

end Provenance

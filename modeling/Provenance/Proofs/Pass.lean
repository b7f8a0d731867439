import Provenance.Pass
import Provenance.Proofs.Analysis
import Provenance.Proofs.ProjectAnalysis

/-!
# Proofs — Pass

What becomes of the files of a pass. Each file has an outcome, whatever its provider does, so a pass
ends in its result or in its cancellation and in nothing else (`analyzeProject_cancelled`,
`gives_result`).
-/

namespace Provenance

variable {settings : Settings}

/-! ## Outcomes -/

/-- An outcome of a file: of an analysis the counts are counts, and the path is that of the file. -/
def IsOutcomeOf (job : Job) (outcome : Outcome) : Prop :=
  ∀ a ∈ outcome.analysis?, HasCounts a ∧ a.path = job.path

/-- **Each file has an outcome.** A provider or a content that fails gives one too. -/
theorem gives_outcome (settings : Settings) (job : Job) :
    Gives (job.outcome settings) (IsOutcomeOf job) := by
  rw [Job.outcome]
  cases job.provided with
  | error failure => exact .ok fun a ha => nomatch ha
  | ok content =>
    dsimp only
    cases hsource : content.source job.path with
    | error failure =>
      rw [analyzeFile_eq_error settings hsource]
      exact .ok fun a ha => nomatch ha
    | ok source =>
      obtain ⟨a, ha, haccurate⟩ := gives_analyzeFile settings hsource
      rw [ha]
      refine .ok fun a' ha' => ?_
      cases ha'
      exact ⟨⟨haccurate.generatedLines_nonneg, haccurate.humanLines_nonneg⟩, haccurate.path_eq⟩

/-! ## Runs -/

/-- Outcomes of the first of some files, each of its own file. -/
def AreOutcomesOf (settings : Settings) (jobs : List Job) (outcomes : List Outcome) : Prop :=
  ∀ (i : Nat) (outcome : Outcome), outcomes[i]? = some outcome →
    ∃ job : Job, jobs[i]? = some job ∧ job.outcome settings = .ok outcome

theorem AreOutcomesOf.nil (settings : Settings) (jobs : List Job) :
    AreOutcomesOf settings jobs [] := by
  intro i outcome h
  cases h

theorem AreOutcomesOf.cons {job : Job} {jobs : List Job} {outcome : Outcome}
    {outcomes : List Outcome} (h : job.outcome settings = .ok outcome)
    (hs : AreOutcomesOf settings jobs outcomes) :
    AreOutcomesOf settings (job :: jobs) (outcome :: outcomes) := by
  intro i o ho
  cases i with
  | zero =>
    cases ho
    exact ⟨job, rfl, h⟩
  | succ i => exact hs i o ho

/-- All files have one list of outcomes. -/
theorem AreOutcomesOf.unique {jobs : List Job} {os os' : List Outcome}
    (h : AreOutcomesOf settings jobs os) (hlen : os.length = jobs.length)
    (h' : AreOutcomesOf settings jobs os') (hlen' : os'.length = jobs.length) : os' = os := by
  refine List.ext_getElem (hlen'.trans hlen.symm) fun i hi' hi => ?_
  obtain ⟨job, hjob, ho⟩ := h i _ (List.getElem?_eq_getElem hi)
  obtain ⟨job', hjob', ho'⟩ := h' i _ (List.getElem?_eq_getElem hi')
  rw [hjob] at hjob'
  cases hjob'
  rw [ho] at ho'
  exact (Except.ok.inj ho').symm

/-- The files up to the first one that requests cancellation, or all of them where none does. -/
def upToRequest (jobs : List Job) : List Job := jobs.take (jobs.findIdx Job.cancels + 1)

theorem upToRequest_cons (job : Job) (jobs : List Job) :
    upToRequest (job :: jobs) = job :: if job.cancels then [] else upToRequest jobs := by
  rw [upToRequest, List.findIdx_cons, List.take_succ_cons]
  cases job.cancels with
  | true => rfl
  | false => rfl

/-- Where no file requests cancellation, these are all files. -/
theorem upToRequest_of_any_eq_false {jobs : List Job} (h : jobs.any Job.cancels = false) :
    upToRequest jobs = jobs := by
  induction jobs with
  | nil => rfl
  | cons job jobs ih =>
    rw [List.any_cons, Bool.or_eq_false_iff] at h
    rw [upToRequest_cons, h.1, ih h.2]
    rfl

namespace Course

/-- A pass that was cancelled goes no further. -/
theorem run_of_requested {c : Course} (h : c.requested = true) (jobs : List Job) :
    c.run settings jobs = .ok c := by
  cases jobs with
  | nil => rfl
  | cons job jobs => rw [run, if_pos h]

/-- **A file that is worked on is called and has an outcome**, also where it requests cancellation
and where its provider fails. -/
theorem gives_workOn (settings : Settings) {c : Course} (h : c.requested = false) (job : Job) :
    Gives (c.workOn settings job) fun d =>
      d.requested = job.cancels ∧ d.called = c.called ++ [job] ∧
      ∃ outcome, job.outcome settings = .ok outcome ∧ d.kept = c.kept ++ [some outcome] := by
  obtain ⟨outcome, houtcome, _⟩ := gives_outcome settings job
  rw [workOn, h, houtcome]
  exact .ok ⟨Bool.false_or _, rfl, outcome, rfl, rfl⟩

/-- **A pass goes on up to the first request**, or to its end: these files are called and have
outcomes, and no others. -/
theorem gives_run (settings : Settings) {c : Course} (h : c.requested = false) (jobs : List Job) :
    Gives (c.run settings jobs) fun d =>
      d.requested = jobs.any Job.cancels ∧ d.called = c.called ++ upToRequest jobs ∧
      ∃ outcomes, d.kept = c.kept ++ outcomes.map some ∧
        AreOutcomesOf settings jobs outcomes ∧ outcomes.length = (upToRequest jobs).length := by
  induction jobs generalizing c with
  | nil => exact .ok ⟨h, (List.append_nil _).symm, [], (List.append_nil _).symm, .nil settings _, rfl⟩
  | cons job jobs ih =>
    rw [run, if_neg (by simp [h])]
    refine (gives_workOn settings h job).bind fun d hd => ?_
    obtain ⟨hrequested, hcalled, outcome, houtcome, hkept⟩ := hd
    rw [upToRequest_cons, List.any_cons, ← hrequested]
    cases hstop : d.requested with
    | true =>
      -- the file itself has requested it, and is the last one that was called
      rw [run_of_requested hstop]
      exact .ok ⟨hstop, hcalled, [outcome], hkept, .cons houtcome (.nil settings _), rfl⟩
    | false =>
      refine (ih hstop).mono fun e he => ?_
      obtain ⟨hrequested', hcalled', outcomes, hkept', hare, hlength⟩ := he
      refine ⟨hrequested', ?_, outcome :: outcomes, ?_, .cons houtcome hare, ?_⟩
      · rw [hcalled', hcalled, List.append_assoc]
        rfl
      · rw [hkept', hkept, List.append_assoc]
        rfl
      · rw [List.length_cons, hlength]
        rfl

/-- What was kept are the outcomes of a pass. -/
theorem progress_eq {c : Course} {outcomes : List Outcome} (h : c.kept = outcomes.map some) :
    c.progress = ⟨outcomes, c.requested⟩ := by
  rw [progress, h, List.filterMap_map]
  simp

end Course

/-- **A run comes to all files, or is cancelled**: before it begins, or by one of its files. -/
theorem gives_run (settings : Settings) (cancelled : Bool) (jobs : List Job) :
    Gives (run settings cancelled jobs) fun progress =>
      progress.cancelled = (cancelled || jobs.any Job.cancels) ∧
      AreOutcomesOf settings jobs progress.outcomes ∧
      (progress.cancelled = false → progress.outcomes.length = jobs.length) := by
  rw [run]
  cases cancelled with
  | true =>
    rw [Course.run_of_requested rfl]
    exact .pure ⟨rfl, .nil settings _, fun h => nomatch h⟩
  | false =>
    refine (Course.gives_run settings (c := .start false) rfl jobs).bind fun c hc => .pure ?_
    obtain ⟨hrequested, _, outcomes, hkept, hare, hlength⟩ := hc
    rw [Course.progress_eq hkept]
    refine ⟨hrequested, hare, fun hnone => ?_⟩
    rw [hlength, upToRequest_of_any_eq_false (hrequested.symm.trans hnone)]

theorem hasCounts_of_outcomes {jobs : List Job} {outcomes : List Outcome}
    (h : AreOutcomesOf settings jobs outcomes) :
    ∀ a ∈ outcomes.filterMap Outcome.analysis?, HasCounts a := by
  intro a ha
  obtain ⟨outcome, houtcome, ha⟩ := List.mem_filterMap.1 ha
  obtain ⟨i, hi⟩ := List.getElem?_of_mem houtcome
  obtain ⟨job, _, hjob⟩ := h i outcome hi
  obtain ⟨outcome', houtcome', hcounts⟩ := gives_outcome settings job
  rw [hjob] at houtcome'
  cases houtcome'
  exact (hcounts a ha).1

/-! ## Passes -/

/-- **A cancelled pass has no result.** -/
theorem analyzeProject_cancelled (settings : Settings) (path : String) (timestamp : Timestamp)
    {cancelled : Bool} {jobs : List Job} (h : (cancelled || jobs.any Job.cancels) = true) :
    ∃ completed : Nat, analyzeProject settings path timestamp cancelled jobs =
      .error (.failure (.cancelled completed jobs.length)) := by
  obtain ⟨progress, hrun, hcancelled, _⟩ := gives_run settings cancelled jobs
  refine ⟨progress.outcomes.length, ?_⟩
  rw [analyzeProject, hrun]
  show progress.result path jobs.length timestamp = _
  rw [Progress.result, hcancelled, h, if_pos rfl]

/-- A pass that came to its end has a result. -/
theorem gives_result {jobs : List Job} {outcomes : List Outcome}
    (h : AreOutcomesOf settings jobs outcomes) (path : String) (count : Nat)
    (timestamp : Timestamp) :
    Gives (Progress.result ⟨outcomes, false⟩ path count timestamp) fun project =>
      project.files = outcomes.filterMap Outcome.analysis? ∧
      project.skipped = outcomes.filterMap Outcome.skipped? ∧ project.timestamp = timestamp :=
  (gives_aggregate (hasCounts_of_outcomes h) path count _ timestamp).mapError

/-- The time of a result says nothing of the rest of it. -/
theorem result_timestamp {outcomes : List Outcome} {path : String} {count : Nat}
    {timestamp : Timestamp} {project : ProjectAnalysis}
    (h : Progress.result ⟨outcomes, false⟩ path count timestamp = .ok project)
    (timestamp' : Timestamp) :
    Progress.result ⟨outcomes, false⟩ path count timestamp' =
      .ok { project with timestamp := timestamp' } := by
  simp only [Progress.result, Bool.false_eq_true, if_false, aggregate] at h ⊢
  cases hshare : sharedPercentage (outcomes.filterMap Outcome.analysis?) with
  | error fault =>
    rw [hshare] at h
    cases h
  | ok share =>
    rw [hshare] at h
    cases h
    rfl

/-! ## Requests to cancel -/

/-- Whether a request comes in before the last of so many files is done. -/
def Cancellation.Reaches (count : Nat) : Cancellation → Prop
  | .never => False
  | .before => True
  | .during index => index < count

/-- A request in time cancels the pass. -/
theorem Cancellation.Reaches.cancels {cancellation : Cancellation} {jobs : List Job}
    (h : cancellation.Reaches jobs.length) :
    (cancellation.atStart || (cancellation.mark jobs).any Job.cancels) = true := by
  cases cancellation with
  | never => cases h
  | before => rfl
  | during index =>
    rw [Bool.or_eq_true]
    refine .inr (List.any_eq_true.2 ⟨{ jobs[index] with cancels := true }, ?_, rfl⟩)
    refine List.mem_iff_getElem?.2 ⟨index, ?_⟩
    rw [Cancellation.mark, List.getElem?_modify_eq, List.getElem?_eq_getElem h]
    rfl

end Provenance

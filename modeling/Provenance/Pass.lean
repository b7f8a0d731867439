import Provenance.Analysis
import Provenance.ProjectAnalysis

/-!
# Pass

A pass over the files of a project. The content of a file comes from its provider, which may fail; a
file whose provider or content fails is skipped and never ends the pass. Cancellation is looked at
before every file and once more at the end, and a cancelled pass has no result.
-/

namespace Provenance

/-! ## Providers -/

/-- Why a provider has no content to give. -/
inductive ProviderFailure where
  /-- The provider tells what went wrong in the words of this library. -/
  | known (failure : Failure)
  /-- The system refused, with a code or without one, and with a text that may be empty. -/
  | system (code : Option Int) (text : String)
  /-- A key was not found. -/
  | missingKey (key : String)
  /-- Anything else: its kind, and its text. -/
  | unexpected (kind text : String)
  deriving DecidableEq

/-- What the system said; without a text the code stands for it. -/
def systemReason (code : Option Int) (text : String) : String :=
  if text ≠ "" then text
  else match code with
    | some n => "[Errno " ++ toString n ++ "] "
    | none => ""

/-- Why a file is skipped whose provider failed. Failures of loading and of reading text speak for
themselves; anything else is a failure to load the file. -/
def ProviderFailure.reason (path : String) : ProviderFailure → String
  | .known (.notLoaded p r) => (Failure.notLoaded p r).message
  | .known (.unreadable p r) => (Failure.unreadable p r).message
  | .known (.unsupported p r) => (Failure.unsupported p r).message
  | .known f => (Failure.notLoaded path (f.kind ++ ": " ++ f.message)).message
  | .system code text => (Failure.notLoaded path (systemReason code text)).message
  | .missingKey key => (Failure.notLoaded path ("KeyError: " ++ Text.quoted key)).message
  | .unexpected kind text => (Failure.notLoaded path (kind ++ ": " ++ text)).message

/-- A file of a pass, and what its provider does when it is called. -/
structure Job where
  path : String
  provided : Except ProviderFailure Content
  /-- Whether the provider requests the cancellation of the pass. -/
  cancels : Bool := false

/-- When the cancellation of a pass is requested. -/
inductive Cancellation where
  | never
  /-- Before the pass begins. -/
  | before
  /-- While the file at an index is worked on. -/
  | during (index : Nat)
  deriving DecidableEq

namespace Cancellation

/-- Whether the cancellation is requested when the pass begins. -/
def atStart : Cancellation → Bool
  | .before => true
  | _ => false

/-- The files of a pass, of which one is worked on when the cancellation is requested. -/
def mark : Cancellation → List Job → List Job
  | .during index, jobs => jobs.modify index fun job => { job with cancels := true }
  | _, jobs => jobs

end Cancellation

/-! ## Outcomes -/

/-- What becomes of a file. -/
inductive Outcome where
  | analyzed (analysis : FileAnalysis)
  | skipped (file : SkippedFile)
  deriving DecidableEq

def Outcome.analysis? : Outcome → Option FileAnalysis
  | .analyzed a => some a
  | .skipped _ => none

def Outcome.skipped? : Outcome → Option SkippedFile
  | .analyzed _ => none
  | .skipped s => some s

/-- What becomes of a file whose provider is called. -/
def Job.outcome (settings : Settings) (job : Job) : Checked Outcome :=
  match job.provided with
  | .error failure => .ok (.skipped ⟨job.path, failure.reason job.path⟩)
  | .ok content =>
    match analyzeFile settings job.path content with
    | .ok analysis => .ok (.analyzed analysis)
    | .error (.failure failure) => .ok (.skipped ⟨job.path, failure.message⟩)
    | .error (.fault fault) => .error fault

/-! ## Passes -/

/-- A pass over files one after the other, as far as it has come. -/
structure Course where
  /-- Whether cancellation is requested. A request is never taken back. -/
  requested : Bool
  /-- The files whose providers were called, in the order of the calls. -/
  called : List Job
  /-- What became of each file that was begun, or nothing where the request came before its provider
  was called. -/
  kept : List (Option Outcome)

/-- How far a pass came: the outcomes of the files that have one, in the order of the files, and
whether the pass was cancelled. -/
structure Progress where
  outcomes : List Outcome
  cancelled : Bool

namespace Course

/-- A pass that begins. -/
def start (requested : Bool) : Course := ⟨requested, [], []⟩

/-- Works on a file: calls its provider, which may request cancellation and may fail as well, unless
cancellation is requested already. -/
def workOn (settings : Settings) (c : Course) (job : Job) : Checked Course :=
  if c.requested then .ok { c with kept := c.kept ++ [none] }
  else do
    let outcome ← job.outcome settings
    return ⟨c.requested || job.cancels, c.called ++ [job], c.kept ++ [some outcome]⟩

/-- Works on files one after the other until cancellation is requested. -/
def run (settings : Settings) : Course → List Job → Checked Course
  | c, [] => .ok c
  | c, job :: jobs =>
    if c.requested then .ok c
    else do (← c.workOn settings job).run settings jobs

/-- What a pass has come to. -/
def progress (c : Course) : Progress := ⟨c.kept.filterMap id, c.requested⟩

end Course

/-- A pass over files. `cancelled` says whether cancellation is requested before it begins. -/
def run (settings : Settings) (cancelled : Bool) (jobs : List Job) : Checked Progress := do
  return (← (Course.start cancelled).run settings jobs).progress

/-- The result of a pass that came so far. -/
def Progress.result (progress : Progress) (projectPath : String) (total : Nat)
    (timestamp : Timestamp) : Except AnalysisError ProjectAnalysis :=
  if progress.cancelled then .error (.failure (.cancelled progress.outcomes.length total))
  else
    (aggregate projectPath total (progress.outcomes.filterMap Outcome.analysis?)
      (progress.outcomes.filterMap Outcome.skipped?) timestamp).mapError .fault

/-- The analysis of a project: every file is analysed or skipped, in order. `cancelled` says whether
cancellation is requested before the pass begins. -/
def analyzeProject (settings : Settings) (projectPath : String) (timestamp : Timestamp)
    (cancelled : Bool) (jobs : List Job) : Except AnalysisError ProjectAnalysis := do
  let progress ← (run settings cancelled jobs).mapError .fault
  progress.result projectPath jobs.length timestamp

end Provenance

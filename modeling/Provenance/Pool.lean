import Provenance.Pass

/-!
# Pool

A pass that several workers share. Each worker takes a file that waits, looks whether cancellation
is requested, calls the provider of the file and stores what becomes of it at the place of the file;
a worker that sees a request leaves the place empty. The workers move in any order, and cancellation
may be requested at any moment and is never taken back. When all workers have come to rest, the
request is looked at once more.
-/

namespace Provenance

/-- What a worker is at. -/
inductive Stage where
  | idle
  /-- It has taken a file. -/
  | took (file : Nat)
  /-- It has seen that cancellation is not requested. -/
  | cleared (file : Nat)
  /-- It has called the provider of the file. -/
  | holds (file : Nat) (result : Checked Outcome)

namespace Stage

def isIdle : Stage → Bool
  | .idle => true
  | _ => false

/-- The file that a worker is at. -/
def file? : Stage → Option Nat
  | .idle => none
  | .took file => some file
  | .cleared file => some file
  | .holds file _ => some file

end Stage

/-- The state of a shared pass. Files are told by their indexes. -/
structure Pool where
  waiting : List Nat
  stages : List Stage
  /-- Whether cancellation is requested. -/
  requested : Bool
  /-- What was stored at the place of each file. -/
  stored : List (Option (Checked Outcome))

/-- What can happen in a shared pass. -/
inductive Move where
  | request
  | take (worker file : Nat)
  | look (worker : Nat)
  | provide (worker : Nat)
  | store (worker : Nat)

namespace Pool

/-- A shared pass over so many files by so many workers, before anything has happened. -/
def start (files workers : Nat) : Pool where
  waiting := List.range files
  stages := List.replicate workers .idle
  requested := false
  stored := List.replicate files none

/-- The state after a move, if the move is possible. -/
def move? (settings : Settings) (jobs : List Job) (p : Pool) : Move → Option Pool
  | .request => some { p with requested := true }
  | .take worker file =>
    match p.stages[worker]? with
    | some .idle =>
      if file ∈ p.waiting then
        some { p with
          waiting := p.waiting.erase file
          stages := p.stages.set worker (.took file) }
      else none
    | _ => none
  | .look worker =>
    match p.stages[worker]? with
    | some (.took file) =>
      let next := if p.requested then .idle else .cleared file
      some { p with stages := p.stages.set worker next }
    | _ => none
  | .provide worker =>
    match p.stages[worker]? with
    | some (.cleared file) =>
      jobs[file]?.map fun job => { p with
        requested := p.requested || job.cancels
        stages := p.stages.set worker (.holds file (job.outcome settings)) }
    | _ => none
  | .store worker =>
    match p.stages[worker]? with
    | some (.holds file result) =>
      some { p with
        stages := p.stages.set worker .idle
        stored := p.stored.set file (some result) }
    | _ => none

/-- The state after some moves, if they are possible one after the other. -/
def moves? (settings : Settings) (jobs : List Job) (p : Pool) : List Move → Option Pool
  | [] => some p
  | move :: moves => (p.move? settings jobs move).bind fun next => next.moves? settings jobs moves

/-- All files were taken, and all workers have come to rest. -/
def isFinished (p : Pool) : Bool := p.waiting.isEmpty && p.stages.all Stage.isIdle

/-- How many files have an outcome. -/
def completed (p : Pool) : Nat := p.stored.countP Option.isSome

/-- The outcomes that were stored, in the order of the files. -/
def outcomes : List (Option (Checked Outcome)) → Checked (List Outcome)
  | [] => .ok []
  | none :: rest => outcomes rest
  | some result :: rest => do return (← result) :: (← outcomes rest)

/-- The result of a finished pass over some files. -/
def result (p : Pool) (projectPath : String) (total : Nat) (timestamp : Timestamp) :
    Except AnalysisError ProjectAnalysis := do
  let outcomes ← (outcomes p.stored).mapError .fault
  Progress.result ⟨outcomes, p.requested⟩ projectPath total timestamp

end Pool

end Provenance

import Provenance.Proofs.Pool

/-!
# Proofs — Pool — Progress

Shared passes that nobody cancels come to their end. A worker moves at most four times for a file,
and as long as the pass is not finished some worker can move; so every run of moves can go on until
the pass is finished, and then the result is that of the pass over one file after the other
(`workersComeTo`).
-/

namespace Provenance

open Pool

variable {settings : Settings} {jobs : List Job}

/-! ## Moves that are left -/

/-- How many moves a worker has still to make for its file. -/
def Stage.movesLeft : Stage → Nat
  | .idle => 0
  | .took _ => 3
  | .cleared _ => 2
  | .holds _ _ => 1

/-- How many moves are left at most: four for each file that waits, and those that were begun. -/
def Pool.movesLeft (p : Pool) : Nat :=
  4 * p.waiting.length + total (p.stages.map Stage.movesLeft)

theorem total_movesLeft_set {stages : List Stage} {worker : Nat} {old : Stage}
    (h : stages[worker]? = some old) (new : Stage) :
    total ((stages.set worker new).map Stage.movesLeft) + old.movesLeft =
      total (stages.map Stage.movesLeft) + new.movesLeft := by
  induction stages generalizing worker with
  | nil => cases h
  | cons stage stages ih =>
    cases worker with
    | zero =>
      cases h
      simp only [List.set_cons_zero, List.map_cons, total_cons]
      omega
    | succ worker =>
      have ih := ih (show stages[worker]? = some old from h)
      simp only [List.set_cons_succ, List.map_cons, total_cons]
      omega

/-- What a move does that is no request: a worker goes on with its file, or takes one that waits,
and the mark of a request is set only by the provider of a file. -/
theorem Pool.of_move? (hjobs : ∀ job ∈ jobs, job.cancels = false) {p p' : Pool} {move : Move}
    (h : p.move? settings jobs move = some p') (hne : move ≠ .request) :
    p'.requested = p.requested ∧ p'.movesLeft < p.movesLeft := by
  cases move with
  | request => exact absurd rfl hne
  | take worker file =>
    rw [move?] at h
    split at h
    · rename_i hidle
      split at h
      · rename_i hfile
        cases h
        refine ⟨rfl, ?_⟩
        have hset := total_movesLeft_set hidle (.took file)
        have hlength := List.length_erase_of_mem hfile
        have hpos := List.length_pos_of_mem hfile
        simp only [movesLeft, Stage.movesLeft] at hset ⊢
        omega
      · cases h
    · cases h
  | look worker =>
    rw [move?] at h
    split at h
    · rename_i file htook
      cases h
      refine ⟨rfl, ?_⟩
      have hset := total_movesLeft_set htook (if p.requested then .idle else .cleared file)
      have hnext : (if p.requested then Stage.idle else .cleared file).movesLeft ≤ 2 := by
        split
        · exact Nat.zero_le 2
        · exact Nat.le_refl 2
      simp only [movesLeft, Stage.movesLeft] at hset hnext ⊢
      omega
    · cases h
  | provide worker =>
    rw [move?] at h
    split at h
    · rename_i file hcleared
      obtain ⟨job, hjob, rfl⟩ := Option.map_eq_some_iff.1 h
      constructor
      · show (p.requested || job.cancels) = p.requested
        rw [hjobs job (List.mem_of_getElem? hjob), Bool.or_false]
      · have hset := total_movesLeft_set hcleared (.holds file (job.outcome settings))
        simp only [movesLeft, Stage.movesLeft] at hset ⊢
        omega
    · cases h
  | store worker =>
    rw [move?] at h
    split at h
    · rename_i file result hholds
      cases h
      refine ⟨rfl, ?_⟩
      have hset := total_movesLeft_set hholds .idle
      simp only [movesLeft, Stage.movesLeft] at hset ⊢
      omega
    · cases h

/-- A run without requests leaves the mark unset, and is short. -/
theorem Pool.of_moves? (hjobs : ∀ job ∈ jobs, job.cancels = false) {p p' : Pool}
    {moves : List Move} (h : p.moves? settings jobs moves = some p')
    (hne : ∀ move ∈ moves, move ≠ .request) :
    p'.requested = p.requested ∧ moves.length + p'.movesLeft ≤ p.movesLeft := by
  induction moves generalizing p with
  | nil =>
    cases h
    exact ⟨rfl, by rw [List.length_nil]; omega⟩
  | cons move moves ih =>
    obtain ⟨next, hmove, h⟩ := Option.bind_eq_some_iff.1 h
    obtain ⟨hnext, hlt⟩ := of_move? hjobs hmove (hne move List.mem_cons_self)
    obtain ⟨hlast, hle⟩ := ih h fun m hm => hne m (List.mem_cons_of_mem _ hm)
    refine ⟨hlast.trans hnext, ?_⟩
    rw [List.length_cons]
    omega

/-! ## Files of the pass -/

/-- The files that wait and that workers are at are files of the pass, and all workers are there. -/
structure Pool.Bounded (jobs : List Job) (workers : Nat) (p : Pool) : Prop where
  waiting : ∀ file ∈ p.waiting, file < jobs.length
  staged : ∀ stage ∈ p.stages, ∀ file, stage.file? = some file → file < jobs.length
  workers : p.stages.length = workers

theorem Pool.bounded_start (jobs : List Job) (workers : Nat) :
    (start jobs.length workers).Bounded jobs workers where
  waiting file h := List.mem_range.1 h
  staged stage h file hfile := by
    rw [List.eq_of_mem_replicate h] at hfile
    cases hfile
  workers := List.length_replicate

theorem Pool.Bounded.set {workers : Nat} {p : Pool} (h : p.Bounded jobs workers) {worker : Nat}
    {new : Stage} (hnew : ∀ file, new.file? = some file → file < jobs.length) :
    ∀ stage ∈ p.stages.set worker new, ∀ file, stage.file? = some file → file < jobs.length := by
  intro stage hmem file hfile
  rcases List.mem_or_eq_of_mem_set hmem with hmem | rfl
  · exact h.staged stage hmem file hfile
  · exact hnew file hfile

/-- A worker that goes on with its file is at a file of the pass. -/
theorem Pool.Bounded.lt {workers : Nat} {p : Pool} (h : p.Bounded jobs workers) {worker file : Nat}
    {stage : Stage} (hstage : p.stages[worker]? = some stage) (hfile : stage.file? = some file) :
    file < jobs.length :=
  h.staged stage (List.mem_of_getElem? hstage) file hfile

theorem Pool.Bounded.step {workers : Nat} {p p' : Pool} (h : p.Bounded jobs workers)
    (hstep : Step settings jobs p p') : p'.Bounded jobs workers := by
  cases hstep with
  | requested => exact ⟨h.waiting, h.staged, h.workers⟩
  | taken hidle hfile =>
    refine ⟨fun file hmem => h.waiting file (List.mem_of_mem_erase hmem), h.set ?_, ?_⟩
    · rintro file' ⟨⟩
      exact h.waiting _ hfile
    · rw [List.length_set, h.workers]
  | cleared htook =>
    refine ⟨h.waiting, h.set ?_, by rw [List.length_set, h.workers]⟩
    rintro file' ⟨⟩
    exact h.lt htook rfl
  | dropped =>
    refine ⟨h.waiting, h.set ?_, by rw [List.length_set, h.workers]⟩
    exact fun _ hf => nomatch hf
  | provided hcleared =>
    refine ⟨h.waiting, h.set ?_, by rw [List.length_set, h.workers]⟩
    rintro file' ⟨⟩
    exact h.lt hcleared rfl
  | stored =>
    refine ⟨h.waiting, h.set ?_, by rw [List.length_set, h.workers]⟩
    exact fun _ hf => nomatch hf

theorem Pool.Bounded.moves {workers : Nat} {p p' : Pool} (h : p.Bounded jobs workers)
    {moves : List Move} (hmoves : p.moves? settings jobs moves = some p') :
    p'.Bounded jobs workers := by
  induction moves generalizing p with
  | nil =>
    cases hmoves
    exact h
  | cons move moves ih =>
    obtain ⟨next, hmove, hmoves⟩ := Option.bind_eq_some_iff.1 hmoves
    exact ih (h.step (step_of_move? hmove)) hmoves

/-! ## Progress -/

/-- **As long as a pass is not finished, some worker can move.** -/
theorem Pool.Bounded.exists_move (settings : Settings) {workers : Nat} {p : Pool}
    (h : p.Bounded jobs workers) (hworkers : 0 < workers) (hf : p.isFinished = false) :
    ∃ move, move ≠ .request ∧ (p.move? settings jobs move).isSome = true := by
  by_cases hidle : p.stages.all Stage.isIdle = true
  · -- all workers rest, so a file waits, and the first worker can take it
    obtain ⟨file, hfile⟩ : ∃ file, file ∈ p.waiting := by
      refine List.exists_mem_of_ne_nil _ fun hnil => ?_
      rw [isFinished, hnil, hidle] at hf
      cases hf
    have hlt : 0 < p.stages.length := h.workers ▸ hworkers
    have hrests := List.all_eq_true.1 hidle p.stages[0] (List.getElem_mem hlt)
    have hfirst : p.stages[0]? = some .idle := by
      rw [List.getElem?_eq_getElem hlt]
      cases hget : p.stages[0] with
      | idle => rfl
      | took | cleared | holds =>
        rw [hget] at hrests
        cases hrests
    refine ⟨.take 0 file, Move.noConfusion, ?_⟩
    rw [move?, hfirst]
    dsimp only
    rw [if_pos hfile]
    rfl
  · -- a worker that does not rest can go on
    obtain ⟨stage, hmem, hbusy⟩ : ∃ stage ∈ p.stages, ¬ stage.isIdle = true := by
      simpa using hidle
    obtain ⟨worker, hworker⟩ := List.getElem?_of_mem hmem
    cases stage with
    | idle => exact absurd rfl hbusy
    | took file =>
      refine ⟨.look worker, Move.noConfusion, ?_⟩
      rw [move?, hworker]
      rfl
    | cleared file =>
      refine ⟨.provide worker, Move.noConfusion, ?_⟩
      rw [move?, hworker]
      dsimp only
      rw [List.getElem?_eq_getElem (h.lt hworker rfl)]
      rfl
    | holds file result =>
      refine ⟨.store worker, Move.noConfusion, ?_⟩
      rw [move?, hworker]
      rfl

/-- A run can go on until the pass is finished. The induction is on the moves that are left. -/
theorem Pool.Bounded.exists_finish {workers : Nat} {p : Pool} (h : p.Bounded jobs workers)
    (hworkers : 0 < workers) (hjobs : ∀ job ∈ jobs, job.cancels = false) :
    ∃ moves p', p.moves? settings jobs moves = some p' ∧ (∀ move ∈ moves, move ≠ .request) ∧
      p'.isFinished = true := by
  by_cases hf : p.isFinished = true
  · exact ⟨[], p, rfl, (fun _ hm => nomatch hm), hf⟩
  · obtain ⟨move, hne, hsome⟩ := h.exists_move settings hworkers (eq_false_of_ne_true hf)
    obtain ⟨next, hmove⟩ := Option.isSome_iff_exists.1 hsome
    have hlt := (of_move? hjobs hmove hne).2
    obtain ⟨moves, p', hmoves, hnes, hfinished⟩ :=
      (h.step (step_of_move? hmove)).exists_finish hworkers hjobs
    refine ⟨move :: moves, p', ?_, ?_, hfinished⟩
    · rw [moves?, hmove]
      exact hmoves
    · intro m hm
      rcases List.mem_cons.1 hm with rfl | hm
      · exact hne
      · exact hnes m hm
termination_by p.movesLeft

/-! ## Results -/

/-- A shared pass without a request has the result of the pass over one file after the other. -/
theorem Pool.Inv.result_eq_analyzeProject {p : Pool} (hinv : p.Inv settings jobs)
    (hf : p.isFinished = true) (hr : p.requested = false) (path : String) (timestamp : Timestamp) :
    p.result path jobs.length timestamp = analyzeProject settings path timestamp false jobs := by
  obtain ⟨os, hos, hstored⟩ := hinv.stored_eq hf hr
  obtain ⟨_, hrun⟩ := hinv.run_eq hr hstored
  rw [result, hos, hr, analyzeProject, hrun]
  rfl

/-- Workers that share a pass over files come to a result, if nobody requests to cancel: each run of
their moves takes at most four moves for a file, and can go on until the pass is finished; and a
finished pass has that result. -/
def WorkersComeTo (settings : Settings) (jobs : List Job) (path : String) (timestamp : Timestamp)
    (project : ProjectAnalysis) : Prop :=
  ∀ workers moves p, 0 < workers →
    (start jobs.length workers).moves? settings jobs moves = some p →
    (∀ move ∈ moves, move ≠ .request) →
    moves.length ≤ 4 * jobs.length ∧
    (∃ more p', p.moves? settings jobs more = some p' ∧ (∀ move ∈ more, move ≠ .request) ∧
      p'.isFinished = true) ∧
    (p.isFinished = true → p.result path jobs.length timestamp = .ok project)

theorem movesLeft_start (files workers : Nat) : (start files workers).movesLeft = 4 * files := by
  have hidle : total ((List.replicate workers Stage.idle).map Stage.movesLeft) = 0 := by
    induction workers with
    | zero => rfl
    | succ workers ih =>
      rw [List.replicate_succ, List.map_cons, total_cons, ih]
      rfl
  rw [movesLeft, start, hidle, List.length_range, Nat.add_zero]

/-- **Workers that share a pass come to the result of the pass over one file after the other.** -/
theorem workersComeTo (hjobs : ∀ job ∈ jobs, job.cancels = false) {path : String}
    {timestamp : Timestamp} {project : ProjectAnalysis}
    (hproject : analyzeProject settings path timestamp false jobs = .ok project) :
    WorkersComeTo settings jobs path timestamp project := by
  intro workers moves p hworkers hmoves hne
  have hinv : p.Inv settings jobs := (inv_start settings jobs workers).moves hmoves
  have hbounded : p.Bounded jobs workers := (bounded_start jobs workers).moves hmoves
  obtain ⟨hr, hlength⟩ := of_moves? hjobs hmoves hne
  rw [movesLeft_start] at hlength
  refine ⟨by omega, hbounded.exists_finish hworkers hjobs, fun hf => ?_⟩
  rw [hinv.result_eq_analyzeProject hf hr path timestamp, hproject]

end Provenance

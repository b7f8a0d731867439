import Provenance.Pool
import Provenance.Proofs.Pass

/-!
# Proofs — Pool

A shared pass has the result of a pass over one file after the other, in whatever order its workers
move (`pool_agrees_with_pass`). A place is left empty only by a worker that has seen a request to
cancel, and a request is never taken back: so where no request is there at the end, no place is
empty, and what stands at each place is the outcome of its file.
-/

namespace Provenance

open Pool

variable {settings : Settings} {jobs : List Job}

/-! ## What a move does -/

/-- All that a move can do to a shared pass. -/
inductive Pool.Step (settings : Settings) (jobs : List Job) (p : Pool) : Pool → Prop where
  | requested : Step settings jobs p { p with requested := true }
  | taken {worker file : Nat} (hidle : p.stages[worker]? = some .idle) (hfile : file ∈ p.waiting) :
    Step settings jobs p { p with
      waiting := p.waiting.erase file, stages := p.stages.set worker (.took file) }
  | cleared {worker file : Nat} (htook : p.stages[worker]? = some (.took file))
    (hclear : p.requested = false) :
    Step settings jobs p { p with stages := p.stages.set worker (.cleared file) }
  /-- A file that was taken after a request gets no outcome. -/
  | dropped {worker file : Nat} (htook : p.stages[worker]? = some (.took file))
    (hrequested : p.requested = true) :
    Step settings jobs p { p with stages := p.stages.set worker .idle }
  | provided {worker file : Nat} {job : Job} (hcleared : p.stages[worker]? = some (.cleared file))
    (hjob : jobs[file]? = some job) :
    Step settings jobs p { p with
      requested := p.requested || job.cancels
      stages := p.stages.set worker (.holds file (job.outcome settings)) }
  | stored {worker file : Nat} {result : Checked Outcome}
    (hholds : p.stages[worker]? = some (.holds file result)) :
    Step settings jobs p { p with
      stages := p.stages.set worker .idle, stored := p.stored.set file (some result) }

theorem Pool.step_of_move? {p p' : Pool} {move : Move} (h : p.move? settings jobs move = some p') :
    Step settings jobs p p' := by
  cases move with
  | request =>
    cases h
    exact .requested
  | take worker file =>
    rw [move?] at h
    split at h
    · rename_i hidle
      split at h
      · rename_i hfile
        cases h
        exact .taken hidle hfile
      · cases h
    · cases h
  | look worker =>
    rw [move?] at h
    split at h
    · rename_i file htook
      cases h
      by_cases hr : p.requested = true
      · rw [if_pos hr]
        exact .dropped htook hr
      · rw [if_neg hr]
        exact .cleared htook (eq_false_of_ne_true hr)
    · cases h
  | provide worker =>
    rw [move?] at h
    split at h
    · rename_i file hcleared
      obtain ⟨job, hjob, rfl⟩ := Option.map_eq_some_iff.1 h
      exact .provided hcleared hjob
    · cases h
  | store worker =>
    rw [move?] at h
    split at h
    · rename_i file result hholds
      cases h
      exact .stored hholds
    · cases h

/-! ## Stages -/

section Stages

variable {stages : List Stage} {worker file : Nat} {old new : Stage}

theorem mem_set_stage (h : stages[worker]? = some old) : new ∈ stages.set worker new := by
  have hlt := (List.getElem?_eq_some_iff.1 h).1
  exact List.mem_of_getElem? (List.getElem?_set_self hlt)

/-- A worker that moves on takes its file along, and all others keep theirs. -/
theorem exists_stage_set (h : stages[worker]? = some old)
    (hs : ∃ stage ∈ stages, stage.file? = some file) :
    old.file? = some file ∨ ∃ stage ∈ stages.set worker new, stage.file? = some file := by
  obtain ⟨stage, hmem, hfile⟩ := hs
  obtain ⟨i, hi⟩ := List.getElem?_of_mem hmem
  by_cases hw : worker = i
  · rw [hw, hi] at h
    cases h
    exact .inl hfile
  · refine .inr ⟨stage, List.mem_of_getElem? (i := i) ?_, hfile⟩
    rw [List.getElem?_set_ne hw, hi]

end Stages

/-! ## The invariant of a shared pass -/

/-- What became of a file, as a worker tells it. A provider that requests cancellation has done so
by then. -/
def IsResultOf (settings : Settings) (jobs : List Job) (requested : Bool) (file : Nat)
    (result : Checked Outcome) : Prop :=
  ∃ job : Job, jobs[file]? = some job ∧ job.outcome settings = result ∧
    (job.cancels = true → requested = true)

theorem IsResultOf.mono {requested requested' : Bool} {file : Nat} {result : Checked Outcome}
    (h : IsResultOf settings jobs requested file result)
    (hr : requested = true → requested' = true) :
    IsResultOf settings jobs requested' file result := by
  obtain ⟨job, hjob, houtcome, hcancels⟩ := h
  exact ⟨job, hjob, houtcome, fun hc => hr (hcancels hc)⟩

/-- A file waits, or a worker is at it, or its outcome is stored. -/
def Pool.Accounts (p : Pool) (file : Nat) : Prop :=
  file ∈ p.waiting ∨ (∃ stage ∈ p.stages, stage.file? = some file) ∨
    ∃ result, p.stored[file]? = some (some result)

/-- Workers hold and store what became of their files, and no file gets lost as long as cancellation
is not requested. -/
structure Pool.Inv (settings : Settings) (jobs : List Job) (p : Pool) : Prop where
  length_stored : p.stored.length = jobs.length
  held : ∀ file result, .holds file result ∈ p.stages →
    IsResultOf settings jobs p.requested file result
  kept : ∀ file result, p.stored[file]? = some (some result) →
    IsResultOf settings jobs p.requested file result
  accounted : p.requested = false → ∀ file < jobs.length, p.Accounts file

theorem Pool.inv_start (settings : Settings) (jobs : List Job) (workers : Nat) :
    (start jobs.length workers).Inv settings jobs where
  length_stored := List.length_replicate
  held file result h := nomatch List.eq_of_mem_replicate h
  kept file result h := by
    rw [start, List.getElem?_replicate] at h
    split at h <;> cases h
  accounted _ file h := .inl (List.mem_range.2 h)

/-- A request to cancel is never taken back. -/
theorem Pool.Step.requested_mono {p p' : Pool} (h : Step settings jobs p p')
    (hr : p.requested = true) : p'.requested = true := by
  cases h with
  | requested => rfl
  | provided => rw [hr, Bool.true_or]
  | taken | cleared | dropped | stored => exact hr

/-- A worker holds what its own provider gave. -/
theorem Pool.Step.held {p p' : Pool} (h : Step settings jobs p p') (hinv : p.Inv settings jobs) :
    ∀ file result, .holds file result ∈ p'.stages →
      IsResultOf settings jobs p'.requested file result := by
  intro file result hmem
  have hmono := h.requested_mono
  cases h with
  | requested => exact (hinv.held file result hmem).mono hmono
  | taken | cleared | dropped | stored =>
    rcases List.mem_or_eq_of_mem_set hmem with hmem | he
    · exact (hinv.held file result hmem).mono hmono
    · cases he
  | provided _ hjob =>
    rcases List.mem_or_eq_of_mem_set hmem with hmem | he
    · exact (hinv.held file result hmem).mono hmono
    · cases he
      exact ⟨_, hjob, rfl, fun hc => by rw [hc, Bool.or_true]⟩

/-- What is stored is what a worker held. -/
theorem Pool.Step.kept {p p' : Pool} (h : Step settings jobs p p') (hinv : p.Inv settings jobs) :
    ∀ file result, p'.stored[file]? = some (some result) →
      IsResultOf settings jobs p'.requested file result := by
  intro file result hget
  have hmono := h.requested_mono
  cases h with
  | requested | taken | cleared | dropped | provided =>
    exact (hinv.kept file result hget).mono hmono
  | @stored worker file' result' hholds =>
    rw [List.getElem?_set] at hget
    split at hget
    · rename_i he
      subst he
      split at hget
      · cases hget
        exact hinv.held _ _ (List.mem_of_getElem? hholds)
      · cases hget
    · exact hinv.kept file result hget

/-- A file that was accounted for still is, unless its worker has seen a request. -/
theorem Pool.Step.accounts {p p' : Pool} (h : Step settings jobs p p')
    (hlen : p.stored.length = jobs.length) (hr : p'.requested = false) {file : Nat}
    (hlt : file < jobs.length) (hfile : p.Accounts file) : p'.Accounts file := by
  cases h with
  | requested => cases hr
  -- the only way in which a file gets lost
  | dropped _ hrequested =>
    rw [hrequested] at hr
    cases hr
  | @taken worker file' hidle _ =>
    rcases hfile with hwait | hstage | hstored
    · by_cases he : file = file'
      · subst he
        exact .inr (.inl ⟨_, mem_set_stage hidle, rfl⟩)
      · exact .inl ((List.mem_erase_of_ne he).2 hwait)
    · rcases exists_stage_set hidle hstage with he | hstage
      · cases he
      · exact .inr (.inl hstage)
    · exact .inr (.inr hstored)
  | cleared hstage' | provided hstage' =>
    rcases hfile with hwait | hstage | hstored
    · exact .inl hwait
    · rcases exists_stage_set hstage' hstage with he | hstage
      · exact .inr (.inl ⟨_, mem_set_stage hstage', he⟩)
      · exact .inr (.inl hstage)
    · exact .inr (.inr hstored)
  | @stored worker file' result hholds =>
    have hplace : file = file' →
        (p.stored.set file' (some result))[file]? = some (some result) := by
      rintro rfl
      exact List.getElem?_set_self (by omega)
    rcases hfile with hwait | hstage | ⟨result', hstored⟩
    · exact .inl hwait
    · rcases exists_stage_set hholds hstage with he | hstage
      · cases he
        exact .inr (.inr ⟨result, hplace rfl⟩)
      · exact .inr (.inl hstage)
    · by_cases he : file = file'
      · exact .inr (.inr ⟨result, hplace he⟩)
      · refine .inr (.inr ⟨result', ?_⟩)
        rw [List.getElem?_set_ne (Ne.symm he), hstored]

theorem Pool.Step.length_stored {p p' : Pool} (h : Step settings jobs p p') :
    p'.stored.length = p.stored.length := by
  cases h with
  | stored => exact List.length_set
  | requested | taken | cleared | dropped | provided => rfl

/-- **A move keeps the invariant.** -/
theorem Pool.Inv.step {p p' : Pool} (hinv : p.Inv settings jobs) (h : Step settings jobs p p') :
    p'.Inv settings jobs where
  length_stored := h.length_stored.trans hinv.length_stored
  held := h.held hinv
  kept := h.kept hinv
  accounted hr file hlt := by
    have hbefore : p.requested = false :=
      eq_false_of_ne_true fun ht => by rw [h.requested_mono ht] at hr; cases hr
    exact h.accounts hinv.length_stored hr hlt (hinv.accounted hbefore file hlt)

theorem Pool.Inv.moves {p p' : Pool} (hinv : p.Inv settings jobs) {moves : List Move}
    (h : p.moves? settings jobs moves = some p') : p'.Inv settings jobs := by
  induction moves generalizing p with
  | nil =>
    cases h
    exact hinv
  | cons move moves ih =>
    obtain ⟨next, hmove, h⟩ := Option.bind_eq_some_iff.1 h
    exact ih (hinv.step (step_of_move? hmove)) h

/-! ## Finished passes -/

section Finished

variable {p : Pool}

/-- Where no request is there at the end, each file has its outcome. -/
theorem Pool.Inv.stored_of_finished (hinv : p.Inv settings jobs) (hf : p.isFinished = true)
    (hr : p.requested = false) {file : Nat} (hlt : file < jobs.length) :
    ∃ result, p.stored[file]? = some (some result) := by
  obtain ⟨hwaiting, hidle⟩ := Bool.and_eq_true_iff.1 hf
  -- nothing waits, and no worker is at a file
  rcases hinv.accounted hr file hlt with hwait | ⟨stage, hmem, hfile⟩ | hstored
  · rw [List.isEmpty_iff.1 hwaiting] at hwait
    cases hwait
  · have hstage := List.all_eq_true.1 hidle stage hmem
    cases stage with
    | idle => cases hfile
    | took file => cases hstage
    | cleared file => cases hstage
    | holds file result => cases hstage
  · exact hstored

/-- What is stored are outcomes, and no faults. -/
theorem gives_outcomes {stored : List (Option (Checked Outcome))}
    (h : ∀ result, some result ∈ stored → ∃ outcome, result = .ok outcome) :
    Gives (outcomes stored) fun os => os.map Except.ok = stored.filterMap id := by
  induction stored with
  | nil => exact .ok rfl
  | cons result? rest ih =>
    have ih := ih fun result hr => h result (List.mem_cons_of_mem _ hr)
    cases result? with
    | none => exact ih
    | some result =>
      obtain ⟨outcome, rfl⟩ := h result List.mem_cons_self
      exact ih.bind fun os hos => .pure (by rw [List.map_cons, hos]; rfl)

theorem Pool.Inv.gives_outcomes (hinv : p.Inv settings jobs) :
    Gives (outcomes p.stored) fun os => os.map Except.ok = p.stored.filterMap id := by
  refine Provenance.gives_outcomes fun result hmem => ?_
  obtain ⟨file, hfile⟩ := List.getElem?_of_mem hmem
  obtain ⟨job, _, rfl, _⟩ := hinv.kept file result hfile
  obtain ⟨outcome, houtcome, _⟩ := gives_outcome settings job
  exact ⟨outcome, houtcome⟩

/-- A list without empty places is given by what stands at its places. -/
theorem eq_map_some {α : Type} {places : List (Option α)} (h : ∀ x ∈ places, x.isSome = true) :
    places = (places.filterMap id).map some := by
  induction places with
  | nil => rfl
  | cons x places ih =>
    have ih := ih fun y hy => h y (List.mem_cons_of_mem _ hy)
    obtain ⟨a, rfl⟩ := Option.isSome_iff_exists.1 (h x List.mem_cons_self)
    rw [List.filterMap_cons, id, List.map_cons, ← ih]

/-- Where no request is there at the end, each place holds the outcome of its file. -/
theorem Pool.Inv.stored_eq (hinv : p.Inv settings jobs) (hf : p.isFinished = true)
    (hr : p.requested = false) :
    ∃ os, outcomes p.stored = .ok os ∧ p.stored = os.map (some ∘ Except.ok) := by
  obtain ⟨os, hos, hmap⟩ := hinv.gives_outcomes
  refine ⟨os, hos, ?_⟩
  have hfull : ∀ x ∈ p.stored, x.isSome = true := by
    intro x hx
    obtain ⟨file, hfile⟩ := List.getElem?_of_mem hx
    have hlt : file < jobs.length := hinv.length_stored ▸ (List.getElem?_eq_some_iff.1 hfile).1
    obtain ⟨result, hresult⟩ := hinv.stored_of_finished hf hr hlt
    rw [hfile] at hresult
    cases hresult
    rfl
  rw [← List.map_map, hmap]
  exact eq_map_some hfull

/-- A pass without a request gives what a run over one file after the other gives. -/
theorem Pool.Inv.run_eq (hinv : p.Inv settings jobs) (hr : p.requested = false)
    {os : List Outcome} (hos : p.stored = os.map (some ∘ Except.ok)) :
    AreOutcomesOf settings jobs os ∧ run settings false jobs = .ok ⟨os, false⟩ := by
  have hlength : os.length = jobs.length := by
    rw [← hinv.length_stored, hos, List.length_map]
  have hkept : ∀ (i : Nat) (o : Outcome), os[i]? = some o →
      IsResultOf settings jobs p.requested i (.ok o) := by
    intro i o ho
    refine hinv.kept i _ ?_
    rw [hos, List.getElem?_map, ho]
    rfl
  have hare : AreOutcomesOf settings jobs os := by
    intro i o ho
    obtain ⟨job, hjob, houtcome, _⟩ := hkept i o ho
    exact ⟨job, hjob, houtcome⟩
  -- a file that requests cancellation would have been noticed with its outcome
  have hcancels : jobs.any Job.cancels = false := by
    refine List.any_eq_false.2 fun job hmem hc => ?_
    obtain ⟨i, hi⟩ := List.getElem?_of_mem hmem
    have hlt : i < os.length := hlength ▸ (List.getElem?_eq_some_iff.1 hi).1
    obtain ⟨job', hjob', _, hrequest⟩ := hkept i _ (List.getElem?_eq_getElem hlt)
    rw [hi] at hjob'
    cases hjob'
    rw [hrequest hc] at hr
    cases hr
  obtain ⟨⟨os', cancelled⟩, hrun, hcancelled, hare', hlength'⟩ := gives_run settings false jobs
  rw [Bool.false_or, hcancels] at hcancelled
  have hcancelled : cancelled = false := hcancelled
  subst hcancelled
  have hsame : os' = os := hare.unique hlength hare' (hlength' rfl)
  rw [hrun, hsame]
  exact ⟨hare, rfl⟩

/-- What was stored is counted. -/
theorem Pool.Inv.length_outcomes (hinv : p.Inv settings jobs) :
    Gives (outcomes p.stored) fun os => os.length = p.completed ∧ p.completed ≤ jobs.length := by
  refine hinv.gives_outcomes.mono fun os hos => ⟨?_, ?_⟩
  · rw [completed, ← List.length_map (f := Except.ok (ε := Fault)), hos]
    exact List.length_filterMap_eq_countP
  · rw [← hinv.length_stored]
    exact List.countP_le_length

/-- Where no request is there at the end, no outcome is missing. -/
theorem Pool.Inv.outcome_stored (hinv : p.Inv settings jobs) (hf : p.isFinished = true)
    (hr : p.requested = false) {file : Nat} (hlt : file < jobs.length) :
    ∃ outcome, p.stored[file]? = some (some (.ok outcome)) := by
  obtain ⟨result, hresult⟩ := hinv.stored_of_finished hf hr hlt
  obtain ⟨job, _, rfl, _⟩ := hinv.kept file result hresult
  obtain ⟨outcome, houtcome, _⟩ := gives_outcome settings job
  exact ⟨outcome, by rw [hresult, houtcome]⟩

/-- Where no request is there at the end, the result is that of a pass over one file after the
other. -/
theorem Pool.Inv.result_eq (hinv : p.Inv settings jobs) (hf : p.isFinished = true)
    (hr : p.requested = false) (path : String) (timestamp timestamp' : Timestamp) :
    ∃ project, p.result path jobs.length timestamp = .ok project ∧
      analyzeProject settings path timestamp' false jobs =
        .ok { project with timestamp := timestamp' } := by
  obtain ⟨os, hos, hstored⟩ := hinv.stored_eq hf hr
  obtain ⟨hare, hrun⟩ := hinv.run_eq hr hstored
  obtain ⟨project, hproject, _⟩ := gives_result hare path jobs.length timestamp
  refine ⟨project, ?_, ?_⟩
  · rw [result, hos, hr]
    exact hproject
  · rw [analyzeProject, hrun]
    exact result_timestamp hproject timestamp'

/-- Where a request is there at the end, there is no result, but the count of what was stored. -/
theorem Pool.Inv.result_of_requested (hinv : p.Inv settings jobs) (hr : p.requested = true)
    (path : String) (timestamp : Timestamp) :
    p.result path jobs.length timestamp =
      .error (.failure (.cancelled p.completed jobs.length)) ∧ p.completed ≤ jobs.length := by
  obtain ⟨os, hos, hlength, hle⟩ := hinv.length_outcomes
  refine ⟨?_, hle⟩
  rw [result, hos, hr]
  show Except.error (AnalysisError.failure (.cancelled os.length jobs.length)) = _
  rw [hlength]

end Finished

/-! ## Agreement -/

/-- **A shared pass agrees with a pass over one file after the other**, for any files, any count of
workers and any order of their moves. Where cancellation is not requested at the end, no outcome is
missing, and the result is that of the pass over one file after the other, but for the time it tells
of. Where it is requested there is no result; the outcomes that were stored are told, and how many
files there are. -/
theorem pool_agrees_with_pass (settings : Settings) (jobs : List Job) (workers : Nat)
    (moves : List Move) {p : Pool}
    (hmoves : (start jobs.length workers).moves? settings jobs moves = some p)
    (hfinished : p.isFinished = true) (path : String) (timestamp timestamp' : Timestamp) :
    (p.requested = false →
      (∀ file < jobs.length, ∃ outcome, p.stored[file]? = some (some (.ok outcome))) ∧
      ∃ project, p.result path jobs.length timestamp = .ok project ∧
        analyzeProject settings path timestamp' false jobs =
          .ok { project with timestamp := timestamp' }) ∧
    (p.requested = true →
      p.result path jobs.length timestamp =
        .error (.failure (.cancelled p.completed jobs.length)) ∧
      p.completed ≤ jobs.length) := by
  have hinv : p.Inv settings jobs := (inv_start settings jobs workers).moves hmoves
  constructor
  · intro hr
    exact ⟨fun file hlt => hinv.outcome_stored hfinished hr hlt,
      hinv.result_eq hfinished hr path timestamp timestamp'⟩
  · intro hr
    exact hinv.result_of_requested hr path timestamp

/-! ## Two workers -/

/-- A file with a text, and one whose provider fails. -/
def twoJobs : List Job :=
  [⟨"a.py", .ok (.text ['x', '=', '1']), false⟩, ⟨"b.py", .error (.missingKey "b"), false⟩]

/-- Two workers take a file each, and the one that was later is done first. -/
def crossedMoves : List Move :=
  [.take 0 0, .take 1 1, .look 0, .look 1, .provide 1, .store 1, .provide 0, .store 0]

/-- Both files have their outcomes, and both workers rest. -/
def crossedPool : Pool where
  waiting := []
  stages := [.idle, .idle]
  requested := false
  stored := twoJobs.map fun job => some (job.outcome .standard)

theorem crossedPool_agrees :
    (start twoJobs.length 2).moves? .standard twoJobs crossedMoves = some crossedPool ∧
    crossedPool.isFinished = true ∧ crossedPool.requested = false ∧
    ∃ project, crossedPool.result "" 2 ⟨2000, 1, 1, 0, 0, 0, 0⟩ = .ok project ∧
      analyzeProject .standard "" ⟨2000, 1, 1, 0, 0, 0, 1⟩ false twoJobs =
        .ok { project with timestamp := ⟨2000, 1, 1, 0, 0, 0, 1⟩ } := by
  have hmoves : (start twoJobs.length 2).moves? .standard twoJobs crossedMoves =
      some crossedPool := rfl
  have h := pool_agrees_with_pass .standard twoJobs 2 crossedMoves hmoves rfl ""
    ⟨2000, 1, 1, 0, 0, 0, 0⟩ ⟨2000, 1, 1, 0, 0, 0, 1⟩
  exact ⟨hmoves, rfl, rfl, (h.1 rfl).2⟩

end Provenance

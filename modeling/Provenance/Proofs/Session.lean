import Provenance.Proofs.Cache
import Provenance.Proofs.Pass
import Provenance.Workspace

/-!
# Proofs — Session

Runs of a workspace while the files on disk change. A session is a list of calls, of any length and
in any order; its turns tell what was called, on which disk, and what the answer was. What version
control lists is part of a call, as it can change like the disk. What the turns say of a file is
what the workspace keeps of it (`workspace_keeps_latest`).
-/

namespace Provenance

/-! ## Sessions -/

/-- What happens to a workspace or to the files that it looks at. -/
inductive Call where
  | analyzeProject (control : VersionControl) (root : String) (cancellation : Cancellation)
    (timestamp : Timestamp)
  | analyzeFile (path : String) (text : Option (List Char)) (unsaved : Bool)
  | get (path : String)
  | clear
  | write (path : String) (bytes : List UInt8)
  | delete (path : String)

/-- What a call answers. -/
inductive Answer where
  | project (result : Except AnalysisError (Option ProjectAnalysis))
  | file (result : Except AnalysisError FileAnalysis)
  | kept (analysis : Option FileAnalysis)
  | done

/-- A call ended in an error, or was cancelled. -/
def Answer.Fails : Answer → Prop
  | .project (.ok (some _)) => False
  | .project _ => True
  | .file (.error _) => True
  | _ => False

/-- A call on a disk, and its answer. -/
structure Turn where
  disk : Disk
  call : Call
  answer : Answer

/-- A workspace, the disk that it looks at, and what was called so far, the latest turn first. -/
structure Session where
  workspace : Workspace
  disk : Disk
  turns : List Turn

namespace Session

/-- The answer of a call, and the workspace and the disk after it. -/
def respond (w : Workspace) (disk : Disk) : Call → Answer × Workspace × Disk
  | .analyzeProject control root cancellation timestamp =>
    let (result, next) := w.analyzeProject control disk root cancellation timestamp
    (.project result, next, disk)
  | .analyzeFile path text unsaved =>
    let (result, next) := w.analyzeFile disk path text unsaved
    (.file result, next, disk)
  | .get path => (.kept (w.get? disk path), w, disk)
  | .clear => (.done, w.clear, disk)
  | .write path bytes => (.done, w, disk.write path bytes)
  | .delete path => (.done, w, disk.delete path)

def step (s : Session) (call : Call) : Session :=
  let (answer, workspace, disk) := respond s.workspace s.disk call
  ⟨workspace, disk, ⟨s.disk, call, answer⟩ :: s.turns⟩

/-- A workspace that nothing was asked of. -/
def start (settings : Settings) (disk : Disk) : Session := ⟨{ settings }, disk, []⟩

def run (s : Session) (calls : List Call) : Session := calls.foldl step s

end Session

/-! ## What the turns say -/

/-- The record of a key: that of the latest turn that analysed the file, since the last clearing. A
file without unsaved edits is not analysed again while it has a record. -/
def recordOf (key : String) : List Turn → Option FileAnalysis
  | [] => none
  | turn :: earlier =>
    match turn.call, turn.answer with
    | .clear, _ => none
    | .analyzeProject _ _ _ _, .project (.ok (some project)) =>
      (lastOf key project.files).or (recordOf key earlier)
    | .analyzeFile path _ unsaved, .file (.ok analysis) =>
      if Workspace.key turn.disk path = key then
        if unsaved then some analysis else (recordOf key earlier).or (some analysis)
      else recordOf key earlier
    | _, _ => recordOf key earlier

/-- The result of the latest pass that was not cancelled, since the last clearing. -/
def lastProject : List Turn → Option ProjectAnalysis
  | [] => none
  | turn :: earlier =>
    match turn.call, turn.answer with
    | .clear, _ => none
    | .analyzeProject _ _ _ _, .project (.ok (some project)) => some project
    | _, _ => lastProject earlier

/-! ## What a call does -/

/-- All that a call can answer and leave behind. -/
inductive Effect (w : Workspace) (disk : Disk) : Call → Answer → Workspace → Prop where
  | projectAnalyzed {control root cancellation timestamp project} :
    Effect w disk (.analyzeProject control root cancellation timestamp)
      (.project (.ok (some project)))
      { w with cache := w.cache.putAll project.files, current := some project }
  | projectFailed {control root cancellation timestamp result}
    (h : (Answer.project result).Fails) :
    Effect w disk (.analyzeProject control root cancellation timestamp) (.project result) w
  /-- A file that has a record is answered with it, unless it has unsaved edits. -/
  | fileServed {path text analysis}
    (h : w.cache.get? (Workspace.key disk path) = some analysis) :
    Effect w disk (.analyzeFile path text false) (.file (.ok analysis)) w
  /-- Any other file is analysed, and the analysis is kept. -/
  | fileAnalyzed {path text unsaved analysis}
    (h : unsaved = false → w.cache.get? (Workspace.key disk path) = none)
    (hpath : analysis.path = Workspace.key disk path) :
    Effect w disk (.analyzeFile path text unsaved) (.file (.ok analysis))
      { w with cache := w.cache.put (Workspace.key disk path) analysis }
  | fileFailed {path text unsaved error} :
    Effect w disk (.analyzeFile path text unsaved) (.file (.error error)) w
  | got {path} : Effect w disk (.get path) (.kept (w.get? disk path)) w
  | cleared : Effect w disk .clear .done w.clear
  | written {path bytes} : Effect w disk (.write path bytes) .done w
  | deleted {path} : Effect w disk (.delete path) .done w

section Effects

variable (w : Workspace) (disk : Disk)

theorem effect_analyzeProject (control : VersionControl) (root : String)
    (cancellation : Cancellation) (timestamp : Timestamp) :
    Effect w disk (.analyzeProject control root cancellation timestamp)
      (.project (w.analyzeProject control disk root cancellation timestamp).1)
      (w.analyzeProject control disk root cancellation timestamp).2 := by
  rw [Workspace.analyzeProject]
  split
  · exact .projectAnalyzed
  · exact .projectFailed trivial
  · exact .projectFailed trivial

theorem effect_analyzeAnew {path : String} {text : Option (List Char)} {unsaved : Bool}
    (h : unsaved = false → w.cache.get? (Workspace.key disk path) = none) :
    Effect w disk (.analyzeFile path text unsaved)
      (.file (w.analyzeAnew disk (Workspace.key disk path) text).1)
      (w.analyzeAnew disk (Workspace.key disk path) text).2 := by
  rw [Workspace.analyzeAnew]
  split
  · exact .fileFailed
  · split
    · rename_i ha
      exact .fileAnalyzed h (path_of_analyzeFile ha)
    · exact .fileFailed

theorem effect_analyzeFile (path : String) (text : Option (List Char)) (unsaved : Bool) :
    Effect w disk (.analyzeFile path text unsaved)
      (.file (w.analyzeFile disk path text unsaved).1)
      (w.analyzeFile disk path text unsaved).2 := by
  rw [Workspace.analyzeFile]
  cases unsaved with
  | true => exact effect_analyzeAnew w disk fun h => nomatch h
  | false =>
    cases hget : w.cache.get? (Workspace.key disk path) with
    | none =>
      simp only [Bool.false_eq_true, if_false]
      exact effect_analyzeAnew w disk fun _ => hget
    | some analysis =>
      simp only [Bool.false_eq_true, if_false]
      exact .fileServed hget

/-- **A call does nothing else.** -/
theorem effect_respond (call : Call) :
    Effect w disk call (Session.respond w disk call).1 (Session.respond w disk call).2.1 := by
  cases call with
  | analyzeProject control root cancellation timestamp =>
    exact effect_analyzeProject w disk control root cancellation timestamp
  | analyzeFile path text unsaved => exact effect_analyzeFile w disk path text unsaved
  | get path => exact .got
  | clear => exact .cleared
  | write path bytes => exact .written
  | delete path => exact .deleted

end Effects

/-- A call that fails leaves the workspace as it was. -/
theorem Effect.eq_of_fails {w w' : Workspace} {disk : Disk} {call : Call} {answer : Answer}
    (h : Effect w disk call answer w') (hf : answer.Fails) : w' = w := by
  cases h with
  | projectAnalyzed | fileAnalyzed | cleared => cases hf
  | projectFailed | fileServed | fileFailed | got | written | deleted => rfl

/-- A pass that is cancelled in time leaves the workspace as it was. -/
theorem Workspace.analyzeProject_cancelled (w : Workspace) (control : VersionControl) (disk : Disk)
    {root : String} {cancellation : Cancellation} (timestamp : Timestamp)
    (h : cancellation.Reaches (discover control disk w.settings.discovery root).length) :
    w.analyzeProject control disk root cancellation timestamp = (.ok none, w) := by
  have hjobs : cancellation.Reaches
      (jobs disk w.settings (discover control disk w.settings.discovery root)).length := by
    rwa [jobs, List.length_map]
  obtain ⟨completed, hcancelled⟩ := Provenance.analyzeProject_cancelled w.settings
    (key disk root) timestamp hjobs.cancels
  rw [analyzeProject, hcancelled]

/-! ## The invariant of a session -/

/-- The workspace keeps what the turns say. -/
structure Session.Inv (s : Session) : Prop where
  record_eq : ∀ key, s.workspace.cache.get? key = recordOf key s.turns
  record_path : ∀ key a, s.workspace.cache.get? key = some a → a.path = key
  current_eq : s.workspace.current = lastProject s.turns

theorem Session.inv_start (settings : Settings) (disk : Disk) : (start settings disk).Inv where
  record_eq _ := rfl
  record_path _ _ h := nomatch h
  current_eq := rfl

/-- Records keep their paths when a call puts in others. -/
theorem Effect.record_path {w w' : Workspace} {disk : Disk} {call : Call} {answer : Answer}
    (h : Effect w disk call answer w')
    (hpath : ∀ key a, w.cache.get? key = some a → a.path = key) :
    ∀ key a, w'.cache.get? key = some a → a.path = key := by
  intro key a ha
  cases h with
  | projectAnalyzed =>
    rw [Cache.get?_putAll, Option.or_eq_some_iff] at ha
    rcases ha with ha | ⟨_, ha⟩
    · exact (path_of_lastOf ha).2
    · exact hpath key a ha
  | fileAnalyzed _ hp =>
    rw [Cache.get?_put] at ha
    split at ha
    · rename_i hkey
      cases ha
      rw [hp, hkey]
    · exact hpath key a ha
  | cleared => cases ha
  | projectFailed | fileServed | fileFailed | got | written | deleted => exact hpath key a ha

/-- A turn changes the record of a key as the call changes the cache. -/
theorem Effect.record_eq {w w' : Workspace} {disk : Disk} {call : Call} {answer : Answer}
    (h : Effect w disk call answer w') {turns : List Turn}
    (hrecord : ∀ key, w.cache.get? key = recordOf key turns) (key : String) :
    w'.cache.get? key = recordOf key (⟨disk, call, answer⟩ :: turns) := by
  cases h with
  | projectAnalyzed => rw [Cache.get?_putAll, recordOf, hrecord]
  | @projectFailed _ _ _ _ result hf =>
    rw [hrecord]
    cases result with
    | error e => rfl
    | ok project? =>
      cases project? with
      | none => rfl
      | some project => cases hf
  | fileServed hget =>
    -- a file that is served is not analysed again: its record stays the one it had
    simp only [recordOf, Bool.false_eq_true, if_false]
    split
    · rename_i hkey
      rw [← hrecord, ← hkey, hget, Option.some_or]
    · exact hrecord key
  | @fileAnalyzed path text unsaved analysis hnone _ =>
    rw [Cache.get?_put]
    simp only [recordOf]
    by_cases hkey : Workspace.key disk path = key
    · rw [if_pos hkey.symm, if_pos hkey]
      cases unsaved with
      | true => rfl
      | false =>
        rw [← hrecord, ← hkey, hnone rfl]
        rfl
    · rw [if_neg (Ne.symm hkey), if_neg hkey, hrecord]
  | cleared => rfl
  | fileFailed | got | written | deleted => exact hrecord key

theorem Effect.current_eq {w w' : Workspace} {disk : Disk} {call : Call} {answer : Answer}
    (h : Effect w disk call answer w') {turns : List Turn}
    (hcurrent : w.current = lastProject turns) :
    w'.current = lastProject (⟨disk, call, answer⟩ :: turns) := by
  cases h with
  | projectAnalyzed => rfl
  | @projectFailed _ _ _ _ result hf =>
    rw [hcurrent]
    cases result with
    | error e => rfl
    | ok project? =>
      cases project? with
      | none => rfl
      | some project => cases hf
  | cleared => rfl
  | fileServed | fileAnalyzed | fileFailed | got | written | deleted => exact hcurrent

/-- A call keeps the invariant. -/
theorem Session.Inv.step {s : Session} (h : s.Inv) (call : Call) : (s.step call).Inv := by
  have heffect := effect_respond s.workspace s.disk call
  exact ⟨heffect.record_eq h.record_eq, heffect.record_path h.record_path,
    heffect.current_eq h.current_eq⟩

theorem Session.Inv.run {s : Session} (h : s.Inv) (calls : List Call) : (s.run calls).Inv := by
  induction calls generalizing s with
  | nil => exact h
  | cons call calls ih => exact ih (h.step call)

/-! ## Runs -/

/-- A file without unsaved edits is served from what is kept, whatever is on disk. -/
theorem Workspace.analyzeFile_served (w : Workspace) (disk : Disk) {path : String}
    {a : FileAnalysis} (h : w.cache.get? (key disk path) = some a) (text : Option (List Char)) :
    w.analyzeFile disk path text false = (.ok a, w) := by
  rw [analyzeFile]
  simp only [Bool.false_eq_true, if_false, h]

/-- **A workspace keeps the latest.** After any calls, between which files are written and deleted,
and whatever version control lists:

* the cache has one entry for each key that was analysed since the last clearing, with the record of
  the latest turn that analysed it, and each record is one of the file at its key;
* a file without unsaved edits that has a record is answered with it, whatever is on disk or passed
  as its text, and nothing changes;
* the current analysis is that of the latest pass that was not cancelled;
* a call that ends in an error or is cancelled changes nothing, and a pass that is cancelled before
  its last file is done has no analysis. -/
theorem workspace_keeps_latest (settings : Settings) (disk : Disk) (calls : List Call) :
    let s := (Session.start settings disk).run calls
    (∀ key, (s.workspace.cache.entries.filter fun e => e.1 = key) =
      (recordOf key s.turns).toList.map fun a => (key, a)) ∧
    (∀ e ∈ s.workspace.cache.entries, e.2.path = e.1) ∧
    (∀ disk path text a, s.workspace.cache.get? (Workspace.key disk path) = some a →
      s.workspace.analyzeFile disk path text false = (.ok a, s.workspace)) ∧
    s.workspace.current = lastProject s.turns ∧
    (∀ call, (Session.respond s.workspace s.disk call).1.Fails →
      (s.step call).workspace = s.workspace) ∧
    (∀ control root cancellation timestamp,
      cancellation.Reaches (discover control s.disk s.workspace.settings.discovery root).length →
      s.workspace.analyzeProject control s.disk root cancellation timestamp =
        (.ok none, s.workspace)) := by
  intro s
  have h : s.Inv := (Session.inv_start settings disk).run calls
  refine ⟨fun key => ?_, fun e he => ?_, fun disk path text a ha => ?_, h.current_eq,
    fun call hf => ?_, fun control root cancellation timestamp hr => ?_⟩
  · rw [Cache.filter_entries, h.record_eq]
  · exact h.record_path e.1 e.2 (Cache.get?_of_mem he)
  · exact s.workspace.analyzeFile_served disk ha text
  · exact (effect_respond s.workspace s.disk call).eq_of_fails hf
  · exact s.workspace.analyzeProject_cancelled control s.disk timestamp hr

end Provenance

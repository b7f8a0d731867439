import Provenance.Cache
import Provenance.Discovery
import Provenance.Pass

/-!
# Workspace

A workspace keeps the latest analysis of each file and the latest analysis of a whole project. A
file with unsaved edits is analysed anew whatever is kept; any other is served from what is kept. A
pass over a project is all or nothing: only a pass that was not cancelled leaves anything behind.
-/

namespace Provenance

/-- What a workspace keeps. -/
structure Workspace where
  settings : Settings
  cache : Cache := .empty
  current : Option ProjectAnalysis := none

/-- A result, and the workspace after it. -/
abbrev Workspace.Step (α : Type) := Except AnalysisError α × Workspace

namespace Workspace

/-- The path that the analysis of a file is kept under. -/
def key (disk : Disk) (path : String) : String := (disk.resolve path).text

/-- The jobs of a pass over files on disk. -/
def jobs (disk : Disk) (settings : Settings) (paths : List Path) : List Job :=
  paths.map fun path => {
    path := path.text
    provided :=
      ((disk.load path.text (settings.discovery.maxFileSize.val : Nat)).mapError .known).map .text }

/-- A pass over the source files below a folder. A cancelled pass has no analysis. -/
def analyzeProject (w : Workspace) (control : VersionControl) (disk : Disk) (root : String)
    (cancellation : Cancellation) (timestamp : Timestamp) : Step (Option ProjectAnalysis) :=
  let paths := discover control disk w.settings.discovery root
  match Provenance.analyzeProject w.settings (key disk root) timestamp cancellation.atStart
      (cancellation.mark (jobs disk w.settings paths)) with
  | .ok project =>
    (.ok (some project), { w with cache := w.cache.putAll project.files, current := some project })
  | .error (.failure (.cancelled _ _)) => (.ok none, w)
  | .error e => (.error e, w)

/-- The content of a file: the given text, or what is on disk. -/
def contentOf (w : Workspace) (disk : Disk) (key : String) (text : Option (List Char)) :
    Except Failure Content :=
  match text with
  | some cs => .ok (.text cs)
  | none => (disk.load key (w.settings.discovery.maxFileSize.val : Nat)).map .text

/-- The analysis of one file, and a workspace that keeps it. `text` is the text of a file with
unsaved edits; without it the file is read from disk. -/
def analyzeAnew (w : Workspace) (disk : Disk) (key : String) (text : Option (List Char)) :
    Step FileAnalysis :=
  match w.contentOf disk key text with
  | .error failure => (.error (.failure failure), w)
  | .ok content =>
    match analyzeFile w.settings key content with
    | .ok analysis => (.ok analysis, { w with cache := w.cache.put key analysis })
    | .error e => (.error e, w)

/-- The analysis of one file, as it is kept unless the file has unsaved edits. -/
def analyzeFile (w : Workspace) (disk : Disk) (path : String) (text : Option (List Char))
    (unsaved : Bool) : Step FileAnalysis :=
  let key := key disk path
  match if unsaved then none else w.cache.get? key with
  | some analysis => (.ok analysis, w)
  | none => w.analyzeAnew disk key text

/-- The analysis that is kept of a file. -/
def get? (w : Workspace) (disk : Disk) (path : String) : Option FileAnalysis :=
  w.cache.get? (key disk path)

/-- A workspace that keeps nothing. -/
def clear (w : Workspace) : Workspace := { w with cache := .empty, current := none }

end Workspace

end Provenance

import Provenance.FileAnalysis
import Provenance.Number.Total
import Provenance.Path
import Provenance.Timestamp

/-!
# ProjectAnalysis

The analyses of the files of a project as one: line counts are summed before they are divided, so
that a large file weighs more than a small one. The same is done for every folder that directly
holds analysed files.
-/

namespace Provenance

/-! ## Records -/

/-- A file that was found and has no analysis. -/
structure SkippedFile where
  path : String
  reason : String
  deriving DecidableEq

/-- The analysis of a project. -/
structure ProjectAnalysis where
  path : String
  totalFiles : Int
  analyzedFiles : Nat
  totalLines : Int
  generatedLines : Int
  humanLines : Int
  generatedPercentage : Int
  files : List FileAnalysis
  skipped : List SkippedFile
  timestamp : Timestamp
  deriving DecidableEq

/-- The files directly inside a folder as one. -/
structure FolderSummary where
  path : String
  files : Nat
  generatedLines : Int
  humanLines : Int
  generatedPercentage : Int
  deriving DecidableEq

/-! ## Sums -/

/-- The generated lines of some files. -/
def sumGenerated (files : List FileAnalysis) : Int := total (files.map fun f => f.generatedLines)

/-- The human lines of some files. -/
def sumHuman (files : List FileAnalysis) : Int := total (files.map fun f => f.humanLines)

/-- The share of generated lines among the attributed lines of some files, in percent. -/
def sharedPercentage (files : List FileAnalysis) : Checked Int :=
  countPercentage (sumGenerated files) (sumGenerated files + sumHuman files)

/-- The analyses of some files as one. -/
def aggregate (path : String) (totalFiles : Int) (files : List FileAnalysis)
    (skipped : List SkippedFile) (timestamp : Timestamp) : Checked ProjectAnalysis := do
  let generatedPercentage ← sharedPercentage files
  return {
    path, totalFiles
    analyzedFiles := files.length
    totalLines := total (files.map fun f => f.totalLines)
    generatedLines := sumGenerated files
    humanLines := sumHuman files
    generatedPercentage, files, skipped, timestamp }

/-! ## Folders -/

/-- The folder that directly holds a file, as seen from the project if it lies in it. -/
def folderOf (projectPath filePath : String) : String :=
  let parent := (Path.ofString filePath).parent
  if projectPath = "" then parent.text
  else ((parent.relativeTo? (Path.ofString projectPath)).getD parent).text

/-- The files of a folder. -/
def filesIn (projectPath : String) (files : List FileAnalysis) (folder : String) :
    List FileAnalysis :=
  files.filter fun f => folderOf projectPath f.path == folder

/-- The files of a folder as one. -/
def summarizeFolder (folder : String) (files : List FileAnalysis) : Checked FolderSummary := do
  let generatedPercentage ← sharedPercentage files
  return {
    path := folder
    files := files.length
    generatedLines := sumGenerated files
    humanLines := sumHuman files
    generatedPercentage }

/-- Whether one folder is listed before another: the more generated one, then by path. -/
def FolderSummary.comesBefore (s t : FolderSummary) : Bool :=
  decide (t.generatedPercentage < s.generatedPercentage) ||
    (s.generatedPercentage == t.generatedPercentage && decide (s.path ≤ t.path))

/-- All folders that directly hold analysed files, the most generated one first. -/
def summarizeFolders (project : ProjectAnalysis) : Checked (List FolderSummary) := do
  let folders := (project.files.map fun f => folderOf project.path f.path).eraseDups
  let summaries ← folders.mapM fun folder =>
    summarizeFolder folder (filesIn project.path project.files folder)
  return summaries.mergeSort FolderSummary.comesBefore

end Provenance

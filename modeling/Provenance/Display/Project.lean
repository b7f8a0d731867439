import Provenance.Display.Markup
import Provenance.ProjectAnalysis

/-!
# Display — Project

The analysis of a project: its most generated and its most human-written files, its folders, the
distribution of shares, the verdict, and what was skipped.
-/

namespace Provenance.Display

/-- A path as seen from the project, or as it is where it lies outside. -/
def shownPath (projectPath path : String) : String :=
  match (Path.ofString path).relativeTo? (Path.ofString projectPath) with
  | some relative => relative.text
  | none => path

/-! ## Tables -/

/-- Files in a table. -/
def fileTable (settings : BandSettings) (project : ProjectAnalysis) (title : String)
    (files : List FileAnalysis) : Table where
  title
  columns := ["File", "Generated", "Code Lines", "Confidence"]
  rows := files.map fun f =>
    [shownPath project.path f.path, bandedPercent settings f.generatedPercentage,
      toString f.codeLines, percent f.confidence]

/-- Files by some share, the largest first, then by path. -/
def ranked (share : FileAnalysis → Int) (files : List FileAnalysis) : List FileAnalysis :=
  files.mergeSort fun f g =>
    decide (share g < share f) || (share f == share g && decide (f.path ≤ g.path))

/-- The most generated files. -/
def generatedTable (settings : BandSettings) (project : ProjectAnalysis) (top : Int) : Table :=
  let files := limited top (ranked (fun f => f.generatedPercentage) project.files)
  fileTable settings project ("Top " ++ Nat.repr files.length ++ " files by generated share") files

/-- The most human-written files. -/
def humanTable (settings : BandSettings) (project : ProjectAnalysis) (top : Int) : Table :=
  let files := limited top (ranked (fun f => f.humanPercentage) project.files)
  fileTable settings project ("Top " ++ Nat.repr files.length ++ " most human-written files") files

/-- The folders of a project in a table. -/
def folderTable (settings : BandSettings) (folders : List FolderSummary) : Table where
  title := "Generated share by folder"
  columns := ["Folder", "Files", "Generated", "Generated / Human Lines"]
  rows := folders.map fun s =>
    [s.path, Nat.repr s.files, bandedPercent settings s.generatedPercentage,
      toString s.generatedLines ++ " / " ++ toString s.humanLines]

/-! ## Verdict -/

/-- The sign of a band. -/
def bandIcon : Band → String
  | .high => "🔴"
  | .medium => "🟡"
  | .low => "🟢"

/-- The verdict of a band. -/
def bandLabel : Band → String
  | .high => "MOSTLY GENERATED"
  | .medium => "MIXED"
  | .low => "MOSTLY HUMAN-WRITTEN"

/-- What a band says of the lines of a project. -/
def bandNote : Band → String
  | .high => "Most substantive lines match generation patterns."
  | .medium => "A sizeable share of lines match generation patterns."
  | .low => "Few lines match generation patterns."

/-- The verdict on a project in a panel. -/
def verdictPanel (settings : BandSettings) (project : ProjectAnalysis) : Panel :=
  let band := Band.of settings project.generatedPercentage
  { text :=
      styled band.style (bandIcon band ++ "  VERDICT: " ++ bandLabel band) ++ "\n\n" ++
        "  Generated share of code  : " ++
        styled band.style (percent project.generatedPercentage) ++ "\n" ++
        "  Generated / human lines  : " ++ toString project.generatedLines ++ " / " ++
        toString project.humanLines ++ "\n" ++
        "  Files analyzed           : " ++ Nat.repr project.analyzedFiles ++ " of " ++
        toString project.totalFiles ++ "\n" ++
        "  Total lines              : " ++ toString project.totalLines ++ "\n\n" ++
        "  " ++ dim (bandNote band ++ " Heuristic estimate, not proof of authorship.")
    title := bold "Analysis Complete"
    border := band.color }

/-- The verdict on a project, set off by blank lines. -/
def verdict (settings : BandSettings) (project : ProjectAnalysis) : List Printed :=
  [.blank, .panel (verdictPanel settings project), .blank]

/-! ## Skipped files -/

/-- How many skipped files are named. -/
def namedSkipped : Int := 10

/-- What was skipped, and why. -/
def skippedLines (limit : Int) (project : ProjectAnalysis) : List Printed :=
  if project.skipped = [] then []
  else
    .text (yellow ("Skipped " ++ Nat.repr project.skipped.length ++ " file(s):")) ::
      (limited limit project.skipped).map fun s =>
        .text ("  " ++ dim (shownPath project.path s.path) ++ " " ++ s.reason)

/-! ## Distribution -/

/-- The fewest files that a distribution is drawn of. -/
def chartFiles : Nat := 3

/-- The generated shares of the files of a project, ascending, as a curve. -/
def distribution (settings : BandSettings) (project : ProjectAnalysis) : List Printed :=
  let count := project.files.length
  if count < chartFiles then
    [.text (dim "Not enough files to draw a distribution chart (need at least 3).")]
  else
    [.text ("\n" ++ styled "bold cyan" "Generated share per file (sorted)"),
      .chart {
        xLimits := (1, count)
        yLimits := (0, 100)
        xs := (List.range count).map fun (i : Nat) => (i : Int) + 1
        ys := (project.files.map fun f => f.generatedPercentage).mergeSort fun a b => decide (a ≤ b)
        color := (Band.of settings project.generatedPercentage).color }]

end Provenance.Display

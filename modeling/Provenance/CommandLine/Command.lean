import Provenance.CommandLine.Arguments
import Provenance.Display.File
import Provenance.Display.Project
import Provenance.Export
import Provenance.Settings.Sources
import Provenance.Workspace

/-!
# CommandLine — Command

The commands: the share of one file, the patterns of one file, and the scan of a project. A command
sees the disk, its version control and the environment, and ends with a status, with what it prints
on the console, and with what it writes for other programs.
-/

namespace Provenance.CommandLine

open Display

/-! ## Commands -/

/-- A command with what it was given. -/
inductive Command where
  | file (path : String) (json : Bool)
  | patterns (path : String)
  | scan (root : String) (json : Bool) (workers : Option Nat) (exclude : List String) (top : Nat)

/-- The option for messages of more detail. -/
def verboseOption : OptionSpec := ⟨"--verbose", some 'v', false⟩

/-- The option for output that other programs read. -/
def jsonOption : OptionSpec := ⟨"--json", none, false⟩

/-- The options of a scan. -/
def scanOptions : List OptionSpec := [
  jsonOption, verboseOption, ⟨"--workers", none, true⟩, ⟨"--exclude", some 'x', true⟩,
  ⟨"--top", none, true⟩]

/-- How many files a scan lists. -/
def defaultTop : Nat := 15

/-- The last value of an option that takes a positive count. No value is fine, a bad one is not. -/
def countOption? (a : Arguments) (long : String) : Option (Option Nat) :=
  match (a.values long).getLast? with
  | none => some none
  | some value => (positiveCount? value).map some

/-- The command that arguments spell. -/
def Command.parse? : List String → Option Command
  | "file" :: args =>
    match parse [jsonOption, verboseOption] args with
    | some a =>
      match a.operands with
      | [path] => some (.file path (a.has "--json"))
      | _ => none
    | none => none
  | "patterns" :: args =>
    match parse [verboseOption] args with
    | some a =>
      match a.operands with
      | [path] => some (.patterns path)
      | _ => none
    | none => none
  | "scan" :: args => do
    let a ← parse scanOptions args
    let workers ← countOption? a "--workers"
    let top ← countOption? a "--top"
    let root ← match a.operands with
      | [] => some "."
      | [root] => some root
      | _ => none
    return .scan root (a.has "--json") workers (a.values "--exclude") (top.getD defaultTop)
  | _ => none

/-! ## Outcomes -/

/-- What a command leaves: its status, what it prints, what it writes for other programs. -/
structure Output where
  status : Nat
  printed : List Printed := []
  written : String := ""

/-- How a command ends. -/
inductive Ending where
  | output (output : Output)
  /-- The arguments spell no command. -/
  | badUsage
  /-- The settings are refused. -/
  | badSettings (failure : SettingsFailure)
  /-- A record refused its values. -/
  | broken (fault : Fault)

/-- The status of a command that was not used rightly. -/
def usageStatus : Nat := 2

/-- A value for other programs, each item and field on a line of its own. -/
def exported (value : Json) : Output := { status := 0, written := value.indented 0 ++ "\n" }

/-- What a failed command says. -/
def failed (json : Bool) (failure : Failure) : Output :=
  if json then
    { status := failure.exitCode,
      written := (Json.object [("error", .text failure.message)]).line ++ "\n" }
  else
    { status := failure.exitCode,
      printed := [.text (styled "bold red" "Error" ++ ": " ++ failure.message)] }

/-- How a command ends whose analysis has no result. -/
def endedBy (json : Bool) : AnalysisError → Ending
  | .failure failure => .output (failed json failure)
  | .fault fault => .broken fault

/-! ## Running -/

/-- What a command sees around it: the disk and the version control of what is on it, the
environment, the time. -/
structure Surroundings where
  disk : Disk
  control : VersionControl
  environment : List (String × String)
  now : Timestamp

/-- The name of the assignment file. -/
def dotenvName : String := ".env"

/-- The text of the assignment file in the working directory, if it is there. -/
def Surroundings.dotenv (w : Surroundings) : Except SettingsFailure (Option String) :=
  match w.disk.node? dotenvName with
  | .ok (.file bytes) =>
    match Text.Utf8.decode bytes with
    | .ok cs => .ok (some (String.ofList cs))
    | .error flaw => .error (.notText flaw)
  | _ => .ok none

/-- The settings that a command works with, beside those that are given. -/
def Surroundings.settings (w : Surroundings) (given : List (String × Json) := []) :
    Except SettingsFailure Settings := do
  let dotenv ← w.dotenv
  SettingsSources.load { given, environment := w.environment, dotenv }

/-- The share of one file. -/
def runFile (w : Surroundings) (settings : Settings) (path : String) (json : Bool) : Ending :=
  match (Workspace.analyzeFile ⟨settings, .empty, none⟩ w.disk path none false).1 with
  | .error e => endedBy json e
  | .ok f =>
    if json then .output (exported f.toJson)
    else .output { status := 0, printed := [.panel (filePanel settings.bands f)] }

/-- The patterns of one file. -/
def runPatterns (w : Surroundings) (settings : Settings) (path : String) : Ending :=
  match (Workspace.analyzeFile ⟨settings, .empty, none⟩ w.disk path none false).1 with
  | .error e => endedBy false e
  | .ok f =>
    if f.patterns = [] then .output { status := 0, printed := [.text noPatterns] }
    else .output { status := 0, printed := [.table (patternTable f)] }

/-- The settings of a scan: excludes of the command line are added to those of the settings. -/
def scanSettings (settings : Settings) (workers : Option Nat) (exclude : List String) : Settings :=
  let d := settings.discovery
  let workers := match workers with
    | some n => if h : 1 ≤ n then ⟨n, h⟩ else d.workers
    | none => d.workers
  { settings with
    discovery := { d with excludePatterns := d.excludePatterns ++ exclude, workers } }

/-- The report of a scan. -/
def scanReport (settings : Settings) (root : String) (top : Nat) (project : ProjectAnalysis) :
    Checked (List Printed) :=
  if project.files = [] then
    .ok (.text (yellow ("No analyzable source files found under '" ++ root ++ "'.")) ::
      skippedLines namedSkipped project)
  else do
    let folders ← summarizeFolders project
    return [
      .table (generatedTable settings.bands project top),
      .table (humanTable settings.bands project top),
      .table (folderTable settings.bands folders)] ++
      distribution settings.bands project ++ verdict settings.bands project ++
      skippedLines namedSkipped project

/-- The status of a command that was cancelled. -/
def cancelledStatus : Nat := 130

/-- The scan of a project. -/
def runScan (w : Surroundings) (settings : Settings) (root : String) (json : Bool) (top : Nat) :
    Ending :=
  match (Workspace.analyzeProject ⟨settings, .empty, none⟩ w.control w.disk root .never
      w.now).1 with
  | .error e => endedBy json e
  | .ok none =>
    .output { status := cancelledStatus, printed := [.text (dim "Analysis cancelled.")] }
  | .ok (some project) =>
    if json then .output (exported project.toJson)
    else match scanReport settings root top project with
      | .ok printed => .output { status := 0, printed }
      | .error fault => .broken fault

/-- Runs the command that arguments spell. -/
def run (w : Surroundings) (args : List String) : Ending :=
  match Command.parse? args with
  | none => .badUsage
  | some command =>
    match w.settings with
    | .error failure => .badSettings failure
    | .ok settings =>
      match command with
      | .file path json => runFile w settings path json
      | .patterns path => runPatterns w settings path
      | .scan root json workers exclude top =>
        runScan w (scanSettings settings workers exclude) root json top

/-! ## Needs -/

/-- The paths whose content a command looks at: the files that it analyses. -/
def neededPaths (w : Surroundings) (args : List String) : List Path :=
  match Command.parse? args, w.settings with
  | some (.file path _), _ => [w.disk.resolve path]
  | some (.patterns path), _ => [w.disk.resolve path]
  | some (.scan root _ workers exclude _), .ok settings =>
    discover w.control w.disk (scanSettings settings workers exclude).discovery root
  | _, _ => []

end Provenance.CommandLine

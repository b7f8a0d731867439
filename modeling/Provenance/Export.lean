import Provenance.Failure
import Provenance.Json.Writer
import Provenance.ProjectAnalysis

/-!
# Export

Analyses as JSON, with the field names that readers of exported reports know.
-/

namespace Provenance

/-- A count as JSON. -/
def Json.ofNat (n : Nat) : Json := .integer n

def Pattern.toJson (p : Pattern) : Json := .object [
  ("type", .text p.kind.name),
  ("description", .text p.description),
  ("confidence", .ofNat p.confidence),
  ("pattern", .text p.signature),
  ("lineNumbers", .list (p.lines.map Json.ofNat))]

def FileAnalysis.toJson (f : FileAnalysis) : Json := .object [
  ("filePath", .text f.path),
  ("language", .text f.language),
  ("totalLines", .integer f.totalLines),
  ("aiGeneratedLines", .integer f.generatedLines),
  ("humanWrittenLines", .integer f.humanLines),
  ("commentLines", .integer f.commentLines),
  ("emptyLines", .integer f.emptyLines),
  ("aiPercentage", .integer f.generatedPercentage),
  ("humanPercentage", .integer f.humanPercentage),
  ("confidence", .integer f.confidence),
  ("detectedPatterns", .list (f.patterns.map Pattern.toJson))]

def SkippedFile.toJson (s : SkippedFile) : Json :=
  .object [("path", .text s.path), ("reason", .text s.reason)]

def ProjectAnalysis.toJson (p : ProjectAnalysis) : Json := .object [
  ("projectPath", .text p.path),
  ("totalFiles", .integer p.totalFiles),
  ("analyzedFiles", .ofNat p.analyzedFiles),
  ("totalLines", .integer p.totalLines),
  ("aiGeneratedLines", .integer p.generatedLines),
  ("humanWrittenLines", .integer p.humanLines),
  ("overallAiPercentage", .integer p.generatedPercentage),
  ("fileAnalyses", .list (p.files.map FileAnalysis.toJson)),
  ("skipped", .list (p.skipped.map SkippedFile.toJson)),
  ("timestamp", .text p.timestamp.text)]

/-- What a failure is about, as JSON: the path of a file, or how far a pass came. -/
def Failure.context : Failure → Json
  | .notLoaded path _ => .object [("path", .text path)]
  | .unreadable path _ => .object [("path", .text path)]
  | .unsupported path _ => .object [("path", .text path)]
  | .cancelled completed total =>
    .object [("completed", .integer completed), ("total", .integer total)]
  | .other _ => .object []

end Provenance

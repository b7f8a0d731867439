import Provenance.Detect
import Provenance.FileAnalysis
import Provenance.Source.Content

/-!
# Analysis

From the content of a file to its analysis: read the text, cut it into lines, find the patterns,
score the lines.
-/

namespace Provenance

/-- Why an analysis has no result: the content is no source text, or a record refused its values. -/
inductive AnalysisError where
  | failure (failure : Failure)
  | fault (fault : Fault)
  deriving DecidableEq

/-- The analysis of a source text that is written in some language. -/
def analyzeSource (settings : Settings) (path : String) (language : Language) (source : List Char) :
    Checked FileAnalysis := do
  let ls := sourceLines language source
  let patterns ← Detect.patterns settings ls
  scoreFile path language.name ls patterns

/-- The analysis of the content of a file. -/
def analyzeFile (settings : Settings) (path : String) (content : Content) :
    Except AnalysisError FileAnalysis := do
  let source ← (content.source path).mapError .failure
  (analyzeSource settings path (Language.ofPath path) source).mapError .fault

end Provenance

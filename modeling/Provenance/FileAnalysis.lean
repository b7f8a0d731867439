import Provenance.Likelihood
import Provenance.Pattern
import Provenance.Source.Line

/-!
# FileAnalysis

The analysis of one file: its lines by kind, the share of its code that counts as generated, and the
patterns that say so. `scoreFile` makes the analysis of a file from its lines and its patterns; only
lines of code are attributed, whatever lines the patterns cover.
-/

namespace Provenance

/-! ## Records -/

/-- What an analysis of a file says. -/
structure FileFigures where
  path : String
  language : String
  totalLines : Int
  generatedLines : Int
  humanLines : Int
  commentLines : Int
  emptyLines : Int
  /-- Of the lines of code. -/
  generatedPercentage : Int
  humanPercentage : Int
  /-- In percent. -/
  confidence : Int
  patterns : List Pattern
  deriving DecidableEq

/-- The lines that are neither blank nor comment. -/
def FileFigures.codeLines (f : FileFigures) : Int := f.totalLines - f.emptyLines - f.commentLines

/-- The analysis of a file: figures that add up. -/
structure FileAnalysis extends FileFigures where
  shares : generatedPercentage + humanPercentage = 100
  attributed : generatedLines + humanLines = totalLines - emptyLines - commentLines
  deriving DecidableEq

/-- The analysis that figures make up, or the first fault of them. -/
def FileFigures.check (f : FileFigures) : Checked FileAnalysis :=
  if hs : f.generatedPercentage + f.humanPercentage ≠ 100 then .error .sharesNotWhole
  else if ha : f.generatedLines + f.humanLines ≠ f.totalLines - f.emptyLines - f.commentLines then
    .error .linesNotAttributed
  else .ok { f with shares := Decidable.not_not.1 hs, attributed := Decidable.not_not.1 ha }

/-! ## Likelihoods of lines -/

/-- The numbers of the lines of code, each of them once. -/
def codeNumbers (ls : List Line) : List Nat := ascending ((codeLines ls).map Line.number)

/-- The confidences that each line of code has been given, by its number. -/
abbrev Contributions := List (Nat × List Nat)

/-- A confidence is given to the line of a number. A number that is not one of a line of code is
passed over. -/
def contribute (confidence : Nat) (given : Contributions) (number : Nat) : Contributions :=
  given.map fun entry =>
    if entry.1 = number then (entry.1, entry.2 ++ [confidence]) else entry

/-- A pattern gives its confidence to the lines that it covers, one after the other. -/
def Pattern.contribute (given : Contributions) (p : Pattern) : Contributions :=
  p.lines.foldl (Provenance.contribute p.confidence) given

/-- What the lines of code are given by some patterns, pattern by pattern. -/
def contributions (ls : List Line) (patterns : List Pattern) : Contributions :=
  patterns.foldl Pattern.contribute ((codeNumbers ls).map fun number => (number, []))

/-- The likelihood of each line of code, by its number. -/
def lineLikelihoods (ls : List Line) (patterns : List Pattern) : List (Nat × Binary64) :=
  (contributions ls patterns).map fun entry => (entry.1, Likelihood.ofConfidences entry.2)

/-- How many lines of code some pattern covers. -/
def touchedLines (ls : List Line) (patterns : List Pattern) : Nat :=
  (codeNumbers ls).countP fun number => patterns.any fun p => p.lines.contains number

/-! ## Scoring -/

/-- The analysis of a file without lines of code: nothing is generated, and no pattern is told. -/
def scoreNoCode (path language : String) (ls : List Line) : Checked FileAnalysis :=
  let counts := LineCounts.of ls
  FileFigures.check {
    path, language
    totalLines := ls.length
    generatedLines := 0
    humanLines := 0
    commentLines := counts.comment
    emptyLines := counts.blank
    generatedPercentage := 0
    humanPercentage := 100
    confidence := 0
    patterns := [] }

/-- The analysis of a file with these lines in which these patterns were found. -/
def scoreFile (path language : String) (ls : List Line) (patterns : List Pattern) :
    Checked FileAnalysis := do
  let likelihoods := (lineLikelihoods ls patterns).map (·.2)
  if likelihoods = [] then scoreNoCode path language ls
  else
    let counts := LineCounts.of ls
    let generated := likelihoods.countP Likelihood.isGenerated
    let percentage ← countPercentage generated likelihoods.length
    let confidence ← Likelihood.fileConfidence likelihoods (touchedLines ls patterns)
    FileFigures.check {
      path, language
      totalLines := ls.length
      generatedLines := generated
      humanLines := (likelihoods.length : Int) - generated
      commentLines := counts.comment
      emptyLines := counts.blank
      generatedPercentage := percentage
      humanPercentage := 100 - percentage
      confidence
      patterns }

end Provenance

import Provenance.Display.Markup
import Provenance.FileAnalysis

/-!
# Display — File

The analysis of one file: a panel with its figures, and a table of its patterns.
-/

namespace Provenance.Display

/-- What is said where no pattern was found. -/
def noPatterns : String := dim "No generation patterns detected"

/-- A confidence in words. -/
def confidenceLabel (confidence : Int) : String :=
  if 70 ≤ confidence then "high" else if 40 ≤ confidence then "medium" else "low"

/-- A pattern on a line of its own. -/
def patternLine (p : Pattern) : String :=
  yellow "•" ++ " " ++ p.description ++ " " ++ dim ("(" ++ percent p.confidence ++ ")")

/-- The patterns with the highest confidence, and how many more there are. -/
def patternLines (limit : Int) (patterns : List Pattern) : String :=
  if patterns = [] then noPatterns
  else
    let ranked := patterns.mergeSort fun p q => decide (q.confidence ≤ p.confidence)
    let more := (patterns.length : Int) - limit
    let shown := (limited limit ranked).map patternLine
    "\n".intercalate (shown ++ if 0 < more then [dim ("… " ++ toString more ++ " more")] else [])

/-- How many patterns a panel shows. -/
def panelPatterns : Int := 3

/-- The figures of a file in a panel. -/
def filePanel (settings : BandSettings) (f : FileAnalysis) : Panel where
  text :=
    styled (Band.of settings f.generatedPercentage).style
        ("Generated: " ++ percent f.generatedPercentage ++ " (" ++ toString f.generatedLines ++
          " lines)") ++ "\n" ++
      "Human:     " ++ percent f.humanPercentage ++ " (" ++ toString f.humanLines ++ " lines)\n" ++
      "Code lines: " ++ toString f.codeLines ++ "   Comments: " ++ toString f.commentLines ++
      "   Blank: " ++ toString f.emptyLines ++ "\n" ++
      "Confidence: " ++ percent f.confidence ++ " (" ++ confidenceLabel f.confidence ++ ")\n\n" ++
      patternLines panelPatterns f.patterns
  title := bold f.path
  border := "cyan"

/-- How many line numbers a table shows of a pattern. -/
def tableLines : Nat := 8

/-- The first lines of a pattern, and how many more there are. -/
def shownLines (lines : List Nat) : String :=
  ", ".intercalate ((lines.take tableLines).map Nat.repr) ++
    if tableLines < lines.length then " (+" ++ Nat.repr (lines.length - tableLines) ++ ")" else ""

/-- All patterns of a file in a table. -/
def patternTable (f : FileAnalysis) : Table where
  title := "Detected patterns: " ++ f.path
  columns := ["Type", "Confidence", "Lines", "Description"]
  rows := f.patterns.map fun p =>
    [p.kind.name, percent p.confidence, shownLines p.lines,
      p.description ++ "\n" ++ dim p.signature]

end Provenance.Display

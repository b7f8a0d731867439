import Provenance.Grouping
import Provenance.Lexis.Literal
import Provenance.Number.Decimal
import Provenance.Number.Statistics
import Provenance.Pattern
import Provenance.Settings
import Provenance.Source.Line

/-!
# Detect — Complexity

Blocks of code that are suspiciously tidy: lines of nearly one length, none of them long, flat and
regular indentation, one statement a line, and no stray blanks. Code that people keep working on is
rarely so. The confidence grows with the count of checks that a block passes, and with how much more
uniform it is than the other blocks of its file.
-/

namespace Provenance.Detect.Complexity

open Text Lexis

/-! ## Blocks -/

/-- Blocks with the last one joined to the one before it, if it is too short to stand by itself. -/
def joinShortTail (minLines : Nat) : List (List Line) → List (List Line)
  | [] => []
  | [b] => [b]
  | [b, tail] => if tail.length < minLines then [b ++ tail] else [b, tail]
  | b :: rest => b :: joinShortTail minLines rest

/-- The blocks of code that are judged. -/
def blocks (settings : ComplexitySettings) (code : List Line) : List (List Line) :=
  (joinShortTail settings.minBlockLines.val (chunks settings.blockLines.val code)).filter
    fun b => decide (settings.minBlockLines.val ≤ b.length)

/-- The variation of the line lengths of a block, blanks at the ends of a line apart. -/
def lengthVariation (block : List Line) : Checked Binary64 :=
  Statistics.variation (block.map fun l => ((strip l.text).length : Int))

/-! ## Checks -/

/-- The width of a tab in code. -/
def tabSize : Nat := 4

/-- The unit of indentation of a file: two columns when some line is indented by no more. -/
def indentUnit (code : List Line) : AtLeast 1 :=
  let least := ((code.map fun l => indentWidth tabSize l.text).filter (· != 0)).min?
  ⟨if least.any (· ≤ 2) then 2 else 4, by split <;> decide⟩

/-- The blanks in front of a line. -/
def lead (text : List Char) : List Char := text.takeWhile isBlank

/-- Whether spaces and tabs are mixed in front of a line. -/
def mixesBlanks (text : List Char) : Bool := (lead text).contains ' ' && (lead text).contains '\t'

/-- Whether a line holds several statements: a semicolon with something behind it, outside literals,
in front of a line comment, and not in the head of a loop. -/
def hasSeveralStatements (text : List Char) : Bool :=
  let code := strip (before ['/', '/'] (emptyLiterals text))
  !"for".toList.isPrefixOf code &&
    ((code.dropWhile (· != ';')).drop 1).any fun c => !isBlank c

/-- Whether two or more spaces stand between characters that are not blank. The count is of the
spaces read since the last such character, if one was read and only spaces followed it. -/
def hasWideGap : Option Nat → List Char → Bool
  | _, [] => false
  | gap, c :: cs =>
    if c == ' ' then hasWideGap (gap.map (· + 1)) cs
    else if isBlank c then hasWideGap none cs
    else decide (2 ≤ gap.getD 0) || hasWideGap (some 0) cs

/-- Whether a line has blanks at its end or wide gaps outside literals. -/
def hasStrayBlanks (text : List Char) : Bool :=
  text != trimRight isBlank text || hasWideGap none (emptyLiterals (strip text))

/-- The five checks of a block. -/
def checks (settings : ComplexitySettings) (unit : AtLeast 1) (block : List Line) :
    Checked (List Bool) := do
  let texts := block.map Line.text
  let widths := texts.map (indentWidth tabSize)
  let base ← least widths
  let longest ← greatest (texts.map List.length)
  let deepest ← greatest (widths.map fun w => (w - base) / unit.val)
  return [
    decide (longest ≤ settings.maxLineLength.val),
    decide (deepest ≤ settings.maxDepth.val),
    widths.all (fun w => w % unit.val == 0) && !texts.any mixesBlanks,
    !texts.any hasSeveralStatements,
    !texts.any hasStrayBlanks]

/-! ## The detector -/

/-- How much more uniform a block is than the others of its file. -/
def contrast (own : Binary64) (others : List Binary64) : Checked Binary64 := do
  let rest ← if others = [] then Except.ok own else Statistics.mean others
  if ¬ 0 < rest then return 0
  return Binary64.atLeast 0 (Binary64.atMost 1 (← ((rest - own).over rest).mapError .number))

/-- The confidence of a block by the share of checks that it passes and by its contrast. -/
def confidence (share contrast : Binary64) : Checked Int :=
  (Binary64.atMost 90 (25 + 45 * share + 20 * contrast)).nearestInt.mapError .number

/-- The pattern of a block of some variation that passes so many checks of some. -/
def tidyFinding (confidence : Int) (variation : Binary64) (passed asked : Nat)
    (block : List Line) : Finding where
  kind := .complexity
  description := "Uniform textbook-clean block (line length CV=" ++ variation.toFixed 2 ++ ", " ++
    Nat.repr passed ++ "/" ++ Nat.repr asked ++ " shape checks)"
  confidence := confidence
  signature := "cv=" ++ variation.toFixed 2
  lines := block.map fun l => (l.number : Int)

/-- The pattern of a block of some variation, given the variations of the other blocks. -/
def tidyBlock? (settings : ComplexitySettings) (unit : AtLeast 1) (variation : Binary64)
    (block : List Line) (others : List Binary64) : Checked (Option Finding) := do
  if settings.maxVariation.val < variation then return none
  let checks ← checks settings unit block
  let passed := checks.countP id
  let share ← countQuotient passed checks.length
  if share < settings.minShape.val then return none
  let contrast ← contrast variation others
  return some (tidyFinding (← confidence share contrast) variation passed checks.length block)

/-- The tidy blocks of a file. -/
def detect (settings : ComplexitySettings) (ls : List Line) : Checked (List Finding) := do
  let code := codeLines ls
  let found := blocks settings code
  let variations ← found.mapM lengthVariation
  (found.zip variations).zipIdx.filterMapM fun ((block, variation), i) =>
    tidyBlock? settings (indentUnit code) variation block (variations.eraseIdx i)

end Provenance.Detect.Complexity

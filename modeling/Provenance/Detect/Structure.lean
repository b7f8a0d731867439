import Provenance.Grouping
import Provenance.Lexis.Shape
import Provenance.Number.Total
import Provenance.Pattern
import Provenance.Settings
import Provenance.Source.Line

/-!
# Detect — Structure

Shapes of code that are repeated with other names and values. A line shape counts when enough lines
have it, none further from the one before than the window; a block shape counts when enough
stretches of consecutive lines of code have it that do not overlap. Long shapes that are repeated
often give the highest confidence.
-/

namespace Provenance.Detect.Structure

open Text Lexis

/-! ## Shaped lines -/

/-- What a line begins with that imports something; such lines are alike in all code. -/
def importHeads : List (List Char) := [
  "import".toList, "from".toList, "#include".toList, "using".toList, "package".toList,
  "require".toList, "use".toList, "extern crate".toList]

/-- Whether a text begins with another one that is not the beginning of a longer word. -/
def beginsWith (head cs : List Char) : Bool :=
  head.isPrefixOf cs && !(cs.drop head.length).head?.any isWord

/-- Whether a line imports something. -/
def isImport (text : List Char) : Bool :=
  importHeads.any fun head => beginsWith head (trimLeft isBlank text)

/-- A line of code with its shape. -/
structure ShapedLine where
  line : Line
  shape : Shape

/-- The lines of code of a file, with their shapes. -/
def shapedLines (ls : List Line) : List ShapedLine :=
  (codeLines ls).map fun l => ⟨l, shape l.text⟩

/-- The confidence of a shape of so many tokens that is repeated so many times. -/
def confidence (repeats tokens : Nat) : Int :=
  min 95 (25 + 12 * ((repeats : Int) - 1) + 3 * min (tokens : Int) 10)

/-! ## Line shapes -/

/-- The lines of each shape that has enough tokens. -/
def linesByShape (settings : StructureSettings) (code : List ShapedLine) :
    List (Shape × List Line) :=
  group ((code.filter fun s =>
    decide (settings.minTokens.val ≤ s.shape.length) && !isImport s.line.text).map
      fun s => (s.shape, s.line))

/-- The clusters of the places where a shape occurs. A shape that occurs nowhere has no first
place. -/
def clustersOf {α : Type} (settings : StructureSettings) (number : α → Nat) (places : List α) :
    Checked (List (List α)) :=
  if places = [] then .error (.list .first) else .ok (clusters number settings.window.val places)

/-- The pattern of some lines of one shape. -/
def lineFinding (shape : Shape) (first : Line) (rest : List Line) : Finding :=
  let lines := first :: rest
  let last := (lines.getLast (by simp [lines])).number
  { kind := .structural
    description := "Identical line shape repeated " ++ Nat.repr lines.length ++ " times within " ++
      toString ((last : Int) - first.number + 1) ++ " lines"
    confidence := confidence lines.length shape.length
    signature := Shape.text shape
    lines := lines.map fun l => (l.number : Int) }

/-- The pattern of a cluster of lines of one shape, if they are enough. -/
def lineFinding? (settings : StructureSettings) (shape : Shape) : List Line → Option Finding
  | [] => none
  | first :: rest =>
    if (first :: rest).length < settings.minRepeats.val then none
    else some (lineFinding shape first rest)

/-- A pattern for each cluster of enough lines of one shape. -/
def lineRepeats (settings : StructureSettings) (code : List ShapedLine) :
    Checked (List Finding) := do
  let found ← (linesByShape settings code).mapM fun (shape, lines) => do
    return (← clustersOf settings Line.number lines).filterMap (lineFinding? settings shape)
  return found.flatten

/-! ## Block shapes -/

/-- The shape of a block: the shapes of its lines. -/
abbrev BlockShape := List Shape

/-- Whether all shapes of a list are one. -/
def isUniform (shapes : BlockShape) : Bool :=
  match shapes with
  | [] => false
  | s :: rest => rest.all (· == s)

/-- Whether a stretch of lines is a block: not of a single line shape, with enough tokens, and
without imports. -/
def isBlock (settings : StructureSettings) (window : List ShapedLine) : Bool :=
  let shapes := window.map ShapedLine.shape
  !isUniform shapes &&
    decide (settings.minTokens.val * settings.blockLines.val ≤ total (shapes.map List.length)) &&
    !window.any fun s => isImport s.line.text

/-- A block that occurs in a file. -/
structure Occurrence where
  /-- The number of its first line. -/
  number : Nat
  lines : List ShapedLine

/-- The blocks of each shape, with those left out that overlap one before them. -/
def blocksByShape (settings : StructureSettings) (code : List ShapedLine) :
    List (BlockShape × List Occurrence) :=
  let blocks :=
    (windows settings.blockLines.val code).filter fun (_, window) => isBlock settings window
  (group (blocks.map fun (i, window) => (window.map ShapedLine.shape, (i, window)))).map
    fun (shape, found) =>
      (shape, (thin settings.blockLines.val 0 found).map fun (_, window) =>
        ⟨(window.head?.map fun s => s.line.number).getD 0, window⟩)

/-- The pattern of a cluster of blocks of one shape. It covers the places of the shape that begin on
the lines that the blocks of the cluster begin on. -/
def blockFinding (settings : StructureSettings) (shape : BlockShape)
    (places cluster : List Occurrence) : Finding where
  kind := .structural
  description := Nat.repr settings.blockLines.val ++ "-line block shape repeated " ++
    Nat.repr cluster.length ++ " times"
  confidence := confidence cluster.length (total (shape.map List.length))
  signature := " / ".intercalate (shape.map Shape.text)
  lines := (places.filter fun o => (cluster.map Occurrence.number).contains o.number).flatMap
    fun o => o.lines.map fun s => (s.line.number : Int)

/-- The pattern of a cluster of blocks of one shape, if they are enough. -/
def blockFinding? (settings : StructureSettings) (shape : BlockShape)
    (places cluster : List Occurrence) : Option Finding :=
  if cluster.length < settings.minBlockRepeats.val then none
  else some (blockFinding settings shape places cluster)

/-- A pattern for each cluster of enough blocks of one shape. -/
def blockRepeats (settings : StructureSettings) (code : List ShapedLine) :
    Checked (List Finding) := do
  if code.length < settings.blockLines.val * settings.minBlockRepeats.val then return []
  let found ← (blocksByShape settings code).mapM fun (shape, places) => do
    return (← clustersOf settings Occurrence.number places).filterMap
      (blockFinding? settings shape places)
  return found.flatten

/-! ## The detector -/

/-- The first line that a finding covers. -/
def firstLine (f : Finding) : Int := f.lines.min?.getD 0

/-- Whether one finding is reported before another: by first line, then by signature. -/
def comesBefore (f g : Finding) : Bool :=
  decide (firstLine f < firstLine g) ||
    (firstLine f == firstLine g && decide (f.signature ≤ g.signature))

/-- The repeated shapes of a file. A file with too few lines of code for a repeated line is not
looked at. -/
def detect (settings : StructureSettings) (ls : List Line) : Checked (List Finding) := do
  let code := shapedLines ls
  if code.length < settings.minRepeats.val then return []
  return ((← lineRepeats settings code) ++ (← blockRepeats settings code)).mergeSort comesBefore

end Provenance.Detect.Structure

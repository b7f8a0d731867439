import Provenance.Settings

/-!
# Display — Markup

What is printed on the console: lines of marked-up text, tables, panels and charts. A tag is a style
in brackets, and the same style behind a slash ends it. Texts are put between tags as they are.
-/

namespace Provenance.Display

/-! ## Printed things -/

/-- A table with a title. -/
structure Table where
  title : String
  columns : List String
  rows : List (List String)

/-- A text in a frame. -/
structure Panel where
  text : String
  title : String
  border : String

/-- A curve over the files of a project. -/
structure Chart where
  xLimits : Int × Int
  yLimits : Int × Int
  xs : List Int
  ys : List Int
  color : String

/-- Something that is printed. -/
inductive Printed where
  | text (s : String)
  | blank
  | table (t : Table)
  | panel (p : Panel)
  | chart (c : Chart)

/-! ## Styles -/

/-- A text in a style. -/
def styled (style text : String) : String := "[" ++ style ++ "]" ++ text ++ "[/" ++ style ++ "]"

def bold (text : String) : String := styled "bold" text

def dim (text : String) : String := styled "dim" text

def yellow (text : String) : String := styled "yellow" text

/-! ## Bands -/

/-- How a generated share is to be taken. -/
inductive Band where
  | high
  | medium
  | low
  deriving DecidableEq

/-- The band of a share in percent. -/
def Band.of (settings : BandSettings) (percentage : Int) : Band :=
  if (settings.high.val : Int) ≤ percentage then .high
  else if (settings.medium.val : Int) ≤ percentage then .medium
  else .low

/-- The colour of a band. -/
def Band.color : Band → String
  | .high => "red"
  | .medium => "yellow"
  | .low => "green"

/-- The style of a band: its colour, and bold where the share is high. -/
def Band.style : Band → String
  | .high => "bold red"
  | .medium => "yellow"
  | .low => "green"

/-- A share with a percent sign. -/
def percent (percentage : Int) : String := toString percentage ++ "%"

/-- A share in the style of its band. -/
def bandedPercent (settings : BandSettings) (percentage : Int) : String :=
  styled (Band.of settings percentage).style (percent percentage)

/-! ## Limits -/

/-- The first elements of a list; with a limit below zero all but so many of the last. -/
def limited {α : Type} (limit : Int) (xs : List α) : List α :=
  if 0 ≤ limit then xs.take limit.toNat else xs.take (xs.length - limit.natAbs)

end Provenance.Display

import Provenance.Number.Percentage
import Provenance.Text.Quoted

/-!
# Fault

Values that a record, a division, a list operation or a number format does not admit. A fault is a
defect of the caller's data, not of an analysed file: an analysis of source text raises none.
-/

namespace Provenance

/-- Which part of a date or a time of day is out of range. -/
inductive CalendarFault where
  | year (year : Int)
  | month
  | day
  | hour
  | minute
  | second
  | microsecond
  deriving DecidableEq

/-- What is asked of a list that has too few members for it. -/
inductive ListFault where
  | first
  | least
  | greatest
  | mean
  | deviation
  deriving DecidableEq

/-- Why a value is not admitted. -/
inductive Fault where
  /-- No kind of pattern has this name. -/
  | unknownKind (name : String)
  /-- A pattern covers no line. -/
  | noLines
  /-- A confidence is not a percentage. -/
  | confidenceOutOfRange (confidence : Int)
  /-- A line number is below one. -/
  | lineBelowOne
  /-- The generated and the human share do not make up the whole. -/
  | sharesNotWhole
  /-- The attributed lines are not the lines of code. -/
  | linesNotAttributed
  /-- There is no such point in time. -/
  | calendar (fault : CalendarFault)
  /-- A quotient or a percentage has no value. -/
  | number (fault : NumberFault)
  /-- A list has too few members. -/
  | list (fault : ListFault)
  deriving DecidableEq

namespace Fault

/-- A number fault in words. -/
def numberMessage : NumberFault → String
  | .integerByZero => "division by zero"
  | .realByZero => "float division by zero"
  | .quotientTooLarge => "integer division result too large for a float"
  | .integerTooLarge => "int too large to convert to float"
  | .infiniteShare => "cannot convert float infinity to integer"
  | .shareNotANumber => "cannot convert float NaN to integer"

/-- A calendar fault in words. -/
def calendarMessage : CalendarFault → String
  | .year year => "year " ++ toString year ++ " is out of range"
  | .month => "month must be in 1..12"
  | .day => "day is out of range for month"
  | .hour => "hour must be in 0..23"
  | .minute => "minute must be in 0..59"
  | .second => "second must be in 0..59"
  | .microsecond => "microsecond must be in 0..999999"

/-- A list fault in words. -/
def listMessage : ListFault → String
  | .first => "list index out of range"
  | .least => "min() arg is an empty sequence"
  | .greatest => "max() arg is an empty sequence"
  | .mean => "mean requires at least one data point"
  | .deviation => "stdev requires at least two data points"

/-- A fault in words. -/
def message : Fault → String
  | .unknownKind name => Text.quoted name ++ " is not a valid PatternKind"
  | .noLines => "a detected pattern must cover at least one line"
  | .confidenceOutOfRange confidence => "confidence out of range: " ++ toString confidence
  | .lineBelowOne => "line numbers are 1-based"
  | .sharesNotWhole => "generated and human percentages must sum to 100"
  | .linesNotAttributed => "every code line must be attributed exactly once"
  | .calendar fault => calendarMessage fault
  | .number fault => numberMessage fault
  | .list fault => listMessage fault

end Fault

/-- A result that a fault can take the place of. -/
abbrev Checked (α : Type) := Except Fault α

/-- The least of some numbers. -/
def least (ns : List Nat) : Checked Nat :=
  match ns.min? with
  | some n => .ok n
  | none => .error (.list .least)

/-- The greatest of some numbers. -/
def greatest (ns : List Nat) : Checked Nat :=
  match ns.max? with
  | some n => .ok n
  | none => .error (.list .greatest)

/-- The quotient of two counts. -/
def countQuotient (part whole : Int) : Checked Binary64 :=
  ((Quantity.integer part).divide (.integer whole)).mapError .number

/-- The percentage of two counts. -/
def countPercentage (part whole : Int) : Checked Int :=
  (percentageOfCounts part whole).mapError .number

end Provenance

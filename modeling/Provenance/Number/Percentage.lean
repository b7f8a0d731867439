import Provenance.Number.Binary64

/-!
# Number — Percentage

Quotients, and integer percentages rounded half up. A share is the part taken a hundred times,
divided as a binary64 quotient, moved up by one half and cut down to an integer. The operands are
integers of any size or binary64 numbers. A division by zero is a fault, and so is what does not fit
the binary64 range.
-/

namespace Provenance

/-- An operand of a percentage: an integer of any size, or a binary64 number. -/
inductive Quantity where
  | integer (n : Int)
  | real (x : Binary64)
  deriving DecidableEq

/-- Why a quotient or a percentage has no value. -/
inductive NumberFault where
  /-- An integer is divided by zero. -/
  | integerByZero
  /-- A binary64 number is divided by zero. -/
  | realByZero
  /-- The quotient of two integers is above the largest finite number. -/
  | quotientTooLarge
  /-- An integer that meets a binary64 number is above the largest finite number. -/
  | integerTooLarge
  /-- An infinite number has no integer near it. -/
  | infiniteShare
  /-- What is not a number has no integer near it. -/
  | shareNotANumber
  deriving DecidableEq

/-- The quotient of two binary64 numbers. -/
def Binary64.over (x y : Binary64) : Except NumberFault Binary64 :=
  if y.isZero then .error .realByZero else .ok (x / y)

namespace Quantity

/-- A quantity as a binary64 number. -/
def toReal : Quantity → Except NumberFault Binary64
  | .integer n =>
    match Binary64.ofInt n with
    | .infinite _ => .error .integerTooLarge
    | x => .ok x
  | .real x => .ok x

/-- Whether a quantity is zero or negative. -/
def notPositive : Quantity → Bool
  | .integer n => decide (n ≤ 0)
  | .real x => decide (x ≤ 0)

/-- A hundred times a quantity. -/
def hundredfold : Quantity → Quantity
  | .integer n => .integer (100 * n)
  | .real x => .real (100 * x)

/-- The quotient as a binary64 number. Two integers are divided exactly and rounded once. -/
def divide : Quantity → Quantity → Except NumberFault Binary64
  | .integer n, .integer d =>
    if d = 0 then .error .integerByZero
    else match Binary64.ofQuotient n d with
    | .infinite _ => .error .quotientTooLarge
    | x => .ok x
  | a, b => do (← a.toReal).over (← b.toReal)

end Quantity

/-- The greatest integer that is not above a binary64 number. -/
def Binary64.floor : Binary64 → Except NumberFault Int
  | .notANumber => .error .shareNotANumber
  | .infinite _ => .error .infiniteShare
  | x => .ok x.toRat.floor

/-- The integer nearest to a binary64 number, a half to the even neighbour. -/
def Binary64.nearestInt : Binary64 → Except NumberFault Int
  | .notANumber => .error .shareNotANumber
  | .infinite _ => .error .infiniteShare
  | x => .ok (nearestEven x.toRat)

/-- The percentage that `part` is of `whole`, rounded half up; zero when `whole` is not positive. -/
def percentage (part whole : Quantity) : Except NumberFault Int :=
  if whole.notPositive then .ok 0
  else do
    let share ← part.hundredfold.divide whole
    (share + Binary64.half).floor

/-- The percentage of two integer counts. -/
def percentageOfCounts (part whole : Int) : Except NumberFault Int :=
  percentage (.integer part) (.integer whole)

end Provenance

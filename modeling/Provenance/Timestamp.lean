import Provenance.Fault
import Provenance.Number.Decimal

/-!
# Timestamp

Points in time of the Gregorian calendar to the microsecond, without a time zone.
-/

namespace Provenance

/-- A point in time. -/
structure Timestamp where
  year : Nat
  month : Nat
  day : Nat
  hour : Nat
  minute : Nat
  second : Nat
  microsecond : Nat
  deriving DecidableEq

namespace Timestamp

/-- Whether a year has a twenty-ninth of February. -/
def isLeapYear (year : Nat) : Bool := year % 4 == 0 && (year % 100 != 0 || year % 400 == 0)

/-- The days of a month. -/
def daysOfMonth (year month : Nat) : Nat :=
  if month = 2 then (if isLeapYear year then 29 else 28)
  else if month ∈ [4, 6, 9, 11] then 30
  else 31

/-- The point in time that numbers name, or the first of them that is out of range. -/
def check (year month day hour minute second microsecond : Int) : Checked Timestamp :=
  if year < 1 ∨ 9999 < year then .error (.calendar (.year year))
  else if month < 1 ∨ 12 < month then .error (.calendar .month)
  else if day < 1 ∨ (daysOfMonth year.toNat month.toNat : Int) < day then .error (.calendar .day)
  else if hour < 0 ∨ 23 < hour then .error (.calendar .hour)
  else if minute < 0 ∨ 59 < minute then .error (.calendar .minute)
  else if second < 0 ∨ 59 < second then .error (.calendar .second)
  else if microsecond < 0 ∨ 999999 < microsecond then .error (.calendar .microsecond)
  else .ok ⟨year.toNat, month.toNat, day.toNat, hour.toNat, minute.toNat, second.toNat,
    microsecond.toNat⟩

/-- A number with at least so many digits. -/
def padded (width n : Nat) : String := Binary64.padZeros width (Nat.repr n)

/-- A point in time as text. Microseconds are written only when there are some. -/
def text (t : Timestamp) : String :=
  padded 4 t.year ++ "-" ++ padded 2 t.month ++ "-" ++ padded 2 t.day ++ "T" ++
    padded 2 t.hour ++ ":" ++ padded 2 t.minute ++ ":" ++ padded 2 t.second ++
    (if t.microsecond = 0 then "" else "." ++ padded 6 t.microsecond)

end Timestamp

end Provenance

import Provenance.Number.Binary64

/-!
# Number — Decimal

Decimal spellings of binary64 numbers: reading a digit string with an exponent, and writing a number
with a fixed count of decimal places.
-/

namespace Provenance.Binary64

/-! ## Reading -/

/-- The number nearest to `digits * 10 ^ exponent`. Exponents far outside the finite range are
answered without computing the power. -/
def ofDecimal (negative : Bool) (digits : Nat) (exponent : Int) : Binary64 :=
  if digits = 0 then signedZero negative
  else if 400 < exponent then .infinite negative
  else if exponent + (digits.log2 : Int) < -1200 then signedZero negative
  else
    let q : Rat := (digits : Rat) * (10 : Rat) ^ exponent
    ofRat (if negative then -q else q)

/-! ## Writing -/

/-- The text on the left filled up with zeros to a width. -/
def padZeros (width : Nat) (digits : String) : String :=
  String.ofList (List.replicate (width - digits.length) '0') ++ digits

/-- A number with a fixed count of decimal places, the exact value rounded to the last place, a tie
to the even digit. Without places there is no point. -/
def toFixed (places : Nat) : Binary64 → String
  | .notANumber => "nan"
  | .infinite negative => if negative then "-inf" else "inf"
  | .finite negative rank _ =>
    let unit := Nat.pow 10 places
    let scaled := (nearestEven (magnitude rank * unit)).toNat
    let point := if places = 0 then "" else "." ++ padZeros places (Nat.repr (scaled % unit))
    (if negative then "-" else "") ++ Nat.repr (scaled / unit) ++ point

end Provenance.Binary64

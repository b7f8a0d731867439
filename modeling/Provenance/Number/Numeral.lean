import Provenance.Number.Decimal
import Provenance.Text.Blank

/-!
# Number — Numeral

Numbers as people write them: decimal integers, and decimal fractions with an exponent. Digits may
be grouped by single low lines. Settings are read more freely than other numbers: blanks may stand
around them, and zeros in front of an integer and a fraction of zeros behind it count for nothing.
-/

namespace Provenance.Numeral

/-! ## Digits -/

/-- The value of a digit string. -/
def digitsValue (digits : List Char) : Nat :=
  digits.foldl (fun value c => 10 * value + (c.toNat - '0'.toNat)) 0

/-- The sign in front of a text, and the text behind it. -/
def splitSign : List Char → Bool × List Char
  | '-' :: cs => (true, cs)
  | '+' :: cs => (false, cs)
  | cs => (false, cs)

/-- A text without low lines, provided that they are single and stand between other characters. -/
def ungroup? (cs : List Char) : Option (List Char) :=
  let groups := cs.splitOn '_'
  if groups.length < 2 ∨ groups.contains [] then none else some groups.flatten

/-! ## Integers -/

/-- The most digits of an integer. -/
def digitLimit : Nat := 4300

/-- The integer of some digits behind an optional sign. -/
def signedDigits? (cs : List Char) : Option Int :=
  let (negative, digits) := splitSign cs
  if digits ≠ [] ∧ digits.all Char.isDigit then
    some (if negative then -(digitsValue digits : Int) else digitsValue digits)
  else none

/-- The integer that a text without blanks spells, unless it has too many digits. -/
def plainInteger? (cs : List Char) : Option Int :=
  if (splitSign cs).2.length ≤ digitLimit then signedDigits? cs else none

/-- The integer that a text spells in the one way that has nothing superfluous: no plus sign, no
zero in front of other digits. A minus sign counts as a digit. -/
def canonicalInteger? (cs : List Char) : Option Int :=
  let digits := if cs.head? = some '-' then cs.drop 1 else cs
  if cs.length ≤ digitLimit ∧ (digits = ['0'] ∨ digits.head? ≠ some '0') ∧ digits.all Char.isDigit
  then signedDigits? cs
  else none

/-- Whether a text begins like an integer in its one way and has too many digits for it. -/
def isTooLong (cs : List Char) : Bool :=
  let sign := if cs.head? = some '-' then 1 else 0
  let digits := (cs.drop sign).takeWhile Char.isDigit
  digits.head? != some '0' && digits != [] && decide (digitLimit < sign + digits.length)

/-- Whether a character can stand among the zeros in front of an integer. -/
def isFiller (c : Char) : Bool := c == '0' || c == '_'

/-- An integer without the zeros in front of it and the low lines among them. Where no other digit
follows, the last of them stays. None if the text does not begin with a digit, or if something
other than a digit, a point or a minus sign follows the zeros. -/
def dropZeros? (cs : List Char) : Option (List Char) :=
  let filler := cs.takeWhile isFiller
  let rest := cs.drop filler.length
  if cs.head? = some '0' then
    match rest with
    | [] => some (filler.drop (filler.length - 1))
    | c :: _ =>
      if c = '.' then some (filler.drop (filler.length - 1) ++ rest)
      else if c.isDigit ∨ c = '-' then some rest
      else none
  else if cs.head?.any Char.isDigit then some cs
  else none

/-- A text without a point and zeros at its end. -/
def dropZeroFraction (cs : List Char) : List Char :=
  let whole := cs.takeWhile (· != '.')
  let places := cs.drop (whole.length + 1)
  if places ≠ [] ∧ places.all (· == '0') then whole else cs

/-- A text in the one way that integers are spelled in, if it spells one freely. The zeros go first,
so a minus sign may stand behind them; two signs are none. -/
def canonical? : List Char → Option (List Char)
  | '+' :: '-' :: _ => none
  | '+' :: cs => body <$> dropZeros? cs
  | '-' :: cs => (dropZeros? cs).map fun rest => body ('-' :: rest)
  | cs => body <$> dropZeros? cs
where
  /-- The text without its fraction and its low lines. -/
  body (cs : List Char) : List Char :=
    let whole := dropZeroFraction cs
    (ungroup? whole).getD whole

/-- The integer that a text without blanks spells freely. -/
def integer? (cs : List Char) : Option Int := (canonical? cs).bind canonicalInteger?

/-! ## Fractions -/

/-- A decimal fraction: its sign, its digits without the point, and the power of ten of the last. -/
structure Fraction where
  negative : Bool
  digits : Nat
  exponent : Int
  deriving DecidableEq

/-- The number nearest to a fraction. -/
def Fraction.toBinary64 (f : Fraction) : Binary64 :=
  Binary64.ofDecimal f.negative f.digits f.exponent

/-- The exponent behind the digits of a fraction; nothing at all stands for zero. -/
def exponent? : List Char → Option Int
  | [] => some 0
  | e :: cs => if e == 'e' || e == 'E' then signedDigits? cs else none

/-- The fraction that a text without blanks spells. -/
def fraction? (cs : List Char) : Option Fraction :=
  let (negative, unsigned) := splitSign cs
  let whole := unsigned.takeWhile Char.isDigit
  let rest := unsigned.dropWhile Char.isDigit
  let (places, behind) := match rest with
    | '.' :: more => (more.takeWhile Char.isDigit, more.dropWhile Char.isDigit)
    | more => ([], more)
  if whole = [] ∧ places = [] then none
  else (exponent? behind).map fun e =>
    ⟨negative, digitsValue (whole ++ places), e - places.length⟩

/-- The number that a text without blanks spells, by digits or by name. -/
def plainReal? (cs : List Char) : Option Binary64 :=
  let (negative, unsigned) := splitSign cs
  let word := String.ofList (unsigned.map Char.toLower)
  if word = "inf" ∨ word = "infinity" then some (.infinite negative)
  else if word = "nan" then some .notANumber
  else (fraction? cs).map Fraction.toBinary64

/-! ## Blanks -/

/-- Whether a character is white space around a number. The four separators of ASCII are not. -/
def isSpacing (c : Char) : Bool := Text.isBlank c && !(28 ≤ c.toNat && c.toNat ≤ 31)

/-- The integer that a text spells freely, with blanks around it. -/
def spacedInteger? (cs : List Char) : Option Int := integer? (Text.trim isSpacing cs)

/-- The number that a text spells, with blanks around it or with low lines in it, not with both. -/
def spacedReal? (cs : List Char) : Option Binary64 :=
  match plainReal? (Text.trim isSpacing cs) with
  | some x => some x
  | none => (ungroup? cs).bind plainReal?

end Provenance.Numeral

/-!
# Number — Binary64

Double-precision numbers as ranks: the finite magnitudes are numbered in increasing order, so the
rank of a magnitude is its bit pattern, the order of magnitudes is the order of ranks, and no
magnitude has two spellings. Every operation computes the exact rational result and rounds it once,
to the nearest magnitude, a tie to the even rank.
-/

namespace Provenance

/-! ## Rounding a rational to an integer -/

/-- The nearest integer; of two equally near ones the even one. -/
def nearestEven (q : Rat) : Int :=
  let below := q.floor
  let past := q - below
  if past < 1 / 2 then below
  else if 1 / 2 < past then below + 1
  else if below % 2 = 0 then below
  else below + 1

namespace Binary64

/-! ## Magnitudes -/

/-- How many magnitudes stand in a block of one spacing. -/
def blockSize : Nat := Nat.pow 2 52

/-- The first rank above the finite magnitudes. -/
def rankEnd : Nat := 2047 * blockSize

/-- The magnitude of a rank: in the first block the multiples of `2 ^ -1074`, from there on the
spacing doubles from block to block. -/
def magnitude (rank : Nat) : Rat :=
  if rank < blockSize then rank * (2 : Rat) ^ (-1074 : Int)
  else
    ((blockSize + rank % blockSize : Nat) : Rat) * (2 : Rat) ^ ((rank / blockSize : Nat) - 1075 : Int)

/-- The exponent of the spacing of the magnitudes around a positive rational. -/
def spacing (q : Rat) : Int :=
  let guess : Int := (q.num.natAbs.log2 : Int) - q.den.log2 - 52
  max (-1074) (if q < (2 : Rat) ^ (guess + 52) then guess - 1 else guess)

/-- The rank of the magnitude nearest to a positive rational; it reaches `rankEnd` when the rational
is too large for a finite magnitude. -/
def nearestRank (q : Rat) : Nat :=
  let e := spacing q
  (nearestEven (q / (2 : Rat) ^ e)).toNat + (e + 1074).toNat * blockSize

end Binary64

/-! ## Numbers -/

/-- A binary64 number. Zero has two signs; all values that are not numbers are one. -/
inductive Binary64 where
  | finite (negative : Bool) (rank : Nat) (rank_lt : rank < Binary64.rankEnd)
  | infinite (negative : Bool)
  | notANumber
  deriving DecidableEq

namespace Binary64

theorem zero_lt_rankEnd : 0 < rankEnd := by decide

/-- The zero of a sign. -/
def signedZero (negative : Bool) : Binary64 := .finite negative 0 zero_lt_rankEnd

/-- Positive zero. -/
def zero : Binary64 := signedZero false

instance : Inhabited Binary64 := ⟨zero⟩

/-- The number nearest to a rational. A zero takes the given sign. -/
def ofRat (q : Rat) (negativeZero : Bool := false) : Binary64 :=
  if q = 0 then signedZero negativeZero
  else
    let rank := nearestRank q.abs
    if h : rank < rankEnd then .finite (decide (q < 0)) rank h
    else .infinite (decide (q < 0))

/-- The number nearest to an integer. -/
def ofInt (n : Int) : Binary64 := ofRat n

/-- The number nearest to a quotient of two integers. -/
def ofQuotient (n d : Int) : Binary64 := ofRat ((n : Rat) / d)

/-- The exact value of a finite number. Infinities and values that are not numbers have none. -/
def toRat? : Binary64 → Option Rat
  | .finite negative rank _ => some (if negative then -magnitude rank else magnitude rank)
  | _ => none

/-- The exact value of a finite number, and zero for what has none. -/
def toRat (x : Binary64) : Rat := x.toRat?.getD 0

/-! ## Bit patterns -/

/-- The bit pattern of a sign. -/
def signBits (negative : Bool) : Nat := if negative then Nat.pow 2 63 else 0

/-- The interchange bit pattern: the sign, then the rank. -/
def toBits : Binary64 → Nat
  | .finite negative rank _ => signBits negative + rank
  | .infinite negative => signBits negative + rankEnd
  | .notANumber => rankEnd + Nat.pow 2 51

/-! ## Order -/

/-- The place of a number on the line of ranks; what is not a number has none. -/
def place? : Binary64 → Option Int
  | .finite negative rank _ => some (if negative then -(rank : Int) else rank)
  | .infinite negative => some (if negative then -(rankEnd : Int) else rankEnd)
  | .notANumber => none

/-- Strictly below; false of what is not a number. -/
def lt (x y : Binary64) : Bool :=
  match x.place?, y.place? with
  | some a, some b => decide (a < b)
  | _, _ => false

/-- Below or equal; false of what is not a number. -/
def le (x y : Binary64) : Bool :=
  match x.place?, y.place? with
  | some a, some b => decide (a ≤ b)
  | _, _ => false

instance : LT Binary64 := ⟨fun x y => x.lt y = true⟩
instance : LE Binary64 := ⟨fun x y => x.le y = true⟩
instance (x y : Binary64) : Decidable (x < y) := inferInstanceAs (Decidable (x.lt y = true))
instance (x y : Binary64) : Decidable (x ≤ y) := inferInstanceAs (Decidable (x.le y = true))

/-! ## Arithmetic -/

/-- Whether the sign is negative, also of a zero. -/
def isNegative : Binary64 → Bool
  | .finite negative _ _ => negative
  | .infinite negative => negative
  | .notANumber => false

/-- Whether a number is a zero of either sign. -/
def isZero : Binary64 → Bool
  | .finite _ rank _ => rank == 0
  | _ => false

def neg : Binary64 → Binary64
  | .finite negative rank h => .finite (!negative) rank h
  | .infinite negative => .infinite (!negative)
  | .notANumber => .notANumber

/-- The sum. An exact cancellation is positive zero; two negative zeros keep their sign. -/
def add : Binary64 → Binary64 → Binary64
  | .notANumber, _ => .notANumber
  | _, .notANumber => .notANumber
  | .infinite s, .infinite t => if s = t then .infinite s else .notANumber
  | .infinite s, _ => .infinite s
  | _, .infinite t => .infinite t
  | x, y => ofRat (x.toRat + y.toRat) (x.isNegative && y.isNegative)

def sub (x y : Binary64) : Binary64 := x.add y.neg

/-- The product. A zero times an infinity is not a number. -/
def mul (x y : Binary64) : Binary64 :=
  let negative := x.isNegative != y.isNegative
  match x, y with
  | .notANumber, _ => .notANumber
  | _, .notANumber => .notANumber
  | .infinite _, _ => if y.isZero then .notANumber else .infinite negative
  | _, .infinite _ => if x.isZero then .notANumber else .infinite negative
  | _, _ => ofRat (x.toRat * y.toRat) negative

/-- The quotient. A zero by a zero and an infinity by an infinity are not numbers; anything else by
a zero is infinite. -/
def div (x y : Binary64) : Binary64 :=
  let negative := x.isNegative != y.isNegative
  match x, y with
  | .notANumber, _ => .notANumber
  | _, .notANumber => .notANumber
  | .infinite _, .infinite _ => .notANumber
  | .infinite _, _ => .infinite negative
  | _, .infinite _ => signedZero negative
  | _, _ =>
    if y.isZero then (if x.isZero then .notANumber else .infinite negative)
    else ofRat (x.toRat / y.toRat) negative

instance : Add Binary64 := ⟨add⟩
instance : Sub Binary64 := ⟨sub⟩
instance : Mul Binary64 := ⟨mul⟩
instance : Div Binary64 := ⟨div⟩
instance : Neg Binary64 := ⟨neg⟩
instance (n : Nat) : OfNat Binary64 n := ⟨ofInt n⟩

/-- One half. -/
def half : Binary64 := ofQuotient 1 2

/-- The sum of a list, added from the left. -/
def sum (xs : List Binary64) : Binary64 := xs.foldl (· + ·) 0

/-- `x`, or `bound` when `x` is not below it. What is not a number is not below the bound. -/
def atMost (bound x : Binary64) : Binary64 := if x < bound then x else bound

/-- `x`, or `bound` when `x` is not above it. -/
def atLeast (bound x : Binary64) : Binary64 := if bound < x then x else bound

/-! ## Roots -/

/-- The integer part of the square root, one base-four digit at a time. -/
def integerRoot (n : Nat) : Nat :=
  if h : n = 0 then 0
  else
    have : n / 4 < n := by omega
    let r := 2 * integerRoot (n / 4)
    if (r + 1) * (r + 1) ≤ n then r + 1 else r
termination_by n

/-- The number nearest to the square root of a rational that is not negative. The root is taken with
more binary digits than a number holds; a last digit of one stands for all that was cut off, so that
the final rounding sees on which side of a tie the root lies. -/
def sqrt (q : Rat) : Binary64 :=
  if q.num ≤ 0 then zero
  else
    let shift := ((112 + (q.den.log2 : Int) - q.num.natAbs.log2) / 2).toNat
    let scaled := q * (4 : Rat) ^ shift
    let root := integerRoot scaled.floor.toNat
    let exact := scaled = ((root * root : Nat) : Rat)
    ofRat (((2 * root + (if exact then 0 else 1) : Nat) : Rat) / 2 ^ (shift + 1))

end Binary64

end Provenance

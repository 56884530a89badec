/-!
# Binary64 numbers

An IEEE 754 binary64 number is kept as its 64-bit pattern, and read through its three
fields: sign, biased exponent and fraction. A finite number is `significand · 2 ^ exponent`
exactly, so every comparison between numbers, and between a number and an integer, is
done in integer arithmetic. Rounding a ratio of naturals to the nearest binary64 number,
ties to the even significand, gives the only conversion into the type.
-/

namespace RestConfig

/-- An IEEE 754 binary64 number, kept as its bit pattern. -/
structure Binary64 where
  bits : UInt64
  deriving DecidableEq, Inhabited

/-- A number in exact form for comparisons: an integer times a power of two, or an
infinity. -/
inductive Extended where
  | negInf
  | finite (mantissa : Int) (exponent : Int)
  | posInf
  deriving DecidableEq, Inhabited

/-- `n · 2 ^ e` for a possibly negative `e`, as a pair of natural factors
`(n · 2 ^ max e 0, 2 ^ max (-e) 0)` standing for a quotient. -/
def scaleByTwo (n : Nat) (e : Int) : Nat × Nat :=
  if 0 ≤ e then (n * Nat.pow 2 e.toNat, 1) else (n, Nat.pow 2 (-e).toNat)

def roundHalfEven (num den : Nat) : Nat :=
  let q := num / den
  let r := num % den
  if 2 * r < den then q
  else if 2 * r > den then q + 1
  else if q % 2 = 0 then q else q + 1

namespace Binary64

def fraction (x : Binary64) : Nat := x.bits.toNat % Nat.pow 2 52

def biasedExponent (x : Binary64) : Nat := (x.bits.toNat / Nat.pow 2 52) % Nat.pow 2 11

def negative (x : Binary64) : Bool := decide (Nat.pow 2 63 ≤ x.bits.toNat)

def isNaN (x : Binary64) : Bool := x.biasedExponent == 2047 && x.fraction != 0

def isInfinite (x : Binary64) : Bool := x.biasedExponent == 2047 && x.fraction == 0

def isFinite (x : Binary64) : Bool := x.biasedExponent != 2047

def significand (x : Binary64) : Nat :=
  if x.biasedExponent = 0 then x.fraction else Nat.pow 2 52 + x.fraction

def exponent (x : Binary64) : Int :=
  if x.biasedExponent = 0 then -1074 else (x.biasedExponent : Int) - 1075

def isZero (x : Binary64) : Bool := x.isFinite && x.significand == 0

def ofFields (negative : Bool) (biasedExponent fraction : Nat) : Binary64 :=
  ⟨UInt64.ofNat ((if negative then Nat.pow 2 63 else 0) + biasedExponent * Nat.pow 2 52 + fraction)⟩

def nan : Binary64 := ofFields false 2047 (Nat.pow 2 51)

def infinity (negative : Bool) : Binary64 := ofFields negative 2047 0

def zero (negative : Bool) : Binary64 := ofFields negative 0 0

def toExtended (x : Binary64) : Extended :=
  if x.isInfinite then (if x.negative then .negInf else .posInf)
  else
    let m : Int := x.significand
    .finite (if x.negative then -m else m) x.exponent

/-- The least `q` with `num / den < 2 ^ (q + 53)`, for a positive ratio: the power of two
that puts the ratio's significand in `[2 ^ 52, 2 ^ 53)`. -/
def scaleOf (num den : Nat) : Int :=
  let q0 : Int := (Nat.log2 num : Int) - (Nat.log2 den : Int) - 52
  -- num / den lies in [2 ^ (q0 + 51), 2 ^ (q0 + 53)); one comparison settles it
  let (a, b) := scaleByTwo den (q0 + 52)
  if num * b < a then q0 - 1 else q0

/-- The binary64 number nearest to `num / den`, ties to the even significand; a ratio
whose nearest number would exceed the largest finite one gives an infinity. -/
def ofRatio (negative : Bool) (num den : Nat) : Binary64 :=
  if num = 0 ∨ den = 0 then zero negative
  else
    let q := max (scaleOf num den) (-1074)
    let (a, b) := scaleByTwo den q
    let m := roundHalfEven (num * b) a
    let (m, q) := if m = Nat.pow 2 53 then (Nat.pow 2 52, q + 1) else (m, q)
    if q > 971 then infinity negative
    else if m < Nat.pow 2 52 then ofFields negative 0 m
    else ofFields negative (q + 1075).toNat (m - Nat.pow 2 52)

def ofInt (i : Int) : Binary64 := ofRatio (decide (i < 0)) i.natAbs 1

/-- The sum of two numbers, rounded to nearest with ties to even: an infinity absorbs a
finite number, opposite infinities give a NaN, and an exact zero sum is negative only when
both numbers are negative zeros. -/
def add (x y : Binary64) : Binary64 :=
  if x.isNaN || y.isNaN then nan
  else match x.toExtended, y.toExtended with
    | .posInf, .negInf | .negInf, .posInf => nan
    | .posInf, _ | _, .posInf => infinity false
    | .negInf, _ | _, .negInf => infinity true
    | .finite a e, .finite b f =>
      let k := min e f
      let sum := a * Int.pow 2 (e - k).toNat + b * Int.pow 2 (f - k).toNat
      if sum = 0 then zero (x.negative && y.negative)
      else
        let (num, den) := scaleByTwo sum.natAbs k
        ofRatio (decide (sum < 0)) num den

/-- The product of two numbers, rounded to nearest with ties to even: its sign is the
exclusive or of the signs, and an infinity times a zero is a NaN. -/
def mul (x y : Binary64) : Binary64 :=
  let negative := x.negative != y.negative
  if x.isNaN || y.isNaN then nan
  else if x.isInfinite || y.isInfinite then
    if x.isZero || y.isZero then nan else infinity negative
  else
    let (num, den) := scaleByTwo (x.significand * y.significand) (x.exponent + y.exponent)
    ofRatio negative num den

end Binary64

namespace Extended

def compare : Extended → Extended → Ordering
  | .negInf, .negInf => .eq
  | .negInf, _ => .lt
  | _, .negInf => .gt
  | .posInf, .posInf => .eq
  | .posInf, _ => .gt
  | _, .posInf => .lt
  | .finite a e, .finite b f =>
    let k := min e f
    Ord.compare (a * Int.pow 2 (e - k).toNat) (b * Int.pow 2 (f - k).toNat)

def ofInt (i : Int) : Extended := .finite i 0

end Extended

end RestConfig

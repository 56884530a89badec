import RestConfig.Number.Text

/-!
# Numbers with a given precision

Besides its shortest digits, a binary64 number can be written to a requested precision,
always rounding its exact value to the nearest, ties to even:

* *fixed*: a given number of places after the point;
* *scientific*: one digit, a point, a given number of digits and a signed exponent of at
  least two digits;
* *general*: a given number of significant digits (at least one), positionally when the
  decimal exponent `X` of the rounded value satisfies `-4 ≤ X < precision` and
  scientifically otherwise, with trailing zeros and a bare point removed.

The alternate form keeps the point when no digit follows it and, in the general notation,
keeps the trailing zeros.
-/

namespace RestConfig

/-- The three forms for a number written to a precision. -/
inductive NumberForm where
  | fixed
  | scientific
  | general
  deriving DecidableEq, Inhabited

namespace Places

def scaled (m : Nat) (q : Int) (s : Int) : Nat :=
  let (num, den) := scaleByTwo m q
  roundHalfEven (num * Nat.pow 10 s.toNat) (den * Nat.pow 10 (-s).toNat)

def digitsOf (n width : Nat) : List Char := padDigits n width

def fixed (m : Nat) (q : Int) (places : Nat) (alternate : Bool) : List Char :=
  let n := scaled m q places
  let ds := digitsOf n (places + 1)
  let whole := ds.take (ds.length - places)
  let frac := ds.drop (ds.length - places)
  if places = 0 then whole ++ (if alternate then ['.'] else []) else whole ++ '.' :: frac

/-- The decimal exponent of `m · 2 ^ q` once rounded to `digits + 1` significant digits,
with those digits; zero has exponent zero. -/
def significant (m : Nat) (q : Int) (digits : Nat) : Nat × Int :=
  if m = 0 then (0, 0)
  else
    let e := Shortest.decimalExponent m q
    let n := scaled m q ((digits : Int) - e)
    if n ≥ Nat.pow 10 (digits + 1) then (scaled m q ((digits : Int) - (e + 1)), e + 1) else (n, e)

def exponentPart (e : Int) : List Char :=
  'e' :: (if e < 0 then '-' else '+') :: padDigits e.natAbs 2

def scientific (m : Nat) (q : Int) (digits : Nat) (alternate : Bool) : List Char :=
  let (n, e) := significant m q digits
  let ds := digitsOf n (digits + 1)
  let mantissa := match ds with
    | [] => []
    | d :: rest => if rest.isEmpty && !alternate then [d] else d :: '.' :: rest
  mantissa ++ exponentPart e

def trimFraction (cs : List Char) : List Char :=
  if cs.contains '.' then
    let kept := (cs.reverse.dropWhile (· == '0')).reverse
    if kept.getLast? == some '.' then kept.dropLast else kept
  else cs

def general (m : Nat) (q : Int) (precision : Nat) (alternate : Bool) : List Char :=
  let p := max precision 1
  let (_, x) := significant m q (p - 1)
  if -4 ≤ x ∧ x < p then
    let body := fixed m q (p - 1 - x).toNat alternate
    if alternate then body else trimFraction body
  else
    let body := scientific m q (p - 1) alternate
    if alternate then body
    else
      let mantissa := body.takeWhile (· != 'e')
      trimFraction mantissa ++ body.dropWhile (· != 'e')

end Places

/-- A number written in a notation to a precision; `upper` writes the letters in capitals. -/
def Binary64.withPrecision (x : Binary64) (form : NumberForm) (precision : Nat)
    (alternate upper : Bool) : String :=
  let body : List Char :=
    if x.isNaN then "nan".toList
    else
      let sign := if x.negative then ['-'] else []
      if x.isInfinite then sign ++ "inf".toList
      else
        let m := x.significand
        let q := x.exponent
        sign ++ match form with
          | .fixed => Places.fixed m q precision alternate
          | .scientific => Places.scientific m q precision alternate
          | .general => Places.general m q precision alternate
  String.ofList (if upper then body.map Char.toUpper else body)

end RestConfig

import RestConfig.Number.Binary64

/-!
# Shortest decimal digits

For a positive finite binary64 number `m · 2 ^ q`, the reals that round to it form an
interval around it: half the gap to each neighbour, the lower gap being half as wide at a
power of two, with the ends included exactly when `m` is even. The shortest decimal
digits are found grid by grid: for `n = 1, 2, …, 17` significant digits, the two
neighbours of the number on the grid of `n` digits are tested for membership, the first
grid with a member wins, and of two members the nearer one (the even one on a tie).
Seventeen digits always suffice, so the search is bounded.
-/

namespace RestConfig.Shortest

def pos (i : Int) : Nat := i.toNat

def compareScaled (a : Nat) (s t : Int) (b : Nat) (u v : Int) : Ordering :=
  Ord.compare (a * Nat.pow 2 (pos (s - u)) * Nat.pow 10 (pos (t - v)))
    (b * Nat.pow 2 (pos (u - s)) * Nat.pow 10 (pos (v - t)))

def digitCount (n : Nat) : Nat := (Nat.toDigits 10 n).length

/-- The decimal exponent `p` of `m · 2 ^ q` for `m > 0`: `10 ^ p ≤ m · 2 ^ q < 10 ^ (p + 1)`. -/
def decimalExponent (m : Nat) (q : Int) : Int :=
  let (num, den) := scaleByTwo m q
  let t : Int := (digitCount num : Int) - digitCount den
  -- num / den lies in (10 ^ (t - 1), 10 ^ (t + 1)); one comparison settles it
  if compareScaled num 0 0 den 0 t = .lt then t - 1 else t

/-- The interval of reals that round to `m · 2 ^ q`, in units of `2 ^ (q - 2)`:
its ends are `4m - gap` and `4m + 2`. -/
structure Interval where
  significand : Nat
  exponent : Int
  lowerGap : Nat
  closed : Bool

def Interval.contains (iv : Interval) (d : Nat) (k : Int) : Bool :=
  let low := compareScaled (4 * iv.significand - iv.lowerGap) (iv.exponent - 2) 0 d 0 k
  let high := compareScaled d 0 k (4 * iv.significand + 2) (iv.exponent - 2) 0
  if iv.closed then low != .gt && high != .gt else low == .lt && high == .lt

/-- Tries the grids of `n, n + 1, …` significant digits, with `fuel` grids left; answers
the digits and the power of ten of the last one. -/
def search (iv : Interval) (p : Int) : Nat → Nat → Nat × Int
  | 0, _ => (0, 0)
  | fuel + 1, n =>
    let k : Int := p - n + 1
    let (num, den) := scaleByTwo iv.significand iv.exponent
    let bigN := num * Nat.pow 10 (pos (-k))
    let bigD := den * Nat.pow 10 (pos k)
    let lo := bigN / bigD
    let r := bigN % bigD
    if r = 0 then (lo, k)
    else
      let loIn := iv.contains lo k
      let hiIn := iv.contains (lo + 1) k
      if loIn && hiIn then
        if 2 * r < bigD then (lo, k)
        else if 2 * r > bigD then (lo + 1, k)
        else if lo % 2 = 0 then (lo, k) else (lo + 1, k)
      else if loIn then (lo, k)
      else if hiIn then (lo + 1, k)
      else search iv p fuel (n + 1)

def dropTrailingZeros : Nat → Nat → Int → Nat × Int
  | 0, d, k => (d, k)
  | fuel + 1, d, k => if d ≠ 0 ∧ d % 10 = 0 then dropTrailingZeros fuel (d / 10) (k + 1) else (d, k)

/-- The shortest digits `d` and power `k` with `d · 10 ^ k` rounding to the positive
finite number with significand `m`, exponent `q` and the given biased exponent field. -/
def digits (m : Nat) (q : Int) (biased : Nat) : Nat × Int :=
  let iv : Interval :=
    { significand := m, exponent := q,
      lowerGap := if m = Nat.pow 2 52 ∧ biased > 1 then 1 else 2,
      closed := m % 2 == 0 }
  let (d, k) := search iv (decimalExponent m q) 17 1
  dropTrailingZeros (digitCount d) d k

end RestConfig.Shortest

import Mathlib
import RestConfig.Proofs.BinaryRounding
import RestConfig.Number.Shortest

/-!
# The shortest digits lie in the rounding interval

The digit search compares scaled naturals exactly, so each of its tests is a comparison of
rationals: `Interval.contains` tests membership of `d · 10 ^ k` in the interval. The search
starts from the decimal exponent `p` of the number, `10 ^ p ≤ m · 2 ^ q`. On the grid of
seventeen digits the step `10 ^ (p - 16)` is narrower than the interval, so of the two grid
points around the number one lies in it, and the search never runs out of grids. Dropping
trailing zeros keeps the value. Hence the digits of every positive finite number stand for a
rational in its interval (`Shortest.digits_holds`).
-/

namespace RestConfig.Shortest

/-! ## Exact comparisons -/

theorem pow_pos_part (b : Nat) (hb : 0 < b) (s u : Int) :
    ((Nat.pow b (pos (s - u)) : Nat) : ℚ) * (b : ℚ) ^ min s u = (b : ℚ) ^ s := by
  have ne : (b : ℚ) ≠ 0 := by exact_mod_cast hb.ne'
  rw [Nat.pow_eq, Nat.cast_pow, ← zpow_natCast, ← zpow_add₀ ne]
  congr 1
  simp only [pos]
  omega

theorem compareScaled_cast (a : Nat) (s t : Int) (b : Nat) (u v : Int) :
    ((a * Nat.pow 2 (pos (s - u)) * Nat.pow 10 (pos (t - v)) : Nat) : ℚ) *
        (2 ^ min s u * 10 ^ min t v) = a * 2 ^ s * 10 ^ t ∧
      ((b * Nat.pow 2 (pos (u - s)) * Nat.pow 10 (pos (v - t)) : Nat) : ℚ) *
        (2 ^ min s u * 10 ^ min t v) = b * 2 ^ u * 10 ^ v := by
  have two := pow_pos_part 2 two_pos
  have ten := pow_pos_part 10 (by norm_num)
  push_cast at two ten
  constructor
  · rw [← two s u, ← ten t v]
    push_cast
    ring
  · rw [min_comm s u, min_comm t v, ← two u s, ← ten v t]
    push_cast
    ring

theorem compareScaled_lt_iff {a : Nat} {s t : Int} {b : Nat} {u v : Int} :
    compareScaled a s t b u v = .lt ↔ (a : ℚ) * 2 ^ s * 10 ^ t < b * 2 ^ u * 10 ^ v := by
  obtain ⟨left, right⟩ := compareScaled_cast a s t b u v
  have c : (0 : ℚ) < 2 ^ min s u * 10 ^ min t v := by positivity
  rw [compareScaled, compare_lt_iff_lt, ← left, ← right, mul_lt_mul_iff_left₀ c]
  exact_mod_cast Iff.rfl

theorem compareScaled_gt_iff {a : Nat} {s t : Int} {b : Nat} {u v : Int} :
    compareScaled a s t b u v = .gt ↔ (b : ℚ) * 2 ^ u * 10 ^ v < a * 2 ^ s * 10 ^ t := by
  obtain ⟨left, right⟩ := compareScaled_cast a s t b u v
  have c : (0 : ℚ) < 2 ^ min s u * 10 ^ min t v := by positivity
  rw [compareScaled, compare_gt_iff_gt, ← left, ← right, mul_lt_mul_iff_left₀ c]
  exact_mod_cast Iff.rfl

theorem contains_iff (iv : Interval) (d : Nat) (k : Int) :
    iv.contains d k = true ↔ iv.Holds (d * 10 ^ k) := by
  unfold Interval.contains Interval.Holds Interval.low Interval.high
  have below := @compareScaled_gt_iff (4 * iv.significand - iv.lowerGap) (iv.exponent - 2) 0 d 0 k
  have above := @compareScaled_gt_iff d 0 k (4 * iv.significand + 2) (iv.exponent - 2) 0
  have below' := @compareScaled_lt_iff (4 * iv.significand - iv.lowerGap) (iv.exponent - 2) 0 d 0 k
  have above' := @compareScaled_lt_iff d 0 k (4 * iv.significand + 2) (iv.exponent - 2) 0
  simp only [zpow_zero, mul_one] at below above below' above'
  split
  · simp only [Bool.and_eq_true, bne_iff_ne, ne_eq, below, above, not_lt]
  · simp only [Bool.and_eq_true, beq_iff_eq, below', above']

/-! ## The decimal exponent -/

theorem digitCount_bounds {n : Nat} (hn : 0 < n) :
    (10 : ℚ) ^ ((digitCount n : Int) - 1) ≤ n ∧ (n : ℚ) < 10 ^ (digitCount n : Int) := by
  have len : 0 < digitCount n := Nat.length_toDigits_pos
  have upper : n < 10 ^ digitCount n :=
    (Nat.length_toDigits_le_iff (by norm_num) len).mp le_rfl
  have lower : 10 ^ (digitCount n - 1) ≤ n := by
    by_cases one : digitCount n = 1
    · rw [one]
      exact hn
    · have longer : ¬ digitCount n ≤ digitCount n - 1 := by omega
      have shorter := Nat.length_toDigits_le_iff (b := 10) (n := n) (k := digitCount n - 1)
        (by norm_num) (by omega)
      exact not_lt.mp fun h => longer (shorter.mpr h)
  constructor
  · rw [show (digitCount n : Int) - 1 = ((digitCount n - 1 : Nat) : Int) by omega, zpow_natCast]
    exact_mod_cast lower
  · rw [zpow_natCast]
    exact_mod_cast upper

theorem pow_decimalExponent_le {m : Nat} (hm : 0 < m) (q : Int) :
    (10 : ℚ) ^ decimalExponent m q ≤ m * 2 ^ q := by
  unfold decimalExponent
  rcases hs : scaleByTwo m q with ⟨num, den⟩
  have ratio := scaleByTwo_ratio m q
  have dpos := scaleByTwo_pos m q
  rw [hs] at ratio dpos
  dsimp only at ratio dpos ⊢
  have dq : (0 : ℚ) < den := by exact_mod_cast dpos
  have npos : 0 < num := by
    have : (0 : ℚ) < num := by rw [ratio]; positivity
    exact_mod_cast this
  have value : (m : ℚ) * 2 ^ q = num / den := by rw [ratio]; field_simp
  rw [value, le_div_iff₀ dq]
  obtain ⟨nlow, -⟩ := digitCount_bounds npos
  obtain ⟨-, dhigh⟩ := digitCount_bounds dpos
  split
  · calc (10 : ℚ) ^ ((digitCount num : Int) - digitCount den - 1) * den
        ≤ 10 ^ ((digitCount num : Int) - digitCount den - 1) * 10 ^ (digitCount den : Int) :=
          mul_le_mul_of_nonneg_left dhigh.le (by positivity)
      _ = 10 ^ ((digitCount num : Int) - 1) := by rw [← zpow_add₀ (by norm_num)]; ring_nf
      _ ≤ num := nlow
  · rename_i above
    rw [compareScaled_lt_iff] at above
    simp only [zpow_zero, mul_one, not_lt] at above
    rw [mul_comm]
    exact above

/-! ## The search -/

section Search

variable {m : Nat}

/-- Seen from a point below the number, a point outside the interval is at most its low
end; seen from above, at least its high end. -/
theorem Interval.le_low_of_not_holds {iv : Interval} {w : ℚ} (out : ¬ iv.Holds w)
    (under : w < iv.high) : w ≤ iv.low := by
  unfold Interval.Holds at out
  split at out
  · by_contra h
    exact out ⟨(not_le.mp h).le, under.le⟩
  · by_contra h
    exact out ⟨not_le.mp h, under⟩

theorem Interval.high_le_of_not_holds {iv : Interval} {w : ℚ} (out : ¬ iv.Holds w)
    (above : iv.low < w) : iv.high ≤ w := by
  unfold Interval.Holds at out
  split at out
  · by_contra h
    exact out ⟨above.le, (not_le.mp h).le⟩
  · by_contra h
    exact out ⟨above, not_le.mp h⟩

theorem intervalOf_ends (hm : 0 < m) (q : Int) (biased : Nat) :
    (intervalOf m q biased).low =
      ((m : ℚ) - (intervalOf m q biased).lowerGap / 4) * 2 ^ q ∧
    (intervalOf m q biased).high = ((m : ℚ) + 1 / 2) * 2 ^ q := by
  have unit : (2 : ℚ) ^ (q - 2) = 2 ^ q / 4 := by
    rw [zpow_sub₀ two_ne_zero]
    norm_num
  have gap : (intervalOf m q biased).lowerGap ≤ 4 * m := by
    simp only [intervalOf]
    split <;> omega
  have significand : (intervalOf m q biased).significand = m := rfl
  have exponent : (intervalOf m q biased).exponent = q := rfl
  constructor
  · rw [Interval.low, significand, exponent, Nat.cast_sub gap, unit]
    push_cast
    ring
  · rw [Interval.high, significand, exponent, unit]
    push_cast
    ring

theorem intervalOf_inside (hm : 0 < m) (q : Int) (biased : Nat) :
    (intervalOf m q biased).low < m * 2 ^ q ∧ (m : ℚ) * 2 ^ q < (intervalOf m q biased).high := by
  obtain ⟨low, high⟩ := intervalOf_ends hm q biased
  have gap : 0 < (intervalOf m q biased).lowerGap := by
    simp only [intervalOf]
    split <;> omega
  have gq : (0 : ℚ) < (intervalOf m q biased).lowerGap := by exact_mod_cast gap
  have unit : (0 : ℚ) < 2 ^ q := zpow_pos two_pos q
  rw [low, high]
  constructor <;> nlinarith

theorem step_lt_width (hm : 0 < m) (small : m < Nat.pow 2 53) {q : Int} (biased : Nat) {p : Int}
    (hp : (10 : ℚ) ^ p ≤ m * 2 ^ q) :
    (10 : ℚ) ^ (p - 16) < (intervalOf m q biased).high - (intervalOf m q biased).low := by
  obtain ⟨low, high⟩ := intervalOf_ends hm q biased
  have unit : (0 : ℚ) < 2 ^ q := zpow_pos two_pos q
  have step : (10 : ℚ) ^ (p - 16) * 10000000000000000 ≤ m * 2 ^ q := by
    rw [zpow_sub₀ (by norm_num)]
    norm_num
    exact hp
  rw [low, high]
  simp only [intervalOf]
  split
  · rename_i edge
    rw [edge.1, pow_two_52] at step
    push_cast at step ⊢
    nlinarith
  · rw [pow_two_53] at small
    have : (m : ℚ) < 9007199254740992 := by exact_mod_cast small
    push_cast
    nlinarith

/-- The grid points around the number: `lo · 10 ^ k` is at most the number, and below it
with `lo + 1` above it unless the remainder is zero. -/
theorem grid_points (m : Nat) (q k : Int) :
    let bigN := (scaleByTwo m q).1 * Nat.pow 10 (pos (-k))
    let bigD := (scaleByTwo m q).2 * Nat.pow 10 (pos k)
    ((bigN / bigD : Nat) : ℚ) * 10 ^ k + ((bigN % bigD : Nat) : ℚ) / bigD * 10 ^ k =
      m * 2 ^ q ∧ 0 < bigD ∧ bigN % bigD < bigD := by
  intro bigN bigD
  have ratio := scaleByTwo_ratio m q
  have dpos := scaleByTwo_pos m q
  have Dpos : 0 < bigD := Nat.mul_pos dpos (by rw [Nat.pow_eq]; positivity)
  have Dq : (0 : ℚ) < bigD := by exact_mod_cast Dpos
  refine ⟨?_, Dpos, Nat.mod_lt _ Dpos⟩
  have split : ((bigN / bigD : Nat) : ℚ) * bigD + (bigN % bigD : Nat) = bigN := by
    exact_mod_cast Nat.div_add_mod' bigN bigD
  have tens : ((Nat.pow 10 (pos (-k)) : Nat) : ℚ) = 10 ^ (-k) * ((Nat.pow 10 (pos k) : Nat) : ℚ) := by
    rw [Nat.pow_eq, Nat.pow_eq]
    push_cast
    rw [← zpow_natCast, ← zpow_natCast, ← zpow_add₀ (by norm_num)]
    congr 1
    simp only [pos]
    omega
  have scaled : (bigN : ℚ) = m * 2 ^ q * 10 ^ (-k) * bigD := by
    simp only [bigN, bigD]
    push_cast
    rw [ratio, tens]
    ring
  have cancel : (bigN : ℚ) / bigD * 10 ^ k = m * 2 ^ q := by
    rw [scaled, mul_div_assoc, div_self Dq.ne', mul_one, mul_assoc, ← zpow_add₀ (by norm_num)]
    simp
  rw [← cancel, ← split]
  field_simp

/-- Where the number lies strictly inside the interval and the interval is wider than the
step of the grid of seventeen digits, the search settles on a member of the interval. -/
theorem search_holds {iv : Interval} {p : Int}
    (inside : iv.low < iv.significand * 2 ^ iv.exponent ∧
      (iv.significand : ℚ) * 2 ^ iv.exponent < iv.high)
    (fine : (10 : ℚ) ^ (p - 16) < iv.high - iv.low) (fuel n : Nat) (hn : n ≤ 17)
    (enough : 17 < n + fuel) :
    iv.Holds ((search iv p fuel n).1 * 10 ^ (search iv p fuel n).2) := by
  induction fuel generalizing n with
  | zero => omega
  | succ fuel ih =>
    have self : iv.Holds (iv.significand * 2 ^ iv.exponent) := by
      unfold Interval.Holds
      split
      · exact ⟨inside.1.le, inside.2.le⟩
      · exact inside
    obtain ⟨value, Dpos, rlt⟩ := grid_points iv.significand iv.exponent (p - n + 1)
    unfold search
    dsimp only
    generalize hk : p - n + 1 = k at value Dpos rlt ⊢
    generalize (scaleByTwo iv.significand iv.exponent).1 * Nat.pow 10 (pos (-k)) = bigN at *
    generalize (scaleByTwo iv.significand iv.exponent).2 * Nat.pow 10 (pos k) = bigD at *
    have Dq : (0 : ℚ) < bigD := by exact_mod_cast Dpos
    split
    · rename_i exact
      rw [exact, Nat.cast_zero, zero_div, zero_mul, add_zero] at value
      rw [value]
      exact self
    · rename_i inexact
      split
      · rename_i both
        simp only [Bool.and_eq_true] at both
        have lo := (contains_iff iv _ k).mp both.1
        have hi := (contains_iff iv _ k).mp both.2
        split
        · exact lo
        · split
          · exact hi
          · split
            · exact lo
            · exact hi
      · split
        · exact (contains_iff iv _ k).mp ‹_›
        · split
          · exact (contains_iff iv _ k).mp ‹_›
          · rename_i notBoth notLo notHi
            by_cases last : n = 17
            · exfalso
              have part : (0 : ℚ) < (bigN % bigD : Nat) / bigD * 10 ^ k := by
                have : 0 < bigN % bigD := Nat.pos_of_ne_zero inexact
                positivity
              have whole : ((bigN % bigD : Nat) : ℚ) / bigD < 1 := by
                rw [div_lt_one Dq]
                exact_mod_cast rlt
              have unit : (0 : ℚ) < 10 ^ k := by positivity
              have below : ((bigN / bigD : Nat) : ℚ) * 10 ^ k < iv.significand * 2 ^ iv.exponent := by
                linarith
              have above : (iv.significand : ℚ) * 2 ^ iv.exponent < ((bigN / bigD + 1 : Nat) : ℚ) * 10 ^ k := by
                push_cast
                nlinarith
              have low := Interval.le_low_of_not_holds
                (mt (contains_iff iv _ k).mpr notLo) (below.trans inside.2)
              have high := Interval.high_le_of_not_holds
                (mt (contains_iff iv _ k).mpr notHi) (inside.1.trans above)
              have step : k = p - 16 := by omega
              push_cast at high
              rw [step] at low high
              linarith
            · exact ih (n + 1) (by omega) (by omega)

theorem dropTrailingZeros_value (fuel d : Nat) (k : Int) :
    ((dropTrailingZeros fuel d k).1 : ℚ) * 10 ^ (dropTrailingZeros fuel d k).2 = d * 10 ^ k := by
  induction fuel generalizing d k with
  | zero => rfl
  | succ fuel ih =>
    unfold dropTrailingZeros
    split
    · rename_i zeros
      rw [ih]
      have tenfold : d = 10 * (d / 10) := by omega
      conv_rhs => rw [tenfold]
      rw [zpow_add₀ (by norm_num)]
      push_cast
      ring
    · rfl

end Search

theorem digits_holds {m : Nat} (hm : 0 < m) (small : m < Nat.pow 2 53) (q : Int) (biased : Nat) :
    (intervalOf m q biased).Holds ((digits m q biased).1 * 10 ^ (digits m q biased).2) := by
  have found := search_holds (intervalOf_inside hm q biased)
    (step_lt_width hm small biased (pow_decimalExponent_le hm q)) 17 1 (by omega) (by omega)
  have unfolded : digits m q biased =
      dropTrailingZeros (digitCount (search (intervalOf m q biased) (decimalExponent m q) 17 1).1)
        (search (intervalOf m q biased) (decimalExponent m q) 17 1).1
        (search (intervalOf m q biased) (decimalExponent m q) 17 1).2 := rfl
  rw [unfolded, dropTrailingZeros_value]
  exact found

end RestConfig.Shortest

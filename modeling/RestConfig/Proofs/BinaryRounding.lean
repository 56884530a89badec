import Mathlib
import RestConfig.Number.Shortest

/-!
# Rounding ratios to binary64

A finite binary64 number is read through its fields, and a pattern built from fields in
range gives those fields back. Rounding a positive ratio `num / den` first picks the power of
two that puts the ratio's significand in `[2 ^ 52, 2 ^ 53)` (`scaleOf`), then rounds the
ratio at that power, or at the least subnormal one, to the nearest integer. That integer is
at most `2 ^ 53`, a carry to `2 ^ 53` moves to the next power, and so the fields of the
result are always in range: rounding never gives a NaN.

The reals that round to a positive finite number `m · 2 ^ q` form an interval around it,
half a unit wide on each side, a quarter below at a power of two, with its ends when `m` is
even. Rounding is correct: every ratio in that interval rounds back to the number
(`Binary64.ofRatio_of_holds`). Just below a power of two this goes through the finer
power below it, where the ratio rounds to `2 ^ 53` and carries back.
-/

namespace RestConfig

theorem pow_two_11 : Nat.pow 2 11 = 2048 := rfl
theorem pow_two_52 : Nat.pow 2 52 = 4503599627370496 := rfl
theorem pow_two_53 : Nat.pow 2 53 = 9007199254740992 := rfl
theorem pow_two_63 : Nat.pow 2 63 = 9223372036854775808 := rfl

/-! ## Ratios scaled by powers of two -/

theorem scaleByTwo_pos (n : Nat) (e : Int) : 0 < (scaleByTwo n e).2 := by
  unfold scaleByTwo
  split
  · exact Nat.one_pos
  · rw [Nat.pow_eq]
    positivity

theorem scaleByTwo_ratio (n : Nat) (e : Int) :
    ((scaleByTwo n e).1 : ℚ) = n * 2 ^ e * (scaleByTwo n e).2 := by
  unfold scaleByTwo
  split
  · rename_i h
    have : (2 : ℚ) ^ e = 2 ^ e.toNat := by
      rw [← zpow_natCast, Int.toNat_of_nonneg h]
    simp [Nat.pow_eq, this]
  · rename_i h
    have : (2 : ℚ) ^ e * 2 ^ (-e).toNat = 1 := by
      rw [← zpow_natCast, Int.toNat_of_nonneg (by omega), ← zpow_add₀ two_ne_zero]
      simp
    simp [Nat.pow_eq, mul_assoc, this]

theorem roundHalfEven_le_of_lt {N D B : Nat} (hD : 0 < D) (h : N < D * B) :
    roundHalfEven N D ≤ B := by
  have quotient : N / D < B := (Nat.div_lt_iff_lt_mul hD).mpr (by rwa [Nat.mul_comm])
  unfold roundHalfEven
  dsimp only
  split
  · omega
  · split
    · omega
    · split <;> omega

theorem roundHalfEven_eq_of_near {N D M : Nat} (hD : 0 < D)
    (low : 2 * M * D ≤ 2 * N + D) (high : 2 * N ≤ 2 * M * D + D)
    (tie : 2 * M * D = 2 * N + D ∨ 2 * N = 2 * M * D + D → M % 2 = 0) :
    roundHalfEven N D = M := by
  unfold roundHalfEven
  dsimp only
  have split := Nat.div_add_mod N D
  have hr := Nat.mod_lt N hD
  generalize N / D = q at split ⊢
  generalize N % D = r at split hr ⊢
  subst split
  -- the ratio lies in `[q, q + 1)`, so the integer within half of it is `q` or `q + 1`
  have above : q ≤ M := by
    by_contra h
    have : (M + 1) * D ≤ q * D := Nat.mul_le_mul_right D (by omega)
    nlinarith
  have below : M ≤ q + 1 := by
    by_contra h
    have : (q + 2) * D ≤ M * D := Nat.mul_le_mul_right D (by omega)
    nlinarith
  rcases (by omega : M = q ∨ M = q + 1) with rfl | rfl
  · have : 2 * r ≤ D := by nlinarith
    split
    · rfl
    · split
      · omega
      · have even := tie (.inr (by nlinarith))
        simp [even]
  · have : D ≤ 2 * r := by nlinarith
    split
    · omega
    · split
      · rfl
      · have even := tie (.inl (by nlinarith))
        have : ¬ q % 2 = 0 := by omega
        simp [this]

namespace Binary64

theorem scaleOf_eq {num den : Nat} {a b : Nat}
    (h : scaleByTwo den ((Nat.log2 num : Int) - Nat.log2 den - 52 + 52) = (a, b)) :
    scaleOf num den = if num * b < a then (Nat.log2 num : Int) - Nat.log2 den - 52 - 1
      else (Nat.log2 num : Int) - Nat.log2 den - 52 := by
  simp only [scaleOf, h]

theorem scaleOf_bounds {num den : Nat} (hn : num ≠ 0) (hd : den ≠ 0) :
    (2 : ℚ) ^ (scaleOf num den + 52) ≤ num / den ∧ (num : ℚ) / den < 2 ^ (scaleOf num den + 53) := by
  have nlow : (2 : ℚ) ^ (Nat.log2 num : Int) ≤ num := by
    rw [zpow_natCast]; exact_mod_cast Nat.log2_self_le hn
  have nhigh : (num : ℚ) < 2 ^ ((Nat.log2 num : Int) + 1) := by
    rw [← Nat.cast_one, ← Nat.cast_add, zpow_natCast]; exact_mod_cast Nat.lt_log2_self
  have dlow : (2 : ℚ) ^ (Nat.log2 den : Int) ≤ den := by
    rw [zpow_natCast]; exact_mod_cast Nat.log2_self_le hd
  have dhigh : (den : ℚ) < 2 ^ ((Nat.log2 den : Int) + 1) := by
    rw [← Nat.cast_one, ← Nat.cast_add, zpow_natCast]; exact_mod_cast Nat.lt_log2_self
  have dpos : (0 : ℚ) < den := by exact_mod_cast Nat.pos_of_ne_zero hd
  rcases hs : scaleByTwo den ((Nat.log2 num : Int) - Nat.log2 den - 52 + 52) with ⟨a, b⟩
  have ratio := scaleByTwo_ratio den ((Nat.log2 num : Int) - Nat.log2 den - 52 + 52)
  have bpos := scaleByTwo_pos den ((Nat.log2 num : Int) - Nat.log2 den - 52 + 52)
  rw [hs] at ratio bpos
  dsimp only at ratio bpos
  have bq : (0 : ℚ) < b := by exact_mod_cast bpos
  rw [scaleOf_eq hs, le_div_iff₀ dpos, div_lt_iff₀ dpos]
  have spread_low : (2 : ℚ) ^ ((Nat.log2 num : Int) - Nat.log2 den - 1) * den < num :=
    calc (2 : ℚ) ^ ((Nat.log2 num : Int) - Nat.log2 den - 1) * den
        < 2 ^ ((Nat.log2 num : Int) - Nat.log2 den - 1) * 2 ^ ((Nat.log2 den : Int) + 1) :=
          mul_lt_mul_of_pos_left dhigh (zpow_pos two_pos _)
      _ = 2 ^ (Nat.log2 num : Int) := by rw [← zpow_add₀ two_ne_zero]; ring_nf
      _ ≤ num := nlow
  have spread_high : (num : ℚ) < 2 ^ ((Nat.log2 num : Int) - Nat.log2 den + 1) * den :=
    calc (num : ℚ) < 2 ^ ((Nat.log2 num : Int) + 1) := nhigh
      _ = 2 ^ ((Nat.log2 num : Int) - Nat.log2 den + 1) * 2 ^ (Nat.log2 den : Int) := by
          rw [← zpow_add₀ two_ne_zero]; ring_nf
      _ ≤ 2 ^ ((Nat.log2 num : Int) - Nat.log2 den + 1) * den :=
          mul_le_mul_of_nonneg_left dlow (zpow_pos two_pos _).le
  split
  · rename_i below
    have below' : (num : ℚ) * b < a := by exact_mod_cast below
    rw [ratio] at below'
    have under : (num : ℚ) < den * 2 ^ ((Nat.log2 num : Int) - Nat.log2 den - 52 + 52) :=
      lt_of_mul_lt_mul_right below' bq.le
    constructor
    · have e : (Nat.log2 num : Int) - Nat.log2 den - 52 - 1 + 52 = (Nat.log2 num : Int) - Nat.log2 den - 1 := by
        ring
      rw [e]
      exact spread_low.le
    · have e : (Nat.log2 num : Int) - Nat.log2 den - 52 - 1 + 53 = (Nat.log2 num : Int) - Nat.log2 den - 52 + 52 := by
        ring
      rw [e, mul_comm]
      exact under
  · rename_i above
    have above' : (a : ℚ) ≤ num * b := by exact_mod_cast not_lt.mp above
    rw [ratio] at above'
    have exceeds : den * 2 ^ ((Nat.log2 num : Int) - Nat.log2 den - 52 + 52) ≤ (num : ℚ) :=
      le_of_mul_le_mul_right above' bq
    constructor
    · rw [mul_comm]
      exact exceeds
    · have e : (Nat.log2 num : Int) - Nat.log2 den - 52 + 53 = (Nat.log2 num : Int) - Nat.log2 den + 1 := by
        ring
      rw [e]
      exact spread_high

theorem scaleOf_le_of_lt {num den : Nat} (hn : num ≠ 0) (hd : den ≠ 0) {s : Int}
    (h : (num : ℚ) / den < 2 ^ (s + 53)) : scaleOf num den ≤ s := by
  have below := lt_of_le_of_lt (scaleOf_bounds hn hd).1 h
  have := (zpow_lt_zpow_iff_right₀ one_lt_two).mp below
  omega

theorem le_scaleOf_of_le {num den : Nat} (hn : num ≠ 0) (hd : den ≠ 0) {s : Int}
    (h : 2 ^ (s + 52) ≤ (num : ℚ) / den) : s ≤ scaleOf num den := by
  have below := lt_of_le_of_lt h (scaleOf_bounds hn hd).2
  have := (zpow_lt_zpow_iff_right₀ one_lt_two).mp below
  omega

/-! ## Fields -/

section Fields

theorem toNat_ofFields (neg : Bool) {b f : Nat} (hb : b < 2048) (hf : f < Nat.pow 2 52) :
    (ofFields neg b f).bits.toNat = (if neg then Nat.pow 2 63 else 0) + b * Nat.pow 2 52 + f := by
  unfold ofFields
  apply UInt64.toNat_ofNat_of_lt'
  have size : UInt64.size = 18446744073709551616 := rfl
  rw [pow_two_52] at hf ⊢
  cases neg <;> simp only [size, pow_two_63, if_true, Bool.false_eq_true, if_false] <;> omega

variable (neg : Bool) {b f : Nat} (hb : b < 2048) (hf : f < Nat.pow 2 52)
include hb hf

@[simp] theorem fraction_ofFields : (ofFields neg b f).fraction = f := by
  unfold fraction
  rw [toNat_ofFields neg hb hf]
  rw [pow_two_52] at hf ⊢
  cases neg <;> simp only [pow_two_63, if_true, Bool.false_eq_true, if_false] <;> omega

@[simp] theorem biasedExponent_ofFields : (ofFields neg b f).biasedExponent = b := by
  unfold biasedExponent
  rw [toNat_ofFields neg hb hf]
  rw [pow_two_52] at hf ⊢
  cases neg <;> simp only [pow_two_63, pow_two_11, if_true, Bool.false_eq_true, if_false] <;> omega

@[simp] theorem negative_ofFields : (ofFields neg b f).negative = neg := by
  unfold negative
  rw [toNat_ofFields neg hb hf]
  rw [pow_two_52] at hf ⊢
  cases neg <;> simp only [pow_two_63, if_true, Bool.false_eq_true, if_false, decide_eq_true_eq,
    decide_eq_false_iff_not] <;> omega

end Fields

theorem ofFields_fields (x : Binary64) : ofFields x.negative x.biasedExponent x.fraction = x := by
  rcases x with ⟨bits⟩
  have lt : bits.toNat < 18446744073709551616 := bits.toNat_lt
  unfold ofFields negative biasedExponent fraction
  congr 1
  rw [pow_two_52, pow_two_63, pow_two_11]
  conv => rhs; rw [← UInt64.ofNat_toNat (x := bits)]
  congr 1
  dsimp only
  split <;> rename_i h <;> simp only [decide_eq_true_eq] at h <;> omega

theorem fraction_lt (x : Binary64) : x.fraction < Nat.pow 2 52 := Nat.mod_lt _ (by decide)

theorem biasedExponent_lt (x : Binary64) : x.biasedExponent < 2048 := by
  unfold biasedExponent
  rw [pow_two_11]
  exact Nat.mod_lt _ (by decide)

theorem significand_lt (x : Binary64) : x.significand < Nat.pow 2 53 := by
  have := x.fraction_lt
  unfold significand
  rw [pow_two_52] at *
  rw [pow_two_53]
  split <;> omega

theorem biasedExponent_eq_zero_iff {x : Binary64} :
    x.biasedExponent = 0 ↔ x.significand < Nat.pow 2 52 := by
  have := x.fraction_lt
  unfold significand
  split <;> simp_all

theorem exponent_le {x : Binary64} (fin : x.isFinite = true) : x.exponent ≤ 971 := by
  have := x.biasedExponent_lt
  simp only [isFinite, bne_iff_ne, ne_eq] at fin
  unfold exponent
  split <;> omega

theorem exponent_ge (x : Binary64) : -1074 ≤ x.exponent := by
  unfold exponent
  split <;> omega

/-! ## Rounding never gives a NaN -/

theorem isNaN_ofFields_of_lt (neg : Bool) {b f : Nat} (hb : b < 2047) (hf : f < Nat.pow 2 52) :
    (ofFields neg b f).isNaN = false := by
  simp [isNaN, biasedExponent_ofFields neg (by omega : b < 2048) hf, hb.ne]

theorem isNaN_infinity (neg : Bool) : (infinity neg).isNaN = false := by
  simp [infinity, isNaN, fraction_ofFields neg (by omega : 2047 < 2048) (by decide : 0 < Nat.pow 2 52)]

theorem isNaN_ofRatio (neg : Bool) (num den : Nat) : (ofRatio neg num den).isNaN = false := by
  unfold ofRatio
  split
  · exact isNaN_ofFields_of_lt neg (by omega) (by decide)
  · rename_i nonzero
    simp only [not_or] at nonzero
    obtain ⟨-, upper⟩ := scaleOf_bounds nonzero.1 nonzero.2
    generalize hq : max (scaleOf num den) (-1074) = q
    have above : scaleOf num den ≤ q := hq ▸ le_max_left _ _
    rcases hs : scaleByTwo den q with ⟨a, b⟩
    have ratio := scaleByTwo_ratio den q
    have bpos := scaleByTwo_pos den q
    rw [hs] at ratio bpos
    simp only [hs]
    dsimp only at ratio bpos ⊢
    have bq : (0 : ℚ) < b := by exact_mod_cast bpos
    have dq : (0 : ℚ) < den := by exact_mod_cast Nat.pos_of_ne_zero nonzero.2
    have below : num * b < a * Nat.pow 2 53 := by
      have : (num : ℚ) < den * 2 ^ (q + 53) := by
        rw [div_lt_iff₀ dq] at upper
        calc (num : ℚ) < 2 ^ (scaleOf num den + 53) * den := upper
          _ ≤ 2 ^ (q + 53) * den :=
            mul_le_mul_of_nonneg_right (zpow_le_zpow_right₀ one_le_two (by omega)) dq.le
          _ = den * 2 ^ (q + 53) := mul_comm _ _
      have : (num : ℚ) * b < a * 2 ^ 53 := by
        rw [ratio, zpow_add₀ two_ne_zero] at *
        calc (num : ℚ) * b < den * (2 ^ q * 2 ^ (53 : Int)) * b := mul_lt_mul_of_pos_right this bq
          _ = den * 2 ^ q * b * 2 ^ 53 := by norm_num; ring
      rw [Nat.pow_eq]
      exact_mod_cast this
    have apos : 0 < a := by
      rcases Nat.eq_zero_or_pos a with h | h
      · simp [h] at below
      · exact h
    have bounded := roundHalfEven_le_of_lt apos below
    generalize roundHalfEven (num * b) a = m at bounded ⊢
    have p52 := pow_two_52
    have p53 := pow_two_53
    split <;> dsimp only
    · split
      · exact isNaN_infinity neg
      · split
        · exact isNaN_ofFields_of_lt neg (by omega) ‹_›
        · exact isNaN_ofFields_of_lt neg (by omega) (by omega)
    · split
      · exact isNaN_infinity neg
      · split
        · exact isNaN_ofFields_of_lt neg (by omega) ‹_›
        · exact isNaN_ofFields_of_lt neg (by omega) (by omega)

theorem isFinite_of_not_special {x : Binary64} (nan : x.isNaN = false)
    (inf : x.isInfinite = false) : x.isFinite = true := by
  simp only [isNaN, isInfinite, isFinite] at *
  cases h : x.biasedExponent == 2047 <;> simp_all

theorem isFinite_ofInt {i : Int} (h : (ofInt i).isInfinite = false) :
    (ofInt i).isFinite = true :=
  isFinite_of_not_special (isNaN_ofRatio _ _ _) h

end Binary64

/-! ## The interval of a number -/

namespace Shortest

/-- The interval `digits` searches for a positive number with significand `m`, exponent
`q` and biased exponent field `biased`. -/
def intervalOf (m : Nat) (q : Int) (biased : Nat) : Interval :=
  { significand := m, exponent := q,
    lowerGap := if m = Nat.pow 2 52 ∧ biased > 1 then 1 else 2,
    closed := m % 2 == 0 }

/-- The low end of an interval. -/
def Interval.low (iv : Interval) : ℚ :=
  ((4 * iv.significand - iv.lowerGap : Nat) : ℚ) * 2 ^ (iv.exponent - 2)

/-- The high end of an interval. -/
def Interval.high (iv : Interval) : ℚ := ((4 * iv.significand + 2 : Nat) : ℚ) * 2 ^ (iv.exponent - 2)

/-- A rational lies in an interval: between its ends, which belong to it when it is closed. -/
def Interval.Holds (iv : Interval) (v : ℚ) : Prop :=
  if iv.closed then iv.low ≤ v ∧ v ≤ iv.high else iv.low < v ∧ v < iv.high

/-- What the interval of a number says in terms of its significand: a member is within half
a unit of it, a quarter below at a power of two, and is half a unit away only when the
significand is even. -/
theorem Interval.holds_near {m : Nat} {q : Int} {biased : Nat} (pos : 0 < m) {v : ℚ}
    (h : (intervalOf m q biased).Holds v) :
    ((m : ℚ) - 1 / 2) * 2 ^ q ≤ v ∧ v ≤ ((m : ℚ) + 1 / 2) * 2 ^ q ∧
    (v = ((m : ℚ) - 1 / 2) * 2 ^ q ∨ v = ((m : ℚ) + 1 / 2) * 2 ^ q → m % 2 = 0) ∧
    (m = Nat.pow 2 52 ∧ biased > 1 → ((m : ℚ) - 1 / 4) * 2 ^ q ≤ v) := by
  have unit : (2 : ℚ) ^ (q - 2) = 2 ^ q / 4 := by
    rw [zpow_sub₀ two_ne_zero]
    norm_num
  have scale : (0 : ℚ) < 2 ^ q := zpow_pos two_pos q
  generalize hg : (if m = Nat.pow 2 52 ∧ biased > 1 then 1 else 2) = g
  have lowE : (intervalOf m q biased).low = ((m : ℚ) - g / 4) * 2 ^ q := by
    have : g ≤ 4 * m := by rw [← hg]; split <;> omega
    simp only [Interval.low, intervalOf, hg]
    rw [Nat.cast_sub this, unit]
    push_cast
    ring
  have highE : (intervalOf m q biased).high = ((m : ℚ) + 1 / 2) * 2 ^ q := by
    simp only [Interval.high, intervalOf]
    rw [unit]
    push_cast
    ring
  have closedE : (intervalOf m q biased).closed = (m % 2 == 0) := rfl
  unfold Interval.Holds at h
  rw [lowE, highE, closedE] at h
  have gq : (g : ℚ) ≤ 2 := by
    rw [← hg]
    split <;> norm_num
  have quarter : m = Nat.pow 2 52 ∧ biased > 1 → (g : ℚ) = 1 := by
    intro edge
    rw [← hg, if_pos edge]
    norm_num
  by_cases closed : m % 2 = 0
  · simp only [closed, beq_self_eq_true, if_true] at h
    refine ⟨by nlinarith, h.2, fun _ => closed, fun edge => ?_⟩
    rw [quarter edge] at h
    exact h.1
  · have open_ : (m % 2 == 0) = false := by simpa using closed
    simp only [open_, Bool.false_eq_true, if_false] at h
    refine ⟨by nlinarith, h.2.le, ?_, fun edge => ?_⟩
    · rintro (e | e) <;> nlinarith
    · rw [quarter edge] at h
      exact h.1.le

end Shortest

/-! ## Rounding gives every number back from its interval -/

namespace Binary64

/-- Rounding a ratio at the power `2 ^ Q` gives the integer within half a unit of the
ratio's significand there, the even one on a tie. -/
theorem roundHalfEven_at {num den : Nat} (hd : den ≠ 0) (Q : Int) {M : Nat}
    (low : ((M : ℚ) - 1 / 2) * 2 ^ Q ≤ num / den)
    (high : (num : ℚ) / den ≤ ((M : ℚ) + 1 / 2) * 2 ^ Q)
    (tie : (num : ℚ) / den = ((M : ℚ) - 1 / 2) * 2 ^ Q ∨
      (num : ℚ) / den = ((M : ℚ) + 1 / 2) * 2 ^ Q → M % 2 = 0) :
    roundHalfEven (num * (scaleByTwo den Q).2) (scaleByTwo den Q).1 = M := by
  rcases hs : scaleByTwo den Q with ⟨a, b⟩
  have ratio := scaleByTwo_ratio den Q
  have bpos := scaleByTwo_pos den Q
  rw [hs] at ratio bpos
  dsimp only at ratio bpos ⊢
  have dq : (0 : ℚ) < den := by exact_mod_cast Nat.pos_of_ne_zero hd
  have bq : (0 : ℚ) < b := by exact_mod_cast bpos
  have unit : (0 : ℚ) < 2 ^ Q := zpow_pos two_pos Q
  have aq : (0 : ℚ) < a := by rw [ratio]; positivity
  have scaled : (num : ℚ) / den = num * b / a * 2 ^ Q := by
    rw [ratio]
    field_simp
  rw [scaled] at low high tie
  have low' : (2 * M * a : ℚ) ≤ 2 * (num * b) + a := by
    have := le_of_mul_le_mul_right low unit
    rw [le_div_iff₀ aq] at this
    linarith
  have high' : (2 * (num * b) : ℚ) ≤ 2 * M * a + a := by
    have := le_of_mul_le_mul_right high unit
    rw [div_le_iff₀ aq] at this
    linarith
  apply roundHalfEven_eq_of_near (by exact_mod_cast aq) (by exact_mod_cast low')
    (by exact_mod_cast high')
  intro ends
  apply tie
  have ane : (a : ℚ) ≠ 0 := aq.ne'
  rcases ends with e | e
  · left
    have e' : (2 * M * a : ℚ) = 2 * (num * b) + a := by exact_mod_cast e
    field_simp
    linarith
  · right
    have e' : (2 * (num * b) : ℚ) = 2 * M * a + a := by exact_mod_cast e
    field_simp
    linarith

/-- Where rounding at the chosen power gives a significand that, after a carry, is the
significand and exponent of a finite number, the rounded ratio is that number. -/
theorem ofRatio_eq_of_rounds {x : Binary64} (fin : x.isFinite = true) {num den : Nat}
    (hn : num ≠ 0) (hd : den ≠ 0) {Q : Int} (hQ : max (scaleOf num den) (-1074) = Q) {M : Nat}
    (round : roundHalfEven (num * (scaleByTwo den Q).2) (scaleByTwo den Q).1 = M)
    (carry : (if M = Nat.pow 2 53 then (Nat.pow 2 52, Q + 1) else (M, Q)) =
      (x.significand, x.exponent)) :
    ofRatio x.negative num den = x := by
  unfold ofRatio
  rw [if_neg (by simp [hn, hd])]
  simp only [hQ]
  rcases hs : scaleByTwo den Q with ⟨a, b⟩
  rw [hs] at round
  dsimp only
  rw [round, carry]
  dsimp only
  rw [if_neg (by have := exponent_le fin; omega)]
  split
  · rename_i sub
    have zero := biasedExponent_eq_zero_iff.mpr sub
    have : x.significand = x.fraction := by simp [significand, zero]
    rw [this, ← zero]
    exact ofFields_fields x
  · rename_i normal
    have nz : x.biasedExponent ≠ 0 := fun h => normal (biasedExponent_eq_zero_iff.mp h)
    have e1 : (x.exponent + 1075).toNat = x.biasedExponent := by simp [exponent, nz]
    have e2 : x.significand - Nat.pow 2 52 = x.fraction := by simp [significand, nz]
    rw [e1, e2]
    exact ofFields_fields x

theorem ofRatio_of_holds {x : Binary64} (fin : x.isFinite = true) (pos : 0 < x.significand)
    {num den : Nat}
    (holds : (Shortest.intervalOf x.significand x.exponent x.biasedExponent).Holds (num / den)) :
    ofRatio x.negative num den = x := by
  obtain ⟨low, high, tie, quarter⟩ := Shortest.Interval.holds_near pos holds
  have unit : (0 : ℚ) < 2 ^ x.exponent := zpow_pos two_pos _
  have two52 : (2 : ℚ) ^ (x.exponent + 52) = 4503599627370496 * 2 ^ x.exponent := by
    rw [zpow_add₀ two_ne_zero]; norm_num; ring
  have two53 : (2 : ℚ) ^ (x.exponent + 53) = 9007199254740992 * 2 ^ x.exponent := by
    rw [zpow_add₀ two_ne_zero]; norm_num; ring
  have m53 : (x.significand : ℚ) + 1 ≤ 9007199254740992 := by
    have := x.significand_lt
    rw [pow_two_53] at this
    exact_mod_cast this
  have m1 : (1 : ℚ) ≤ x.significand := by exact_mod_cast pos
  have vpos : (0 : ℚ) < num / den := lt_of_lt_of_le (by nlinarith) low
  have hn : num ≠ 0 := by rintro rfl; simp at vpos
  have hd : den ≠ 0 := by rintro rfl; simp at vpos
  have vhigh : (num : ℚ) / den < 2 ^ (x.exponent + 53) := by rw [two53]; nlinarith
  by_cases edge : x.exponent ≠ -1074 ∧ (num : ℚ) / den < 2 ^ (x.exponent + 52)
  · obtain ⟨inner, below⟩ := edge
    have normal : x.biasedExponent ≠ 0 := fun h => inner (by simp [exponent, h])
    have biased : x.biasedExponent > 1 := by
      by_contra h
      exact inner (by simp [exponent, normal]; omega)
    have power : x.significand = Nat.pow 2 52 := by
      have least : Nat.pow 2 52 ≤ x.significand :=
        not_lt.mp (mt biasedExponent_eq_zero_iff.mpr normal)
      have : (x.significand : ℚ) < 4503599627370496 + 1 := by rw [two52] at below; nlinarith
      rw [pow_two_52] at least ⊢
      have : x.significand < 4503599627370496 + 1 := by exact_mod_cast this
      omega
    have close := quarter ⟨power, biased⟩
    rw [power, pow_two_52] at close
    push_cast at close
    have half : (2 : ℚ) ^ (x.exponent - 1) = 2 ^ x.exponent / 2 := by
      rw [zpow_sub₀ two_ne_zero]; norm_num
    have hQ : max (scaleOf num den) (-1074) = x.exponent - 1 := by
      have : scaleOf num den = x.exponent - 1 := by
        apply le_antisymm
        · apply scaleOf_le_of_lt hn hd
          rw [show x.exponent - 1 + 53 = x.exponent + 52 by ring]
          exact below
        · apply le_scaleOf_of_le hn hd
          rw [show x.exponent - 1 + 52 = x.exponent + 51 by ring, zpow_add₀ two_ne_zero]
          norm_num
          nlinarith
      have := x.exponent_ge
      omega
    refine ofRatio_eq_of_rounds fin hn hd hQ (M := Nat.pow 2 53) ?_ ?_
    · apply roundHalfEven_at hd
      · rw [half, pow_two_53]
        push_cast
        nlinarith
      · rw [half, pow_two_53]
        rw [two52] at below
        push_cast
        nlinarith
      · intro _
        rfl
    · simp [power]
  · have hQ : max (scaleOf num den) (-1074) = x.exponent := by
      have atMost := scaleOf_le_of_lt hn hd vhigh
      by_cases least : x.exponent = -1074
      · omega
      · have : x.exponent ≤ scaleOf num den :=
          le_scaleOf_of_le hn hd (not_lt.mp fun h => edge ⟨least, h⟩)
        have := x.exponent_ge
        omega
    refine ofRatio_eq_of_rounds fin hn hd hQ (M := x.significand) ?_ ?_
    · exact roundHalfEven_at hd _ low high tie
    · rw [if_neg (ne_of_lt x.significand_lt)]

end Binary64

end RestConfig

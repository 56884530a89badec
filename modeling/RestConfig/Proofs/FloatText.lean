import Mathlib
import RestConfig.Proofs.ShortestDigits
import RestConfig.Proofs.IntegerReadings
import RestConfig.Number.Text
import RestConfig.Number.Reading

/-!
# Written numbers read back

The text of a finite number is a numeral: an optional minus, whole digits (a lone zero or
digits not starting with zero), a point with fraction digits, and an exponent of at least
two digits with its sign, the point or the exponent or both present. Every layout of the
shortest digits is such a numeral, standing for exactly the digits' value; reading a
numeral finds its decimal, and a decimal in the rounding interval of a number converts back
to the number. Hence reading the text of a finite number gives the number back
(`Binary64.readFloat?_text`).
-/

namespace RestConfig

open Reading Text

/-- A decimal numeral as numbers are written: an optional minus, whole digits, fraction
digits after a point when there are any, and an exponent when there is one. -/
structure Numeral where
  negative : Bool
  whole : List Char
  fraction : List Char
  exponent : Option Int

namespace Numeral

/-- An exponent as numbers write it: a mark, a sign and at least two digits. -/
def exponentChars (e : Int) : List Char :=
  'e' :: (if e < 0 then '-' else '+') :: padDigits e.natAbs 2

/-- The characters of a numeral. -/
def chars (n : Numeral) : List Char :=
  (if n.negative then ['-'] else []) ++ n.whole ++
    (if n.fraction = [] then [] else '.' :: n.fraction) ++
    (match n.exponent with
      | some e => exponentChars e
      | none => [])

/-- A numeral of a number that is not written as an integer: whole digits, a lone zero or
not starting with zero, fraction digits, and a point or an exponent. -/
structure WellFormed (n : Numeral) : Prop where
  whole_ne : n.whole ≠ []
  whole_digits : ∀ c ∈ n.whole, c.isDigit = true
  no_leading_zero : n.whole.head? = some '0' → n.whole = ['0']
  fraction_digits : ∀ c ∈ n.fraction, c.isDigit = true
  not_integer : n.fraction ≠ [] ∨ n.exponent.isSome = true

/-- The decimal a numeral stands for. -/
def decimal (n : Numeral) : Decimal :=
  { negative := n.negative,
    digits := digitsValue ((n.whole ++ n.fraction).map (·.toNat - 48)),
    exponent := n.exponent.getD 0 - n.fraction.length }

end Numeral

/-! ## Digit runs -/

theorem digitRun_digits_append {cs rest : List Char} (digits : ∀ c ∈ cs, c.isDigit = true)
    (stop : ∀ c ∈ rest.head?, asciiDigit? c = none ∧ c ≠ '_') (acc : List Nat) :
    digitRun (cs ++ rest) acc = (acc.reverse ++ cs.map (·.toNat - 48), rest) := by
  induction cs generalizing acc with
  | nil =>
    cases rest with
    | nil => simp [digitRun]
    | cons c more =>
      obtain ⟨none, plain⟩ := stop c rfl
      rw [digitRun.eq_def]
      simp [none, plain]
  | cons c cs ih =>
    rw [List.cons_append, digitRun.eq_def]
    simp only [asciiDigit?_of_isDigit (digits c List.mem_cons_self)]
    simp [ih (fun d hd => digits d (List.mem_cons_of_mem c hd))]

theorem digitsValue_append (a b : List Nat) :
    digitsValue (a ++ b) = digitsValue a * 10 ^ b.length + digitsValue b := by
  have shift : ∀ (l : List Nat) (n : Nat),
      l.foldl (fun n d => 10 * n + d) n = n * 10 ^ l.length + l.foldl (fun n d => 10 * n + d) 0 := by
    intro l
    induction l with
    | nil => simp
    | cons d l ih =>
      intro n
      simp only [List.foldl_cons, List.length_cons]
      rw [ih (10 * n + d), ih (10 * 0 + d)]
      ring
  rw [digitsValue, List.foldl_append, shift, digitsValue, digitsValue]

theorem digitsValue_replicate_zero (z : Nat) : digitsValue (List.replicate z 0) = 0 := by
  induction z with
  | zero => rfl
  | succ z ih =>
    rw [List.replicate_succ', digitsValue_append, ih]
    rfl

theorem digitValues_padDigits (n w : Nat) :
    digitsValue ((padDigits n w).map (·.toNat - 48)) = n := by
  rw [padDigits, List.map_append, digitsValue_append, List.map_replicate]
  have zero : ('0'.toNat - 48) = 0 := rfl
  rw [zero, digitsValue_replicate_zero, zero_mul, zero_add]
  exact digitsValue_digitValues n

theorem padDigits_digits (n w : Nat) : ∀ c ∈ padDigits n w, c.isDigit = true := by
  intro c mem
  rw [padDigits, List.mem_append] at mem
  rcases mem with zero | digit
  · rw [(List.mem_replicate.mp zero).2]
    rfl
  · exact Nat.isDigit_of_mem_toDigits (by decide) (by decide) digit

theorem padDigits_ne_nil (n w : Nat) : padDigits n w ≠ [] := by
  simp [padDigits, decimalDigits]

/-! ## Reading a numeral -/

namespace Numeral

theorem readExponent_exponentChars (e : Int) :
    readExponent (exponentChars e).tail = some e := by
  have run := digitRun_of_digits (padDigits_digits e.natAbs 2) []
  simp only [List.reverse_nil, List.nil_append] at run
  obtain ⟨d, ds, digits⟩ : ∃ d ds, (padDigits e.natAbs 2).map (·.toNat - 48) = d :: ds :=
    List.exists_cons_of_ne_nil (by simpa using padDigits_ne_nil e.natAbs 2)
  have value := digitValues_padDigits e.natAbs 2
  rw [digits] at run value
  simp only [exponentChars, List.tail_cons, readExponent]
  by_cases neg : e < 0
  · simp only [neg, if_true, readSign, run, value]
    congr 1
    omega
  · simp only [neg, if_false, readSign, run, value, Bool.false_eq_true]
    congr 1
    omega

theorem readSign_signed (neg : Bool) {cs : List Char} {c : Char} (head : cs.head? = some c)
    (digit : c.isDigit = true) : readSign ((if neg then ['-'] else []) ++ cs) = (neg, cs) := by
  cases neg with
  | true => rfl
  | false =>
    obtain ⟨rest, rfl⟩ : ∃ rest, cs = c :: rest := by
      cases cs with
      | nil => cases head
      | cons d rest => exact ⟨rest, by cases head; rfl⟩
    have : c ≠ '-' ∧ c ≠ '+' := by
      constructor <;> rintro rfl <;> cases digit
    simp only [Bool.false_eq_true, if_false, List.nil_append, readSign]
    split <;> simp_all

theorem asciiLower_ne_words {cs : List Char} {c : Char} (head : cs.head? = some c)
    (digit : c.isDigit = true) :
    asciiLower cs ≠ "inf".toList ∧ asciiLower cs ≠ "infinity".toList ∧
      asciiLower cs ≠ "nan".toList := by
  have lower : (asciiLower cs).head? = some c.toLower := by
    cases cs with
    | nil => cases head
    | cons d rest =>
      cases head
      rfl
  have kept : c.toLower = c := by
    simp only [Char.isDigit, Bool.and_eq_true, decide_eq_true_eq] at digit
    simp only [Char.toLower]
    rw [dif_neg]
    rintro ⟨upper, -⟩
    have low := UInt32.le_iff_toNat_le.mp upper
    have high := UInt32.le_iff_toNat_le.mp digit.2
    have letters : ('A'.val.toNat, '9'.val.toNat) = (65, 57) := rfl
    simp only [Prod.mk.injEq] at letters
    omega
  rw [kept] at lower
  refine ⟨?_, ?_, ?_⟩ <;> intro same <;> rw [same] at lower <;> cases lower <;> cases digit

theorem stop_of_mark {c : Char} (h : c = '.' ∨ c = 'e') : asciiDigit? c = none ∧ c ≠ '_' := by
  rcases h with rfl | rfl <;> constructor <;> decide

theorem readFloatNumeral_chars {n : Numeral} (wf : n.WellFormed) :
    readFloatNumeral n.chars = some (.finite n.decimal) := by
  rcases n with ⟨neg, whole, frac, exp⟩
  obtain ⟨c, ws, hw⟩ : ∃ c ws, whole = c :: ws := List.exists_cons_of_ne_nil wf.whole_ne
  have digit : c.isDigit = true := wf.whole_digits c (by simp [hw])
  have start : ∀ rest : List Char, (whole ++ rest).head? = some c := by
    intro rest
    simp [hw]
  have words := fun rest => asciiLower_ne_words (start rest) digit
  have whole_run : ∀ rest : List Char, (∀ d ∈ rest.head?, d = '.' ∨ d = 'e') →
      digitRun (whole ++ rest) [] = (whole.map (·.toNat - 48), rest) := by
    intro rest marks
    rw [digitRun_digits_append wf.whole_digits (fun d hd => stop_of_mark (marks d hd))]
    simp
  simp only [chars]
  cases frac with
  | nil =>
    cases exp with
    | none => exact absurd wf.not_integer (by simp)
    | some e =>
      simp only [if_true, List.append_nil]
      rw [List.append_assoc]
      unfold readFloatNumeral
      rw [readSign_signed neg (start _) digit]
      dsimp only
      rw [if_neg (not_or.mpr ⟨(words _).1, (words _).2.1⟩), if_neg (words _).2.2]
      rw [whole_run _ (by simp [exponentChars])]
      have ex : readExponent ((if e < 0 then '-' else '+') :: padDigits e.natAbs 2) = some e :=
        readExponent_exponentChars e
      simp only [exponentChars, hw]
      simp [decimal, ex]
  | cons f fs =>
    have frac_run : ∀ rest : List Char, (∀ d ∈ rest.head?, d = '.' ∨ d = 'e') →
        digitRun (f :: fs ++ rest) [] = ((f :: fs).map (·.toNat - 48), rest) := by
      intro rest marks
      rw [digitRun_digits_append wf.fraction_digits (fun d hd => stop_of_mark (marks d hd))]
      simp
    simp only [reduceCtorEq, if_false]
    rw [List.append_assoc, List.append_assoc]
    unfold readFloatNumeral
    rw [readSign_signed neg (start _) digit]
    dsimp only
    rw [if_neg (not_or.mpr ⟨(words _).1, (words _).2.1⟩), if_neg (words _).2.2]
    cases exp with
    | none =>
      have run := frac_run [] (by simp)
      rw [List.append_nil] at run
      rw [whole_run _ (by simp)]
      simp only [List.append_nil, run]
      simp [decimal, hw]
    | some e =>
      rw [whole_run _ (by simp)]
      have run := frac_run (exponentChars e) (by simp [exponentChars])
      have ex : readExponent ((if e < 0 then '-' else '+') :: padDigits e.natAbs 2) = some e :=
        readExponent_exponentChars e
      simp only [exponentChars, List.cons_append] at run
      simp only [exponentChars, List.cons_append, run]
      simp [decimal, ex, hw]
      ring

theorem mem_chars {n : Numeral} (wf : n.WellFormed) :
    ∀ c ∈ n.chars, c.isDigit = true ∨ c ∈ ['-', '.', 'e', '+'] := by
  intro c mem
  simp only [chars, List.mem_append] at mem
  rcases mem with ((sign | whole) | point) | expo
  · right
    split at sign <;> simp_all
  · exact Or.inl (wf.whole_digits c whole)
  · split at point
    · cases point
    · rcases List.mem_cons.mp point with rfl | frac
      · simp
      · exact Or.inl (wf.fraction_digits c frac)
  · split at expo
    · simp only [exponentChars, List.mem_cons] at expo
      rcases expo with rfl | rfl | pad
      · simp
      · right
        split <;> simp
      · exact Or.inl (padDigits_digits _ _ c pad)
    · cases expo

theorem plain_chars {n : Numeral} (wf : n.WellFormed) :
    ∀ c ∈ n.chars, c.toNat < 128 ∧ isBlank c = false := by
  intro c mem
  rcases mem_chars wf c mem with digit | symbol
  · exact ⟨ascii_of_isDigit digit, isBlank_of_isDigit digit⟩
  · simp only [List.mem_cons, List.not_mem_nil, or_false] at symbol
    rcases symbol with rfl | rfl | rfl | rfl <;> exact ⟨by decide, by decide⟩

theorem numeralChars_chars {n : Numeral} (wf : n.WellFormed) :
    numeralChars (String.ofList n.chars) = n.chars :=
  numeralChars_of_plain (plain_chars wf)

end Numeral

/-! ## Layouts of the shortest digits -/

theorem head_decimalDigits {d : Nat} (hd : 0 < d) : (decimalDigits d).head? ≠ some '0' := by
  induction d using Nat.strong_induction_on with
  | _ d ih =>
    rw [decimalDigits, Nat.toDigits_eq_if (by norm_num)]
    split
    · simp only [List.head?_cons, ne_eq, Option.some.injEq, Nat.digitChar_eq_zero]
      omega
    · rename_i big
      obtain ⟨c, cs, hcs⟩ := List.exists_cons_of_ne_nil (Nat.toDigits_ne_nil (b := 10) (n := d / 10))
      have first := ih (d / 10) (by omega) (by omega)
      rw [decimalDigits, hcs] at first
      simpa [hcs] using first

theorem decimalDigits_digits (d : Nat) : ∀ c ∈ decimalDigits d, c.isDigit = true :=
  fun _ mem => Nat.isDigit_of_mem_toDigits (by decide) (by decide) mem

theorem digitsValue_decimalDigits (d : Nat) :
    digitsValue ((decimalDigits d).map (·.toNat - 48)) = d :=
  digitsValue_digitValues d

theorem digitsValue_zeros_append (z : Nat) (l : List Nat) :
    digitsValue (List.replicate z 0 ++ l) = digitsValue l := by
  rw [digitsValue_append, digitsValue_replicate_zero, zero_mul, zero_add]

theorem digitsValue_append_zeros (l : List Nat) (z : Nat) :
    digitsValue (l ++ List.replicate z 0) = digitsValue l * 10 ^ z := by
  rw [digitsValue_append, digitsValue_replicate_zero, List.length_replicate, add_zero]

theorem ten_pow_shift (d z : Nat) (e : Int) :
    ((d * 10 ^ z : Nat) : ℚ) * 10 ^ e = d * 10 ^ (e + z) := by
  push_cast
  rw [zpow_add₀ (by norm_num), zpow_natCast]
  ring

theorem digitsValue_zero_cons (l : List Nat) : digitsValue (0 :: l) = digitsValue l := rfl

theorem map_zeros (z : Nat) :
    (List.replicate z '0').map (·.toNat - 48) = List.replicate z 0 := by
  rw [List.map_replicate]
  rfl

/-- Every layout of the digits of a positive natural whose first digit has decimal exponent
`x` is a well-formed numeral, standing for the natural scaled by `10 ^ (x + 1 - L)` for `L`
digits. -/
theorem layout_numeral (neg : Bool) {d : Nat} (hd : 0 < d) (x : Int) :
    ∃ n : Numeral, n.WellFormed ∧ n.negative = neg ∧
      n.chars = (if neg then ['-'] else []) ++ FloatStyle.roundTrip.layout (decimalDigits d) x ∧
      (n.decimal.digits : ℚ) * 10 ^ n.decimal.exponent =
        d * 10 ^ (x + 1 - (decimalDigits d).length) := by
  have digits := decimalDigits_digits d
  have lead := head_decimalDigits hd
  have value := digitsValue_decimalDigits d
  obtain ⟨c, cs, hcs⟩ := List.exists_cons_of_ne_nil (Nat.toDigits_ne_nil (b := 10) (n := d))
  have zero_digit : ('0' : Char).isDigit = true := rfl
  have zero : ('0'.toNat - 48) = 0 := rfl
  simp only [FloatStyle.layout, FloatStyle.roundTrip]
  by_cases positional : -4 ≤ x ∧ x < 16
  · rw [if_pos positional]
    by_cases below : x < 0
    · rw [if_pos below]
      refine ⟨⟨neg, ['0'], List.replicate (-x - 1).toNat '0' ++ decimalDigits d, none⟩,
        ⟨by simp, by simp [zero_digit], fun _ => rfl, ?_, by simp [decimalDigits]⟩, rfl, ?_, ?_⟩
      · intro c mem
        rcases List.mem_append.mp mem with zero | digit
        · rw [(List.mem_replicate.mp zero).2]
          rfl
        · exact digits c digit
      · simp [Numeral.chars, decimalDigits]
      · simp only [Numeral.decimal, List.map_append, List.map_cons, Option.getD_none,
          List.length_append, List.length_replicate, map_zeros, zero, List.singleton_append,
          digitsValue_zero_cons, digitsValue_zeros_append, value]
        rw [show (0 : Int) - ((-x - 1).toNat + (decimalDigits d).length : Nat) =
          x + 1 - (decimalDigits d).length by omega]
    · rw [if_neg below]
      have ne : decimalDigits d ≠ [] := Nat.toDigits_ne_nil
      by_cases fits : (decimalDigits d).length ≤ (x + 1).toNat
      · rw [if_pos fits]
        refine ⟨⟨neg, decimalDigits d ++ List.replicate ((x + 1).toNat - (decimalDigits d).length) '0',
          ['0'], none⟩, ⟨by simp [ne], ?_, ?_, by simp [zero_digit], by simp⟩, rfl, ?_, ?_⟩
        · intro c mem
          rcases List.mem_append.mp mem with digit | zero
          · exact digits c digit
          · rw [(List.mem_replicate.mp zero).2]
            rfl
        · intro first
          rw [List.head?_append_of_ne_nil _ ne] at first
          exact absurd first lead
        · simp [Numeral.chars]
        · simp only [Numeral.decimal, List.map_append, map_zeros, List.map_cons, List.map_nil, zero,
            Option.getD_none, List.length_cons, List.length_nil]
          rw [digitsValue_append, digitsValue_append_zeros, value,
            show digitsValue [0] = 0 from rfl, add_zero, List.length_singleton, pow_one, mul_assoc,
            ← pow_succ, ten_pow_shift]
          congr 2
          omega
      · rw [if_neg fits]
        have whole : ((x + 1).toNat) ≠ 0 := by omega
        refine ⟨⟨neg, (decimalDigits d).take (x + 1).toNat, (decimalDigits d).drop (x + 1).toNat,
          none⟩, ⟨by simp [ne, whole], fun c mem => digits c (List.mem_of_mem_take mem), ?_,
            fun c mem => digits c (List.mem_of_mem_drop mem), .inl (by simp; omega)⟩, rfl, ?_, ?_⟩
        · intro first
          rw [List.head?_take, if_neg whole] at first
          exact absurd first lead
        · have rest : (decimalDigits d).drop (x + 1).toNat ≠ [] := by simp; omega
          simp [Numeral.chars, rest]
        · simp only [Numeral.decimal, List.take_append_drop, value,
            Option.getD_none, List.length_drop]
          congr 2
          omega
  · rw [if_neg positional]
    have split : decimalDigits d = c :: cs := hcs
    refine ⟨⟨neg, [c], cs, some x⟩, ⟨by simp, ?_, ?_, ?_, .inr rfl⟩, rfl, ?_, ?_⟩
    · intro c' mem
      rw [List.mem_singleton.mp mem]
      exact digits c (by simp [split])
    · intro first
      simp only [List.head?_cons, Option.some.injEq] at first
      rw [first]
    · intro c' mem
      exact digits c' (by simp [split, mem])
    · rw [split]
      cases cs with
      | nil => simp [Numeral.chars, Numeral.exponentChars]
      | cons c'' rest => simp [Numeral.chars, Numeral.exponentChars]
    · have length : (decimalDigits d).length = cs.length + 1 := by simp [split]
      simp only [Numeral.decimal, List.singleton_append, ← split, value,
        Option.getD_some]
      rw [length]
      congr 2
      push_cast
      ring


/-! ## Converting back -/

theorem cast_ratio_tens (D : Nat) (E : Int) :
    ((D * Nat.pow 10 E.toNat : Nat) : ℚ) / (Nat.pow 10 (-E).toNat : Nat) = D * 10 ^ E := by
  rw [Nat.pow_eq, Nat.pow_eq]
  push_cast
  rw [← zpow_natCast, ← zpow_natCast, mul_div_assoc, ← zpow_sub₀ (by norm_num)]
  congr 2
  omega

theorem huge_bound : (2 : ℚ) ^ 53 * 2 ^ (971 : Int) < 10 ^ (309 : Int) := by
  have : (2 : ℕ) ^ 53 * 2 ^ 971 < 10 ^ 309 := by decide +kernel
  simp only [zpow_ofNat]
  exact_mod_cast this

theorem tiny_bound : (10 : ℚ) ^ (-324 : Int) < 1 / 2 * 2 ^ (-1074 : Int) := by
  have : (2 : ℕ) * 2 ^ 1074 < 10 ^ 324 := by decide +kernel
  simp only [zpow_neg, zpow_ofNat, one_div, ← mul_inv]
  apply inv_strictAnti₀ (by positivity)
  exact_mod_cast this

theorem Decimal.toBinary64_of_holds {x : Binary64} (fin : x.isFinite = true)
    (pos : 0 < x.significand) {dec : Decimal} (neg : dec.negative = x.negative)
    (holds : (Shortest.intervalOf x.significand x.exponent x.biasedExponent).Holds
      (dec.digits * 10 ^ dec.exponent)) :
    dec.toBinary64 = x := by
  obtain ⟨low, high, -, -⟩ := Shortest.Interval.holds_near pos holds
  have m1 : (1 : ℚ) ≤ x.significand := by exact_mod_cast pos
  have m53 : (x.significand : ℚ) + 1 / 2 ≤ 2 ^ 53 := by
    have := x.significand_lt
    rw [pow_two_53] at this
    have : (x.significand : ℚ) + 1 ≤ 9007199254740992 := by exact_mod_cast this
    norm_num
    linarith
  have unit : (0 : ℚ) < 2 ^ x.exponent := zpow_pos two_pos _
  have top : (2 : ℚ) ^ x.exponent ≤ 2 ^ (971 : Int) :=
    zpow_le_zpow_right₀ one_le_two (Binary64.exponent_le fin)
  have bottom : (2 : ℚ) ^ (-1074 : Int) ≤ 2 ^ x.exponent :=
    zpow_le_zpow_right₀ one_le_two x.exponent_ge
  have wpos : (0 : ℚ) < dec.digits * 10 ^ dec.exponent :=
    lt_of_lt_of_le (by nlinarith) low
  have nonzero : dec.digits ≠ 0 := by
    rintro h
    rw [h] at wpos
    simp at wpos
  obtain ⟨dlow, dhigh⟩ := Shortest.digitCount_bounds (Nat.pos_of_ne_zero nonzero)
  have tens : (0 : ℚ) < 10 ^ dec.exponent := by positivity
  have size_high : (10 : ℚ) ^ ((Shortest.digitCount dec.digits : Int) - 1 + dec.exponent) <
      10 ^ (309 : Int) := by
    calc (10 : ℚ) ^ ((Shortest.digitCount dec.digits : Int) - 1 + dec.exponent)
        = 10 ^ ((Shortest.digitCount dec.digits : Int) - 1) * 10 ^ dec.exponent := by
          rw [zpow_add₀ (by norm_num)]
      _ ≤ dec.digits * 10 ^ dec.exponent := mul_le_mul_of_nonneg_right dlow tens.le
      _ ≤ (x.significand + 1 / 2) * 2 ^ x.exponent := high
      _ ≤ 2 ^ 53 * 2 ^ (971 : Int) := mul_le_mul m53 top unit.le (by positivity)
      _ < 10 ^ (309 : Int) := huge_bound
  have size_low : (10 : ℚ) ^ (-324 : Int) <
      10 ^ ((Shortest.digitCount dec.digits : Int) + dec.exponent) := by
    calc (10 : ℚ) ^ (-324 : Int) < 1 / 2 * 2 ^ (-1074 : Int) := tiny_bound
      _ ≤ (x.significand - 1 / 2) * 2 ^ x.exponent :=
          mul_le_mul (by linarith) bottom (by positivity) (by linarith)
      _ ≤ dec.digits * 10 ^ dec.exponent := low
      _ < 10 ^ (Shortest.digitCount dec.digits : Int) * 10 ^ dec.exponent :=
          mul_lt_mul_of_pos_right dhigh tens
      _ = 10 ^ ((Shortest.digitCount dec.digits : Int) + dec.exponent) := by
          rw [zpow_add₀ (by norm_num)]
  have below := (zpow_lt_zpow_iff_right₀ (by norm_num : (1 : ℚ) < 10)).mp size_high
  have above := (zpow_lt_zpow_iff_right₀ (by norm_num : (1 : ℚ) < 10)).mp size_low
  unfold Decimal.toBinary64
  rw [if_neg nonzero]
  dsimp only
  rw [if_neg (by simp only [Shortest.digitCount] at below; omega),
    if_neg (by simp only [Shortest.digitCount] at above; omega), neg]
  apply Binary64.ofRatio_of_holds fin pos
  rw [cast_ratio_tens]
  exact holds

/-! ## The text of a number read back -/

namespace Binary64

theorem isNaN_of_isFinite {x : Binary64} (fin : x.isFinite = true) : x.isNaN = false := by
  simp only [isFinite, bne_iff_ne, ne_eq] at fin
  simp [isNaN, fin]

theorem isInfinite_of_isFinite {x : Binary64} (fin : x.isFinite = true) : x.isInfinite = false := by
  simp only [isFinite, bne_iff_ne, ne_eq] at fin
  simp [isInfinite, fin]

theorem toList_sign (neg : Bool) (s : String) :
    ((if neg then "-" else "") ++ s).toList = (if neg then ['-'] else []) ++ s.toList := by
  cases neg <;> simp

theorem eq_zero_of_significand {x : Binary64} (h : x.significand = 0) : x = zero x.negative := by
  have biased : x.biasedExponent = 0 :=
    biasedExponent_eq_zero_iff.mpr (by rw [h, pow_two_52]; omega)
  have fraction : x.fraction = 0 := by simpa [significand, biased] using h
  conv_lhs => rw [← ofFields_fields x, biased, fraction]
  rfl

theorem text_numeral {x : Binary64} (fin : x.isFinite = true) :
    ∃ n : Numeral, n.WellFormed ∧ x.text.toList = n.chars ∧ n.decimal.toBinary64 = x := by
  unfold text format
  rw [isNaN_of_isFinite fin, isInfinite_of_isFinite fin]
  simp only [Bool.false_eq_true, if_false]
  by_cases zero : x.significand = 0
  · rw [if_pos zero]
    refine ⟨⟨x.negative, ['0'], ['0'], none⟩, ⟨by simp, by simp, fun _ => rfl, by simp,
      by simp⟩, ?_, ?_⟩
    · rw [toList_sign, String.toList_ofList]
      simp [FloatStyle.layout, FloatStyle.roundTrip, Numeral.chars]
    · have zeroDigits : digitsValue [0, 0] = 0 := rfl
      simp only [Numeral.decimal, Decimal.toBinary64, List.cons_append, List.nil_append,
        List.map_cons, List.map_nil]
      rw [show ('0'.toNat - 48) = 0 from rfl, zeroDigits, if_pos rfl]
      exact (eq_zero_of_significand zero).symm
  · rw [if_neg zero]
    have pos : 0 < x.significand := Nat.pos_of_ne_zero zero
    rcases hd : Shortest.digits x.significand x.exponent x.biasedExponent with ⟨d, k⟩
    have holds := Shortest.digits_holds pos x.significand_lt x.exponent x.biasedExponent
    rw [hd] at holds
    dsimp only at holds ⊢
    have dpos : 0 < d := by
      obtain ⟨low, -⟩ := Shortest.Interval.holds_near pos holds
      have m1 : (1 : ℚ) ≤ x.significand := by exact_mod_cast pos
      have unit : (0 : ℚ) < 2 ^ x.exponent := zpow_pos two_pos _
      have : (0 : ℚ) < d * 10 ^ k := lt_of_lt_of_le (by nlinarith) low
      rcases Nat.eq_zero_or_pos d with h | h
      · simp [h] at this
      · exact h
    obtain ⟨n, wf, sign, chars, value⟩ :=
      layout_numeral x.negative dpos (k + (decimalDigits d).length - 1)
    refine ⟨n, wf, by rw [toList_sign, String.toList_ofList, chars], ?_⟩
    apply Decimal.toBinary64_of_holds fin pos sign
    rw [value, show k + (decimalDigits d).length - 1 + 1 - (decimalDigits d).length = k by ring]
    exact holds

theorem readFloat?_text {x : Binary64} (fin : x.isFinite = true) : readFloat? x.text = some x := by
  obtain ⟨n, wf, chars, back⟩ := text_numeral fin
  have written : x.text = String.ofList n.chars := by rw [← chars, String.ofList_toList]
  rw [readFloat?, written, Numeral.numeralChars_chars wf, Numeral.readFloatNumeral_chars wf]
  simp [FloatNumeral.toBinary64, back]

end Binary64

end RestConfig

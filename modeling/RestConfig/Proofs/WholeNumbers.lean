import Mathlib
import RestConfig.Proofs.FloatText

/-!
# Reading whole numbers

An int or a long key reads a text strictly: once its blanks are trimmed, it must be an
optional sign followed by ASCII digits, at least one, and the integer they write in decimal
must lie within the kind's range, 32 bits for an int and 64 for a long. An integer value is
read as itself when it lies within the range. A boolean, a binary64 number and every other
value are refused. Reading converts no numeral of more digits than the limit on integer
numerals, so the law is stated for every text whose trimmed form is no longer than that.

Main statement: `Kind.read_whole_number`.
-/

namespace RestConfig

open Text Reading

/-- The documented range of a whole-number kind: `[-2 ^ 31, 2 ^ 31 - 1]` for an int and
`[-2 ^ 63, 2 ^ 63 - 1]` for a long. -/
def Kind.InRange : Kind → Int → Prop
  | .int, i => -2 ^ 31 ≤ i ∧ i ≤ 2 ^ 31 - 1
  | _, i => -2 ^ 63 ≤ i ∧ i ≤ 2 ^ 63 - 1

theorem Kind.bounds_iff_inRange (k : Kind) (i : Int) :
    (k.bounds.1 ≤ i ∧ i ≤ k.bounds.2) ↔ k.InRange i := by
  cases k <;> simp only [Kind.bounds, Kind.InRange] <;> omega

/-- A text that is an optional sign and one or more ASCII digits, and the integer it writes
in decimal. -/
def SignedNumeral (t : String) (i : Int) : Prop :=
  ∃ digits : List Char, digits ≠ [] ∧ (∀ c ∈ digits, c.isDigit) ∧
    ((t.toList = digits ∨ t.toList = '+' :: digits) ∧ i = Nat.ofDigitChars 10 digits 0 ∨
      t.toList = '-' :: digits ∧ i = -(Nat.ofDigitChars 10 digits 0 : Int))

theorem readSign_eq {cs rest : List Char} {neg : Bool} (h : readSign cs = (neg, rest)) :
    neg = true ∧ cs = '-' :: rest ∨ neg = false ∧ (cs = rest ∨ cs = '+' :: rest) := by
  unfold readSign at h
  split at h <;> cases h
  · exact .inl ⟨rfl, rfl⟩
  · exact .inr ⟨rfl, .inr rfl⟩
  · exact .inr ⟨rfl, .inl rfl⟩

theorem digitsValue_map_digits (cs : List Char) :
    digitsValue (cs.map (·.toNat - 48)) = Nat.ofDigitChars 10 cs 0 := by
  rw [digitsValue, List.foldl_map]
  rfl

/-- What the strict reading accepts is a signed numeral of the number it finds, with no
more digits than the text has characters. -/
theorem signedNumeral_of_wholeDigits? {t : String} {neg : Bool} {ds : List Nat}
    (h : wholeDigits? t.toList = some (neg, ds)) :
    SignedNumeral t (if neg then -(digitsValue ds : Int) else digitsValue ds) ∧
      ds.length ≤ t.length := by
  obtain ⟨rest, sign, digits, rfl, ne⟩ := wholeDigits?_shape h
  have nonempty : rest ≠ [] := by simpa using ne
  rw [digitsValue_map_digits]
  rcases readSign_eq sign with ⟨rfl, minus⟩ | ⟨rfl, plain⟩
  · refine ⟨⟨rest, nonempty, digits, .inr ⟨minus, rfl⟩⟩, ?_⟩
    rw [List.length_map, ← String.length_toList, minus, List.length_cons]
    omega
  · refine ⟨⟨rest, nonempty, digits, .inl ⟨plain, rfl⟩⟩, ?_⟩
    rw [List.length_map, ← String.length_toList]
    rcases plain with same | plus
    · rw [same]
    · rw [plus, List.length_cons]
      omega

theorem wholeDigits?_of_signedNumeral {t : String} {i : Int} (h : SignedNumeral t i) :
    ∃ neg ds, wholeDigits? t.toList = some (neg, ds) ∧
      (if neg then -(digitsValue ds : Int) else digitsValue ds) = i := by
  obtain ⟨digits, ne, all, shape⟩ := h
  obtain ⟨c, rest, hcs⟩ := List.exists_cons_of_ne_nil ne
  have head : digits.head? = some c := by rw [hcs]; rfl
  have converted : digits.filterMap asciiDigit? = digits.map (·.toNat - 48) := by
    rw [← List.filterMap_eq_map']
    exact List.filterMap_congr fun d hd => asciiDigit?_of_isDigit (all d hd)
  have read : ∀ sign neg, readSign (sign ++ digits) = (neg, digits) →
      wholeDigits? (sign ++ digits) = some (neg, digits.map (·.toNat - 48)) := by
    intro sign neg signed
    unfold wholeDigits?
    rw [signed]
    simp [converted, ne]
  rcases shape with ⟨plain | plus, rfl⟩ | ⟨minus, rfl⟩
  · refine ⟨false, digits.map (·.toNat - 48), ?_, by simp [digitsValue_map_digits]⟩
    rw [plain]
    exact read [] false (Numeral.readSign_signed false head (all c (by simp [hcs])))
  · refine ⟨false, digits.map (·.toNat - 48), ?_, by simp [digitsValue_map_digits]⟩
    rw [plus]
    exact read ['+'] false rfl
  · refine ⟨true, digits.map (·.toNat - 48), ?_, by simp [digitsValue_map_digits]⟩
    rw [minus]
    exact read ['-'] true rfl

theorem Kind.wholeWithin_eq_ok_iff {k : Kind} {raw : Value} {i : Int} {v : Setting} :
    k.wholeWithin raw i = .ok v ↔ k.InRange i ∧ v = .whole i := by
  unfold Kind.wholeWithin
  rw [← Kind.bounds_iff_inRange]
  split
  · rename_i within
    simp only [Except.ok.injEq, within, true_and]
    exact eq_comm
  · rename_i beyond
    simp [beyond]

theorem Value.reprFault_int_of_citable {i : Int} {room : Nat} (h : (Value.int i).citable = true)
    (hroom : 0 < room) : (Value.int i).reprFault room = Option.none := by
  obtain ⟨r, rfl⟩ := Nat.exists_eq_add_one.mpr hroom
  have short : i.natAbs.repr.length ≤ integerDigitLimit := by simpa [Value.citable] using h
  simp [Value.reprFault, short]

theorem Kind.read_whole_int {k : Kind} {room : Nat} (hk : k = .int ∨ k = .long)
    (hroom : 0 < room) (i : Int) (v : Setting) :
    k.read room (.int i) = .ok v ↔ k.wholeWithin (.int i) i = .ok v := by
  constructor
  · intro read
    replace read := Kind.readCitable_of_read read
    rcases hk with rfl | rfl <;> exact read
  · intro within
    obtain ⟨-, bounds⟩ := Kind.wholeWithin_ok within
    rw [Kind.read_of_reprFault (Value.reprFault_int_of_citable (Kind.citable_of_within bounds) hroom)]
    rcases hk with rfl | rfl <;> exact within

/-- A text no longer than the limit on numerals is read as a whole number exactly when its
trimmed form is a signed numeral within the kind's range. -/
theorem Kind.read_str_whole_iff {k : Kind} {room : Nat} (hk : k = .int ∨ k = .long)
    (hroom : 0 < room) {s : String} {v : Setting} (short : (trim s).length ≤ integerDigitLimit) :
    k.read room (.str s) = .ok v ↔ ∃ i, SignedNumeral (trim s) i ∧ k.InRange i ∧ v = .whole i := by
  have trimmed : (trim s).toList = trimBlanks s.toList := String.toList_ofList
  rw [Kind.read_text hroom, Kind.read_whole_str hk]
  cases found : wholeDigits? (trimBlanks s.toList) with
  | none =>
    simp only [reduceCtorEq, false_iff, not_exists, not_and]
    intro i numeral
    obtain ⟨neg, ds, accepted, -⟩ := wholeDigits?_of_signedNumeral numeral
    rw [trimmed, found] at accepted
    cases accepted
  | some p =>
    obtain ⟨neg, ds⟩ := p
    obtain ⟨numeral, length⟩ := @signedNumeral_of_wholeDigits? (trim s) neg ds (by rwa [trimmed])
    have few : ¬ ds.length > integerDigitLimit := by omega
    simp only [few, if_false, Kind.wholeWithin_eq_ok_iff]
    constructor
    · rintro ⟨within, rfl⟩
      exact ⟨_, numeral, within, rfl⟩
    · rintro ⟨i, other, within, rfl⟩
      obtain ⟨neg', ds', accepted, rfl⟩ := wholeDigits?_of_signedNumeral other
      rw [trimmed, found, Option.some.injEq, Prod.mk.injEq] at accepted
      obtain ⟨rfl, rfl⟩ := accepted
      exact ⟨within, rfl⟩

/-- Reading a value as an int or a long, with some room. A text whose trimmed form has at most
4300 characters is read exactly when that form is an optional sign and ASCII digits writing a
number within the kind's range, and it is read as that number. An integer is read exactly
when it lies within the range, as itself. Every other value, a boolean or a binary64
number among them, is refused. -/
theorem Kind.read_whole_number {k : Kind} {room : Nat} (hk : k = .int ∨ k = .long)
    (hroom : 0 < room) :
    (∀ (s : String) (v : Setting), (trim s).length ≤ 4300 →
      (k.read room (.str s) = .ok v ↔ ∃ i, SignedNumeral (trim s) i ∧ k.InRange i ∧ v = .whole i)) ∧
    (∀ (i : Int) (v : Setting), k.read room (.int i) = .ok v ↔ k.InRange i ∧ v = .whole i) ∧
    (∀ raw, (∀ s, raw ≠ .str s) → (∀ i, raw ≠ .int i) → ∀ v, k.read room raw ≠ .ok v) := by
  refine ⟨fun s v short => Kind.read_str_whole_iff hk hroom short,
    fun i v => by rw [Kind.read_whole_int hk hroom, Kind.wholeWithin_eq_ok_iff], ?_⟩
  intro raw text integer v
  cases raw with
  | str s => exact absurd rfl (text s)
  | int i => exact absurd rfl (integer i)
  | _ =>
    intro read
    have refused := Kind.readCitable_of_read read
    rcases hk with rfl | rfl <;> simp [Kind.readCitable] at refused

/-- The least long, written with a sign between blanks, is read as `-2 ^ 63`. -/
theorem long_reads_least_numeral :
    (Kind.long = .int ∨ Kind.long = .long) ∧ 0 < 1 ∧
      Kind.long.read 1 (.str " -9223372036854775808\n") = .ok (.whole (-2 ^ 63)) := by
  have numeral : SignedNumeral (trim " -9223372036854775808\n") (-2 ^ 63) := by
    refine ⟨Nat.toDigits 10 (2 ^ 63), Nat.toDigits_ne_nil,
      fun c hc => Nat.isDigit_of_mem_toDigits (by decide) (by decide) hc,
      .inr ⟨by decide +kernel, ?_⟩⟩
    rw [Nat.ofDigitChars_ten_toDigits]
    norm_num
  refine ⟨.inr rfl, by decide, ((Kind.read_whole_number (.inr rfl) (by decide)).1 _ _
    (by decide +kernel)).mpr ⟨_, numeral, by norm_num [Kind.InRange], rfl⟩⟩

end RestConfig

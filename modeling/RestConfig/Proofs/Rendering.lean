import Mathlib
import RestConfig.Setting.Read

/-!
# Reading back what rendering writes

A setting rendered as a property text and read again as its kind gives the setting back,
with a secret replaced by the hidden stand-in. Each kind has its own reason: a trimmed text
trims to itself; the decimal text of an integer is a sign and ASCII digits with no blank at
its ends, whose value is the integer; a list is written with its items joined by commas, and
items read from a text are trimmed and hold no comma, so cutting at commas finds them again.
Doubles are left out: their texts are not what the proxy's keys hold.
-/

namespace RestConfig.Text

/-! ## Trimming -/

/-- A character list with no blank at either end. -/
def Trimmed (cs : List Char) : Prop :=
  (∀ c ∈ cs.head?, isBlank c = false) ∧ ∀ c ∈ cs.getLast?, isBlank c = false

theorem dropBlanks_of_head {cs : List Char} (h : ∀ c ∈ cs.head?, isBlank c = false) :
    dropBlanks cs = cs := by
  cases cs with
  | nil => rfl
  | cons c rest => simp [dropBlanks, h c rfl]

theorem head_dropBlanks (cs : List Char) : ∀ c ∈ (dropBlanks cs).head?, isBlank c = false := by
  intro c hc
  have := List.head?_dropWhile_not isBlank cs
  simp only [dropBlanks, Option.mem_def] at hc
  rw [hc] at this
  exact this

theorem trimBlanks_eq_self {cs : List Char} (h : Trimmed cs) : trimBlanks cs = cs := by
  have last : ∀ c ∈ cs.reverse.head?, isBlank c = false := by simpa using h.2
  rw [trimBlanks, dropBlanks_of_head h.1, dropBlanks_of_head last, List.reverse_reverse]

theorem trimmed_trimBlanks (cs : List Char) : Trimmed (trimBlanks cs) := by
  have front := head_dropBlanks cs
  have back := head_dropBlanks (dropBlanks cs).reverse
  refine ⟨fun c hc => ?_, fun c hc => back c (by simpa [trimBlanks] using hc)⟩
  have hc' : (dropBlanks (dropBlanks cs).reverse).getLast? = some c := by
    simpa [trimBlanks] using hc
  obtain ⟨rest, hrest⟩ : (dropBlanks (dropBlanks cs).reverse) <:+ (dropBlanks cs).reverse :=
    List.dropWhile_suffix isBlank
  have whole : ((dropBlanks cs).reverse).getLast? = some c := by
    rw [← hrest, List.getLast?_append, hc']
    rfl
  exact front c (by simpa using whole)

@[simp] theorem trimBlanks_trimBlanks (cs : List Char) : trimBlanks (trimBlanks cs) = trimBlanks cs :=
  trimBlanks_eq_self (trimmed_trimBlanks cs)

@[simp] theorem trim_trim (s : String) : trim (trim s) = trim s := by
  simp [trim]

theorem trimmed_of_forall {cs : List Char} (h : ∀ c ∈ cs, isBlank c = false) : Trimmed cs :=
  ⟨fun c hc => h c (List.mem_of_mem_head? hc), fun c hc => h c (List.mem_of_mem_getLast? hc)⟩

theorem trimmed_intercalate {sep : Char} (hsep : isBlank sep = false) {ls : List (List Char)}
    (h : ∀ l ∈ ls, Trimmed l) : Trimmed ([sep].intercalate ls) := by
  induction ls with
  | nil => exact ⟨fun c hc => by simp at hc, fun c hc => by simp at hc⟩
  | cons l rest ih =>
    have hl := h l List.mem_cons_self
    have hrest := ih fun m hm => h m (List.mem_cons_of_mem l hm)
    cases rest with
    | nil => simpa using hl
    | cons m rest =>
      rw [List.intercalate_cons_cons]
      refine ⟨fun c hc => ?_, fun c hc => ?_⟩
      · rw [List.head?_append, List.head?_append] at hc
        cases hfirst : l.head? with
        | none =>
          simp only [hfirst, Option.none_or, List.head?_cons, Option.some_or, Option.mem_def,
            Option.some.injEq] at hc
          exact hc ▸ hsep
        | some d =>
          simp only [hfirst, Option.some_or, Option.mem_def, Option.some.injEq] at hc
          exact hc ▸ hl.1 d hfirst
      · rw [List.getLast?_append] at hc
        cases hlast : ([sep].intercalate (m :: rest)).getLast? with
        | none =>
          simp only [hlast, Option.none_or, List.getLast?_append, List.getLast?_singleton,
            Option.some_or, Option.mem_def, Option.some.injEq] at hc
          exact hc ▸ hsep
        | some d =>
          simp only [hlast, Option.some_or, Option.mem_def, Option.some.injEq] at hc
          exact hc ▸ hrest.2 d hlast

theorem mem_of_mem_trimBlanks {c : Char} {cs : List Char} (h : c ∈ trimBlanks cs) : c ∈ cs := by
  have inner : c ∈ (dropBlanks cs).reverse :=
    (List.dropWhile_suffix isBlank).subset (List.mem_reverse.mp h)
  exact (List.dropWhile_suffix isBlank).subset (List.mem_reverse.mp inner)


theorem isBlank_of_isDigit {c : Char} (h : c.isDigit = true) : isBlank c = false := by
  simp only [Char.isDigit, Bool.and_eq_true, decide_eq_true_eq] at h
  have : 48 ≤ c.toNat ∧ c.toNat ≤ 57 := h
  simp only [isBlank, Bool.or_eq_false_iff, Bool.and_eq_false_iff, decide_eq_false_iff_not, beq_eq_false_iff_ne]
  omega

end RestConfig.Text

namespace List

variable {α : Type} [BEq α] [LawfulBEq α]

theorem not_mem_of_mem_splitOn {a : α} {xs l : List α} (h : l ∈ xs.splitOn a) : a ∉ l := by
  induction xs generalizing l with
  | nil =>
    simp only [splitOn_nil, mem_singleton] at h
    simp [h]
  | cons x xs ih =>
    rw [splitOn_cons_eq_if_modifyHead] at h
    split at h
    · rcases mem_cons.mp h with rfl | rest
      · exact not_mem_nil
      · exact ih rest
    · rename_i hx
      obtain ⟨p, ps, hps⟩ := exists_cons_of_ne_nil (splitOn_ne_nil a xs)
      rw [hps, modifyHead_cons, mem_cons] at h
      rcases h with rfl | rest
      · have hp : a ∉ p := ih (hps ▸ mem_cons_self)
        intro mem
        rcases mem_cons.mp mem with rfl | inner
        · exact hx (beq_self_eq_true a)
        · exact hp inner
      · exact ih (hps ▸ mem_cons_of_mem p rest)

end List

namespace RestConfig

open Text Reading

/-! ## Values that can be cited -/

@[simp] theorem Value.citable_str (s : String) : (Value.str s).citable = true := rfl

@[simp] theorem Value.citable_float (x : Binary64) : (Value.float x).citable = true := rfl

@[simp] theorem Value.citable_bool (b : Bool) : (Value.bool b).citable = true := rfl

@[simp] theorem Value.citable_password (p : String) : (Value.password p).citable = true := rfl

@[simp] theorem Value.citable_none : Value.none.citable = true := rfl

theorem Value.citableItems_iff (items : List Value) :
    Value.citableItems items = true ↔ ∀ v ∈ items, v.citable = true := by
  induction items with
  | nil => simp [Value.citableItems]
  | cons v rest ih => simp [Value.citableItems, ih]

theorem Value.citableEntries_iff (entries : List (Value × Value)) :
    Value.citableEntries entries = true ↔ ∀ e ∈ entries, e.1.citable = true ∧ e.2.citable = true := by
  induction entries with
  | nil => simp [Value.citableEntries]
  | cons e rest ih =>
    obtain ⟨k, v⟩ := e
    simp [Value.citableEntries, ih, and_assoc]

mutual
theorem Value.citable_of_reprFault : ∀ {r : Nat} (v : Value), v.reprFault r = Option.none → v.citable = true
  | 0, _, h => by simp at h
  | _ + 1, .int i, h => by
    simp only [Value.reprFault] at h
    split at h
    · simpa [Value.citable]
    · cases h
  | _ + 1, .list items, h | _ + 1, .tuple items, h => Value.citableItems_of_reprFault items h
  | _ + 1, .map entries, h => Value.citableEntries_of_reprFault entries h
  | 1, .set [], _ => rfl
  | 1, .set (_ :: _), h => by simp [Value.reprFault] at h
  | _ + 2, .set items, h => by
    rw [Value.reprFault] at h
    exact Value.citableItems_of_reprFault items h
  | _ + 1, .none, _ | _ + 1, .bool _, _ | _ + 1, .float _, _ | _ + 1, .str _, _
  | _ + 1, .password _, _ | _ + 1, .required, _ | _ + 1, .bytes _, _ | _ + 1, .date _, _
  | _ + 1, .time _, _ | _ + 1, .datetime _ _, _ => rfl

theorem Value.citableItems_of_reprFault : ∀ {r : Nat} (items : List Value),
    Value.reprFaultItems r items = Option.none → Value.citableItems items = true
  | _, [], _ => rfl
  | _, v :: rest, h => by
    simp only [Value.reprFaultItems, Option.or_eq_none_iff] at h
    simp [Value.citableItems, Value.citable_of_reprFault v h.1,
      Value.citableItems_of_reprFault rest h.2]

theorem Value.citableEntries_of_reprFault : ∀ {r : Nat} (entries : List (Value × Value)),
    Value.reprFaultEntries r entries = Option.none → Value.citableEntries entries = true
  | _, [], _ => rfl
  | _, (k, v) :: rest, h => by
    simp only [Value.reprFaultEntries, Option.or_eq_none_iff] at h
    simp [Value.citableEntries, Value.citable_of_reprFault k h.1.1,
      Value.citable_of_reprFault v h.1.2, Value.citableEntries_of_reprFault rest h.2]
end

theorem Kind.read_of_reprFault {k : Kind} {room : Nat} {raw : Value}
    (h : raw.reprFault room = Option.none) : k.read room raw = k.readCitable raw := by
  simp [Kind.read, h]

@[simp] theorem Kind.read_str (k : Kind) (r : Nat) (s : String) :
    k.read (r + 1) (.str s) = k.readCitable (.str s) := rfl

theorem Kind.reprFault_of_read {k : Kind} {room : Nat} {raw : Value} {s : Setting}
    (h : k.read room raw = .ok s) : raw.reprFault room = Option.none := by
  unfold Kind.read at h
  split at h
  · cases h
  · assumption

theorem Kind.citable_of_read {k : Kind} {room : Nat} {raw : Value} {s : Setting}
    (h : k.read room raw = .ok s) : raw.citable = true :=
  Value.citable_of_reprFault raw (Kind.reprFault_of_read h)

theorem Kind.room_pos_of_read {k : Kind} {room : Nat} {raw : Value} {s : Setting}
    (h : k.read room raw = .ok s) : 0 < room := by
  have cited := Kind.reprFault_of_read h
  cases room with
  | zero => simp at cited
  | succ r => exact Nat.succ_pos r

theorem Kind.readCitable_of_read {k : Kind} {room : Nat} {raw : Value} {s : Setting}
    (h : k.read room raw = .ok s) : k.readCitable raw = .ok s := by
  rwa [Kind.read_of_reprFault (Kind.reprFault_of_read h)] at h

theorem Kind.read_text {k : Kind} {room : Nat} (hr : 0 < room) (t : String) :
    k.read room (.str t) = k.readCitable (.str t) := by
  obtain ⟨r, rfl⟩ := Nat.exists_eq_add_one.mpr hr
  rfl

/-! ## The decimal text of an integer -/

theorem asciiDigit?_of_isDigit {c : Char} (h : c.isDigit = true) :
    asciiDigit? c = some (c.toNat - 48) := by
  simp only [Char.isDigit, Bool.and_eq_true, decide_eq_true_eq] at h
  rw [asciiDigit?, if_pos ⟨h.1, h.2⟩]

theorem readSign_decimalDigits (n : Nat) :
    readSign (decimalDigits n) = (false, decimalDigits n) := by
  have ne : decimalDigits n ≠ [] := Nat.toDigits_ne_nil
  obtain ⟨c, rest, hcs⟩ := List.exists_cons_of_ne_nil ne
  have hc : c.isDigit = true :=
    Nat.isDigit_of_mem_toDigits (by decide) (by decide) (hcs ▸ List.mem_cons_self)
  rw [hcs]
  unfold readSign
  split <;> simp_all

/-- The values of the decimal digits of a natural, most significant first. -/
def digitValues (n : Nat) : List Nat := (decimalDigits n).map (·.toNat - 48)

theorem digitValues_ne_nil (n : Nat) : digitValues n ≠ [] := by
  simp [digitValues, decimalDigits, Nat.toDigits_ne_nil]

theorem digitsValue_digitValues (n : Nat) : digitsValue (digitValues n) = n := by
  rw [digitsValue, digitValues, List.foldl_map]
  exact Nat.ofDigitChars_ten_toDigits

theorem signed_digitsValue (i : Int) :
    (if decide (i < 0) = true then -(digitsValue (digitValues i.natAbs) : Int)
      else digitsValue (digitValues i.natAbs)) = i := by
  rw [digitsValue_digitValues]
  by_cases neg : i < 0
  · rw [if_pos (decide_eq_true neg)]
    omega
  · rw [if_neg (by simpa using neg)]
    omega

theorem length_digitValues_le {i : Int} (hi : -2 ^ 63 ≤ i ∧ i ≤ 2 ^ 63 - 1) :
    (digitValues i.natAbs).length ≤ integerDigitLimit := by
  have nineteen : (Nat.toDigits 10 i.natAbs).length ≤ 19 := by
    rw [Nat.length_toDigits_le_iff (by decide) (by decide)]
    omega
  simp only [digitValues, decimalDigits, List.length_map, integerDigitLimit]
  omega

theorem Value.citable_int {i : Int} (hi : -2 ^ 63 ≤ i ∧ i ≤ 2 ^ 63 - 1) :
    (Value.int i).citable = true := by
  have short := length_digitValues_le hi
  have shown : (toString i.natAbs).length = (digitValues i.natAbs).length := by
    simp [toString, Nat.repr, digitValues, decimalDigits]
  simp only [Value.citable, shown, short, decide_true]

theorem Value.citable_int_iff (i : Int) :
    (Value.int i).citable = true ↔ i.natAbs < 10 ^ integerDigitLimit := by
  have shown : (toString i.natAbs).length = (Nat.toDigits 10 i.natAbs).length := by
    simp [toString, Nat.repr]
  simp only [Value.citable, shown, decide_eq_true_eq]
  exact Nat.length_toDigits_le_iff (by decide) (by decide)

theorem Value.int_pow_limit_not_citable :
    (Value.int ((10 ^ 4300 : Nat) : Int)).citable = false := by
  rw [Bool.eq_false_iff, ne_eq, Value.citable_int_iff, Int.natAbs_natCast]
  exact lt_irrefl _

theorem Value.textWithin_int (r : Nat) (i : Int) :
    (Value.int i).textWithin (r + 1) = (Value.int i).toText := by
  have cited : (Value.int i).reprFault (r + 1) =
      if (Value.int i).citable then Option.none else some writeLimitFailure := by
    simp [Value.reprFault, Value.citable]
  simp only [Value.textWithin, Value.strFault, Value.toText, cited]
  by_cases h : (Value.int i).citable = true <;> simp [h]

theorem Kind.citable_of_within {k : Kind} {i : Int} (hi : k.bounds.1 ≤ i ∧ i ≤ k.bounds.2) :
    (Value.int i).citable = true :=
  Value.citable_int (by cases k <;> simp only [Kind.bounds] at hi <;> omega)

@[simp] theorem Value.citable_tuple_str {α : Type} (f : α → String) (xs : List α) :
    (Value.tuple (xs.map fun x => .str (f x))).citable = true := by
  simp only [Value.citable]
  induction xs with
  | nil => rfl
  | cons x xs ih => simpa [Value.citableItems] using ih

theorem toList_toString_int (i : Int) :
    (toString i).toList = (if i < 0 then ['-'] else []) ++ decimalDigits i.natAbs := by
  cases i with
  | ofNat n => simp [Int.repr, decimalDigits]
  | negSucc m => simp [Int.repr, Int.negSucc_lt_zero, decimalDigits]

theorem readSign_toString (i : Int) :
    readSign (toString i).toList = (decide (i < 0), decimalDigits i.natAbs) := by
  rw [toList_toString_int]
  by_cases neg : i < 0
  · simp [neg, readSign]
  · simp [neg, readSign_decimalDigits]

theorem wholeDigits?_toString (i : Int) :
    wholeDigits? (toString i).toList = some (decide (i < 0), digitValues i.natAbs) := by
  have digits : (decimalDigits i.natAbs).filterMap asciiDigit? = digitValues i.natAbs := by
    rw [digitValues, decimalDigits, ← List.filterMap_eq_map']
    apply List.filterMap_congr
    intro c hc
    exact asciiDigit?_of_isDigit (Nat.isDigit_of_mem_toDigits (by decide) (by decide) hc)
  have same : (digitValues i.natAbs).length = (decimalDigits i.natAbs).length := List.length_map _
  unfold wholeDigits?
  rw [readSign_toString]
  simp only [digits]
  rw [if_pos ⟨same, digitValues_ne_nil _⟩]

theorem decimal_char {i : Int} {c : Char} (h : c ∈ (toString i).toList) :
    c.isDigit = true ∨ c = '-' := by
  rw [toList_toString_int, List.mem_append] at h
  rcases h with sign | digit
  · right
    split at sign <;> simp_all
  · exact .inl (Nat.isDigit_of_mem_toDigits (by decide) (by decide) digit)

theorem decimal_not_blank {i : Int} {c : Char} (h : c ∈ (toString i).toList) : isBlank c = false := by
  rcases decimal_char h with digit | rfl
  · exact isBlank_of_isDigit digit
  · rfl

theorem trimBlanks_toString (i : Int) : trimBlanks (toString i).toList = (toString i).toList :=
  trimBlanks_eq_self (trimmed_of_forall fun _ => decimal_not_blank)

theorem Kind.read_whole_str {k : Kind} (hk : k = .int ∨ k = .long) (t : String) :
    k.readCitable (.str t) =
      match wholeDigits? (trimBlanks t.toList) with
      | some (neg, ds) =>
        if ds.length > integerDigitLimit then .error (.tooManyDigits ds.length)
        else k.wholeWithin (.str t) (if neg then -(digitsValue ds : Int) else digitsValue ds)
      | none => .error (.mismatch k (.str t)) := by
  rcases hk with rfl | rfl <;> rfl

theorem Kind.wholeWithin_ok {k : Kind} {raw : Value} {i : Int} {s : Setting}
    (h : k.wholeWithin raw i = .ok s) : s = .whole i ∧ k.bounds.1 ≤ i ∧ i ≤ k.bounds.2 := by
  unfold Kind.wholeWithin at h
  split at h
  · cases h
    exact ⟨rfl, ‹_›⟩
  · cases h

theorem Kind.read_str_whole {k : Kind} (hk : k = .int ∨ k = .long) {t : String} {s : Setting}
    (h : k.readCitable (.str t) = .ok s) : ∃ i, s = .whole i ∧ k.bounds.1 ≤ i ∧ i ≤ k.bounds.2 := by
  rw [Kind.read_whole_str hk] at h
  split at h
  · split at h
    · cases h
    · exact ⟨_, Kind.wholeWithin_ok h⟩
  · cases h

theorem Kind.bounds_of_readCitable {k : Kind} {raw : Value} {i : Int}
    (h : k.readCitable raw = .ok (.whole i)) : k.bounds.1 ≤ i ∧ i ≤ k.bounds.2 := by
  unfold Kind.readCitable at h
  simp only at h
  repeat' split at h
  all_goals first
    | cases h
    | obtain ⟨same, within⟩ := Kind.wholeWithin_ok h
      cases same
      exact within

/-- Every setting a kind reads can be written: a whole number it reads lies within 64 bits,
and no other setting holds an integer. -/
theorem Kind.citable_toValue {k : Kind} {raw : Value} {s : Setting}
    (h : k.readCitable raw = .ok s) : s.toValue.citable = true := by
  cases s with
  | whole i => exact Kind.citable_of_within (Kind.bounds_of_readCitable h)
  | items xs => exact Value.citable_tuple_str id xs
  | _ => rfl

theorem Setting.render_of_citable {s : Setting} (h : s.toValue.citable = true) :
    s.render = .ok s.toValue.propertyText := by
  simp [Setting.render, Value.render, h]

theorem Kind.render_of_read {k : Kind} {room : Nat} {raw : Value} {s : Setting}
    (h : k.read room raw = .ok s) : s.render = .ok s.toValue.propertyText :=
  Setting.render_of_citable (Kind.citable_toValue (Kind.readCitable_of_read h))

@[simp] theorem Setting.propertyText_whole (i : Int) :
    (Setting.whole i).toValue.propertyText = toString i := rfl

theorem Kind.read_toString {k : Kind} (hk : k = .int ∨ k = .long) {i : Int}
    (hi : k.bounds.1 ≤ i ∧ i ≤ k.bounds.2) : k.readCitable (.str (toString i)) = .ok (.whole i) := by
  have short : ¬ (digitValues i.natAbs).length > integerDigitLimit := by
    have long : -2 ^ 63 ≤ i ∧ i ≤ 2 ^ 63 - 1 := by
      rcases hk with rfl | rfl <;> simp only [Kind.bounds] at hi <;> omega
    exact Nat.not_lt.mpr (length_digitValues_le long)
  rw [Kind.read_whole_str hk, trimBlanks_toString, wholeDigits?_toString]
  simp only [short, if_false, signed_digitsValue, Kind.wholeWithin, if_pos hi]

theorem trim_toString (i : Int) : trim (toString i) = toString i := by
  rw [trim, trimBlanks_toString, String.ofList_toList]

theorem isBlank_of_asciiBlank {c : Char} (h : asciiBlanks.contains c = true) : isBlank c = true := by
  simp only [asciiBlanks, List.contains_cons, List.contains_nil, Bool.or_false, Bool.or_eq_true,
    beq_iff_eq] at h
  rcases h with rfl | rfl | rfl | rfl | rfl | rfl <;> rfl

theorem asciiForm_of_decimal {i : Int} {c : Char} (h : c ∈ (toString i).toList) :
    asciiForm c = c := by
  have small : c.toNat < 128 := by
    rcases decimal_char h with digit | rfl
    · simp only [Char.isDigit, Bool.and_eq_true, decide_eq_true_eq] at digit
      have : c.toNat ≤ 57 := digit.2
      omega
    · decide
  simp [asciiForm, small]

theorem dropAny_of_head {set cs : List Char} (h : ∀ c ∈ cs.head?, set.contains c = false) :
    dropAny set cs = cs := by
  cases cs with
  | nil => rfl
  | cons c rest =>
    simp only [dropAny, List.dropWhile_cons, h c rfl, Bool.false_eq_true, if_false]

theorem numeralChars_toString (i : Int) : numeralChars (toString i) = (toString i).toList := by
  have ascii : (toString i).toList.map asciiForm = (toString i).toList := by
    conv => rhs; rw [← List.map_id (toString i).toList]
    exact List.map_congr_left fun c hc => asciiForm_of_decimal hc
  have kept : ∀ c ∈ (toString i).toList, asciiBlanks.contains c = false := by
    intro c hc
    cases hb : asciiBlanks.contains c with
    | false => rfl
    | true =>
      have blank := isBlank_of_asciiBlank hb
      rw [decimal_not_blank hc] at blank
      cases blank
  rw [numeralChars, ascii, dropAny_of_head fun c hc => kept c (List.mem_of_mem_head? hc),
    dropAnyEnd, dropAny_of_head fun c hc => kept c (List.mem_reverse.mp (List.mem_of_mem_head? hc)),
    List.reverse_reverse]

theorem digitRun_of_digits {cs : List Char} (h : ∀ c ∈ cs, c.isDigit = true) (acc : List Nat) :
    digitRun cs acc = (acc.reverse ++ cs.map (·.toNat - 48), []) := by
  induction cs generalizing acc with
  | nil => simp [digitRun]
  | cons c cs ih =>
    rw [digitRun.eq_def]
    simp only [asciiDigit?_of_isDigit (h c List.mem_cons_self)]
    simp [ih (fun d hd => h d (List.mem_cons_of_mem c hd))]

theorem readInteger_toString {i : Int} (hi : (digitValues i.natAbs).length ≤ integerDigitLimit) :
    readInteger (toString i) = .value i := by
  have digits : ∀ c ∈ decimalDigits i.natAbs, c.isDigit = true :=
    fun c hc => Nat.isDigit_of_mem_toDigits (by decide) (by decide) hc
  have run : digitRun (decimalDigits i.natAbs) [] = (digitValues i.natAbs, []) := by
    rw [digitRun_of_digits digits]
    rfl
  rw [readInteger, numeralChars_toString, readIntegerChars, readSign_toString]
  simp only [run]
  split
  · rename_i heq
    exact absurd (congrArg Prod.fst heq) (digitValues_ne_nil _)
  · rename_i heq
    obtain ⟨rfl, rfl⟩ := Prod.mk.inj heq
    rw [if_neg (Nat.not_lt.mpr hi), if_pos List.isEmpty_nil, signed_digitsValue]

/-! ## Lists of texts -/

/-- Pieces with no blank at their ends and no comma, joined by commas into a text that is
not empty, read back as a list of exactly those pieces. -/
theorem Kind.read_joined {ls : List (List Char)} (trimmed : ∀ l ∈ ls, Trimmed l)
    (comma : ∀ l ∈ ls, ',' ∉ l) (ne : [','].intercalate ls ≠ []) :
    Kind.list.readCitable (.str (String.ofList ([','].intercalate ls))) =
      .ok (.items (ls.map String.ofList)) := by
  have hls : ls ≠ [] := by
    rintro rfl
    exact ne rfl
  have whole : trimBlanks ([','].intercalate ls) = [','].intercalate ls :=
    trimBlanks_eq_self (trimmed_intercalate rfl trimmed)
  simp only [Kind.readCitable, String.toList_ofList, whole, List.isEmpty_eq_false_iff.mpr ne,
    Bool.false_eq_true, if_false, List.splitOn_intercalate ',' comma hls]
  congr 2
  apply List.map_congr_left
  intro l hl
  simp [trimBlanks_eq_self (trimmed l hl)]

theorem Setting.propertyText_items (ls : List (List Char)) :
    (Setting.items (ls.map String.ofList)).toValue.propertyText =
      String.ofList ([','].intercalate ls) := by
  rw [← String.toList_inj]
  simp [Setting.toValue, Value.propertyText, Value.display, List.map_map, Function.comp_def]

theorem Kind.read_list_render {t : String} {s : Setting}
    (h : Kind.list.readCitable (.str t) = .ok s) :
    Kind.list.readCitable (.str s.toValue.propertyText) = .ok s := by
  simp only [Kind.readCitable] at h
  split at h
  · cases h
    rfl
  · rename_i full
    cases h
    have hcs : trimBlanks t.toList ≠ [] := by simpa using full
    have trimmed : ∀ l ∈ ((trimBlanks t.toList).splitOn ',').map trimBlanks, Trimmed l := by
      intro l hl
      obtain ⟨p, _, rfl⟩ := List.mem_map.mp hl
      exact trimmed_trimBlanks p
    have comma : ∀ l ∈ ((trimBlanks t.toList).splitOn ',').map trimBlanks, ',' ∉ l := by
      intro l hl
      obtain ⟨p, hp, rfl⟩ := List.mem_map.mp hl
      exact fun mem => List.not_mem_of_mem_splitOn hp (mem_of_mem_trimBlanks mem)
    have ne : [','].intercalate (((trimBlanks t.toList).splitOn ',').map trimBlanks) ≠ [] := by
      obtain ⟨p, ps, hps⟩ :=
        List.exists_cons_of_ne_nil (List.splitOn_ne_nil ',' (trimBlanks t.toList))
      rw [hps]
      cases ps with
      | nil =>
        have whole : p = trimBlanks t.toList := by
          have joined : [','].intercalate ((trimBlanks t.toList).splitOn ',') = trimBlanks t.toList :=
            List.intercalate_splitOn ','
          simpa [hps] using joined
        simpa [whole] using hcs
      | cons q qs => simp [List.intercalate_cons_cons]
    have items : ((trimBlanks t.toList).splitOn ',').map (fun p => String.ofList (trimBlanks p)) =
        (((trimBlanks t.toList).splitOn ',').map trimBlanks).map String.ofList := by
      rw [List.map_map]
      rfl
    rw [items, Setting.propertyText_items, Kind.read_joined trimmed comma ne]

/-! ## Every kind but double -/

/-- A setting as it reads back once rendered: a secret becomes the hidden stand-in. -/
def Setting.hidden : Setting → Setting
  | .secret _ => .secret hiddenText
  | s => s

theorem Setting.hidden_eq_self {s : Setting} (h : ∀ p, s ≠ .secret p) : s.hidden = s := by
  cases s with
  | secret p => exact absurd rfl (h p)
  | _ => rfl

theorem Setting.eq_of_hidden_eq_whole {s : Setting} {i : Int} (h : s.hidden = .whole i) :
    s = .whole i := by
  cases s with
  | secret p => cases h
  | _ => exact h

/-- Rendering a setting read from a text and reading the rendering again gives the setting
back, with a secret hidden; the one kind left out is double, whose texts are not kept. -/
theorem Kind.read_render {k : Kind} {room : Nat} {t : String} {s : Setting} (hk : k ≠ .double)
    (h : k.read room (.str t) = .ok s) :
    s.render = .ok s.toValue.propertyText ∧
      k.read room (.str s.toValue.propertyText) = .ok s.hidden := by
  refine ⟨Kind.render_of_read h, ?_⟩
  rw [Kind.read_text (Kind.room_pos_of_read h)]
  replace h := Kind.readCitable_of_read h
  cases k with
  | boolean =>
    simp only [Kind.readCitable] at h
    split at h
    · cases h
      rename_i b _
      cases b <;> rfl
    · cases h
  | string =>
    simp only [Kind.readCitable] at h
    cases h
    simp [Kind.readCitable, Setting.toValue, Value.propertyText, Value.display, Setting.hidden]
  | int | long =>
    obtain ⟨i, rfl, hi⟩ := Kind.read_str_whole (by simp) h
    rw [Setting.propertyText_whole]
    exact Kind.read_toString (by simp) hi
  | double => exact absurd rfl hk
  | list =>
    rw [Kind.read_list_render h]
    simp only [Kind.readCitable] at h
    split at h <;> cases h <;> rfl
  | password =>
    simp only [Kind.readCitable] at h
    cases h
    rfl

example : Kind.list.read 1
    (.str (Setting.items ["http://a:8080", "", "https://b:8443"]).toValue.propertyText) =
    .ok (.items ["http://a:8080", "", "https://b:8443"]) := rfl

theorem Kind.eq_password_of_read_secret {k : Kind} {room : Nat} {t p : String}
    (h : k.read room (.str t) = .ok (.secret p)) : k = .password := by
  replace h := Kind.readCitable_of_read h
  cases k with
  | password => rfl
  | boolean =>
    simp only [Kind.readCitable] at h
    split at h <;> cases h
  | string => cases h
  | int | long =>
    obtain ⟨i, hi, -⟩ := Kind.read_str_whole (by simp) h
    cases hi
  | double =>
    simp only [Kind.readCitable] at h
    split at h
    · split at h <;> cases h
    · cases h
  | list =>
    simp only [Kind.readCitable] at h
    split at h <;> cases h

end RestConfig

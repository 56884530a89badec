import Mathlib
import RestConfig.Proofs.FloatText
import RestConfig.Value.JsonRead

/-!
# Reading compact JSON back

The compact JSON text of a value is read back by the strict reader. A value the strict
reader can give back is `Strict`: nothing, a boolean, an integer, a finite number, a text,
a list of such values, or a mapping with distinct text keys and such values. Reading the
compact text of a strict value gives the value with the entries of its mappings in key
order, as the text writes them (`Json.decode_compact`). Every character of a compact text,
of any value, is at least U+0020: the text holds no control character
(`Json.compact_printable`).
-/

namespace RestConfig.Json

open Text

/-- The values a strict JSON reader gives back: nothing, booleans, integers, finite numbers,
texts, lists of such values, and mappings with distinct text keys and such values. -/
inductive Strict : Value → Prop
  | none : Strict .none
  | bool (b : Bool) : Strict (.bool b)
  | int (i : Int) : Strict (.int i)
  | float {x : Binary64} (finite : x.isFinite = true) : Strict (.float x)
  | str (s : String) : Strict (.str s)
  | list {items : List Value} (each : ∀ v ∈ items, Strict v) : Strict (.list items)
  | map {entries : List (Value × Value)} (keys : ∀ e ∈ entries, ∃ k, e.1 = .str k)
      (distinct : (entries.map (·.1.display)).Nodup) (each : ∀ e ∈ entries, Strict e.2) :
      Strict (.map entries)

/-- Entries in the order their keys are written in JSON text. -/
def keyOrder (a b : Value × Value) : Bool := decide (a.1.display ≤ b.1.display)

mutual
/-- A value with the entries of every mapping in it in key order. -/
def sortKeys : Value → Value
  | .list items => .list (sortKeysItems items)
  | .map entries => .map ((sortKeysEntries entries).mergeSort keyOrder)
  | v => v

/-- The items of a list, each with its mappings in key order. -/
def sortKeysItems : List Value → List Value
  | [] => []
  | v :: rest => sortKeys v :: sortKeysItems rest

/-- The entries of a mapping, each value with its mappings in key order. -/
def sortKeysEntries : List (Value × Value) → List (Value × Value)
  | [] => []
  | (k, v) :: rest => (k, sortKeys v) :: sortKeysEntries rest
end

/-- What may follow a value in JSON text: nothing, a comma, or a closing bracket or brace. -/
def Ends (rest : List Char) : Prop := ∀ c ∈ rest.head?, c = ',' ∨ c = ']' ∨ c = '}'

/-! ## The shape of compact texts -/

theorem renderItems_eq_map (indent : Option Nat) (level : Nat) (items : List Value) :
    renderItems indent level items = items.map (render indent (level + 1)) := by
  induction items with
  | nil => simp [renderItems]
  | cons v rest ih => simp [renderItems, ih]

/-- The compact text of an entry: its key's text, a colon and its value's text. -/
def entryText (level : Nat) (e : Value × Value) : String :=
  string e.1.display ++ ":" ++ render none (level + 1) e.2

theorem sortRendered_renderEntries (level : Nat) (entries : List (Value × Value)) :
    sortRendered (renderEntries none level entries) =
      (entries.mergeSort keyOrder).map (entryText level) := by
  have rendered : renderEntries none level entries =
      entries.map fun e => (e.1.display, entryText level e) := by
    induction entries with
    | nil => simp [renderEntries]
    | cons e rest ih => simp [renderEntries, ih, entryText]
  rw [sortRendered, rendered, ← List.map_mergeSort (r := keyOrder)
    (f := fun e => (e.1.display, entryText level e)) (fun a _ b _ => rfl),
    List.map_map]
  rfl

theorem sortKeysItems_eq_map (items : List Value) : sortKeysItems items = items.map sortKeys := by
  induction items with
  | nil => rfl
  | cons v rest ih => simp [sortKeysItems, ih]

theorem sortKeys_map (entries : List (Value × Value)) :
    sortKeys (.map entries) =
      .map ((entries.mergeSort keyOrder).map fun e => (e.1, sortKeys e.2)) := by
  have mapped : sortKeysEntries entries = entries.map fun e => (e.1, sortKeys e.2) := by
    induction entries with
    | nil => rfl
    | cons e rest ih => simp [sortKeysEntries, ih]
  rw [sortKeys, mapped,
    List.map_mergeSort (r := keyOrder) (s := keyOrder) (f := fun e => (e.1, sortKeys e.2))
      (fun a _ b _ => rfl)]

theorem string_toList (s : String) :
    (string s).toList = '"' :: (s.toList.flatMap escapeChar ++ ['"']) := by
  simp [string]

/-! ## Strings -/

theorem hexValue?_hexDigit : ∀ d < 16, hexValue? (hexDigit d) = some d := by decide

theorem hex4?_hexDigits {n : Nat} (h : n < 65536) :
    ∃ a b c d, hexDigits n 4 = [a, b, c, d] ∧ hex4? a b c d = some n := by
  refine ⟨_, _, _, _, rfl, ?_⟩
  simp only [hex4?, hexValue?_hexDigit _ (Nat.mod_lt _ (by norm_num : 16 > 0))]
  simp only [Option.bind_eq_bind, Option.bind_some, Option.pure_def, Option.some.injEq]
  omega

theorem readChars_escapeChar (c : Char) (more : List Char) :
    readChars (escapeChar c ++ more) = prepend c (readChars more) := by
  unfold escapeChar
  split_ifs with quote backslash newline ret tab back feed control
  · simp [quote, readChars]
  · simp [backslash, readChars]
  · simp [newline, readChars]
  · simp [ret, readChars]
  · simp [tab, readChars]
  · simp [back, readChars]
  · simp [feed, readChars]
  · obtain ⟨a, b, d, e, digits, value⟩ := hex4?_hexDigits (n := c.toNat) (by omega)
    have valid : charOf? c.toNat = some c := by
      rw [charOf?, if_pos (Or.inl (by omega)), Char.ofNat_toNat]
    rw [digits]
    simp [readChars, value, valid]
    omega
  · simp only [List.singleton_append]
    rw [readChars.eq_def]
    split <;> simp_all

theorem readChars_escaped (s rest : List Char) :
    readChars (s.flatMap escapeChar ++ '"' :: rest) = some (s, rest) := by
  induction s with
  | nil => simp [readChars]
  | cons c s ih =>
    rw [List.flatMap_cons, List.append_assoc, readChars_escapeChar, ih, prepend]

/-! ## Numbers -/

theorem isDigit_eq (c : Char) : isDigit c = c.isDigit := rfl

theorem Ends.stops {rest : List Char} (ends : Ends rest) :
    ∀ c ∈ rest.head?, c.isDigit = false ∧ c ≠ '.' ∧ c ≠ 'e' ∧ c ≠ 'E' := by
  intro c mem
  rcases ends c mem with rfl | rfl | rfl <;> decide

theorem span_digits {ds tail : List Char} (digits : ∀ c ∈ ds, c.isDigit = true)
    (stop : ∀ c ∈ tail.head?, c.isDigit = false) : (ds ++ tail).span isDigit = (ds, tail) := by
  rw [List.span_eq_takeWhile_dropWhile, List.takeWhile_append_of_pos (p := isDigit) digits,
    List.dropWhile_append_of_pos (p := isDigit) digits]
  cases tail with
  | nil => simp
  | cons c more => simp [isDigit_eq, stop c rfl]

theorem wholePart_digits {ds tail : List Char} (ne : ds ≠ []) (digits : ∀ c ∈ ds, c.isDigit = true)
    (lead : ds.head? = some '0' → ds = ['0']) (stop : ∀ c ∈ tail.head?, c.isDigit = false) :
    wholePart (ds ++ tail) = (ds, tail) := by
  obtain ⟨d, more, rfl⟩ := List.exists_cons_of_ne_nil ne
  by_cases zero : d = '0'
  · obtain ⟨-, rfl⟩ := List.cons_eq_cons.mp (lead (by simp [zero]))
    simp [wholePart, zero]
  · rw [wholePart.eq_def]
    split
    · rename_i rest same
      exact absurd (List.cons_eq_cons.mp same).1 zero
    · exact span_digits digits stop

theorem fractionPart_none {tail : List Char} (stop : ∀ c ∈ tail.head?, c ≠ '.') :
    fractionPart tail = ([], tail) := by
  rw [fractionPart.eq_def]
  split
  · simp at stop
  · rfl

theorem fractionPart_digits {ds tail : List Char} (ne : ds ≠ []) (digits : ∀ c ∈ ds, c.isDigit = true)
    (stop : ∀ c ∈ tail.head?, c.isDigit = false) :
    fractionPart ('.' :: ds ++ tail) = ('.' :: ds, tail) := by
  obtain ⟨d, more, rfl⟩ := List.exists_cons_of_ne_nil ne
  have first : isDigit d = true := digits d (by simp)
  simp only [List.cons_append, fractionPart, first, if_true]
  rw [← List.cons_append, span_digits digits stop]

theorem exponentPart_none {tail : List Char} (stop : ∀ c ∈ tail.head?, c ≠ 'e' ∧ c ≠ 'E') :
    exponentPart tail = ([], tail) := by
  cases tail with
  | nil => rfl
  | cons c more =>
    obtain ⟨e, E⟩ := stop c rfl
    simp [exponentPart, e, E]

theorem exponentPart_exponentChars (e : Int) {tail : List Char}
    (stop : ∀ c ∈ tail.head?, c.isDigit = false) :
    exponentPart (Numeral.exponentChars e ++ tail) = (Numeral.exponentChars e, tail) := by
  have signed : exponentSign ((if e < 0 then '-' else '+') :: (padDigits e.natAbs 2 ++ tail)) =
      ([if e < 0 then '-' else '+'], padDigits e.natAbs 2 ++ tail) := by
    split <;> rfl
  simp only [Numeral.exponentChars, List.cons_append, exponentPart, true_or, if_true, signed,
    span_digits (padDigits_digits e.natAbs 2) stop]
  simp [padDigits_ne_nil]

/-- A number is read from its parts: the sign, the whole digits, the fraction and the
exponent, each ending where the next begins. -/
theorem readNumber_of_parts (neg : Bool) {whole frac exp rest : List Char}
    (ne : whole ≠ []) (digit : ∀ c ∈ whole.head?, c.isDigit = true)
    (wholeRead : wholePart (whole ++ (frac ++ exp ++ rest)) = (whole, frac ++ exp ++ rest))
    (fracRead : fractionPart (frac ++ (exp ++ rest)) = (frac, exp ++ rest))
    (expRead : exponentPart (exp ++ rest) = (exp, rest)) :
    readNumber ((if neg then ['-'] else []) ++ whole ++ frac ++ exp ++ rest) =
      if frac.isEmpty ∧ exp.isEmpty then
        some (.int (if neg then -(digitsNat whole : Int) else digitsNat whole), rest)
      else (Reading.readFloat? (String.ofList ((if neg then ['-'] else []) ++ whole ++ frac ++ exp))).map
        fun x => (.float x, rest) := by
  obtain ⟨c, more, rfl⟩ := List.exists_cons_of_ne_nil ne
  have minus : c ≠ '-' := by
    rintro rfl
    simp at digit
  simp only [List.cons_append, List.append_assoc] at wholeRead ⊢
  cases neg
  · simp [readNumber, minus, wholeRead, fracRead, expRead]
  · simp [readNumber, wholeRead, fracRead, expRead]

theorem digitsNat_decimalDigits (n : Nat) : digitsNat (decimalDigits n) = n :=
  Nat.ofDigitChars_ten_toDigits

theorem decimalDigits_ne_nil (n : Nat) : decimalDigits n ≠ [] := Nat.toDigits_ne_nil

theorem readNumber_int (i : Int) {rest : List Char} (ends : Ends rest) :
    readNumber ((toString i).toList ++ rest) = some (.int i, rest) := by
  have stop : ∀ c ∈ rest.head?, c.isDigit = false := fun c h => (ends.stops c h).1
  have lead : (decimalDigits i.natAbs).head? = some '0' → decimalDigits i.natAbs = ['0'] := by
    intro zero
    rcases Nat.eq_zero_or_pos i.natAbs with h | h
    · rw [h]
      rfl
    · exact absurd zero (head_decimalDigits h)
  have read := @readNumber_of_parts (decide (i < 0)) (decimalDigits i.natAbs) [] [] rest
    (decimalDigits_ne_nil i.natAbs)
    (fun c h => decimalDigits_digits _ c (List.mem_of_mem_head? h))
    (wholePart_digits (decimalDigits_ne_nil _) (decimalDigits_digits _) lead stop)
    (fractionPart_none fun c h => (ends.stops c h).2.1)
    (exponentPart_none fun c h => (ends.stops c h).2.2)
  simp only [decide_eq_true_eq, List.append_nil, List.isEmpty_nil, and_self, if_true,
    digitsNat_decimalDigits] at read
  rw [toList_toString_int, read]
  split <;> (congr; omega)

end Json

namespace Numeral

open Json

/-- The fraction of a numeral as written: a point and its digits, or nothing. -/
def fractionText (n : Numeral) : List Char := if n.fraction = [] then [] else '.' :: n.fraction

/-- The exponent of a numeral as written, or nothing. -/
def exponentText (n : Numeral) : List Char :=
  match n.exponent with
  | some e => exponentChars e
  | none => []

theorem chars_eq_parts (n : Numeral) :
    n.chars = (if n.negative then ['-'] else []) ++ n.whole ++ n.fractionText ++ n.exponentText :=
  rfl

variable {n : Numeral} {rest : List Char}

theorem exponentPart_exponentText (ends : Ends rest) :
    exponentPart (n.exponentText ++ rest) = (n.exponentText, rest) := by
  unfold exponentText
  split
  · exact exponentPart_exponentChars _ fun c h => (ends.stops c h).1
  · exact exponentPart_none fun c h => (ends.stops c h).2.2

theorem head_exponentText (ends : Ends rest) :
    ∀ c ∈ (n.exponentText ++ rest).head?, c.isDigit = false ∧ c ≠ '.' := by
  unfold exponentText
  split
  · simp [exponentChars]
  · exact fun c h => ⟨(ends.stops c h).1, (ends.stops c h).2.1⟩

theorem fractionPart_fractionText (wf : n.WellFormed) (ends : Ends rest) :
    fractionPart (n.fractionText ++ (n.exponentText ++ rest)) = (n.fractionText, n.exponentText ++ rest) := by
  unfold fractionText
  split
  · exact fractionPart_none fun c h => (head_exponentText ends c h).2
  · rename_i frac
    exact fractionPart_digits frac wf.fraction_digits fun c h => (head_exponentText ends c h).1

theorem head_fractionText (ends : Ends rest) :
    ∀ c ∈ (n.fractionText ++ n.exponentText ++ rest).head?, c.isDigit = false := by
  unfold fractionText
  split
  · exact fun c h => (head_exponentText ends c h).1
  · simp

end Numeral

namespace Json

open Text

theorem readNumber_numeral {n : Numeral} (wf : n.WellFormed) {rest : List Char} (ends : Ends rest) :
    readNumber (n.chars ++ rest) =
      (Reading.readFloat? (String.ofList n.chars)).map fun x => (.float x, rest) := by
  have read := readNumber_of_parts n.negative wf.whole_ne
    (fun c h => wf.whole_digits c (List.mem_of_mem_head? h))
    (wholePart_digits wf.whole_ne wf.whole_digits wf.no_leading_zero
      (Numeral.head_fractionText ends))
    (Numeral.fractionPart_fractionText wf ends) (Numeral.exponentPart_exponentText ends)
  have notInteger : ¬(n.fractionText.isEmpty ∧ n.exponentText.isEmpty) := by
    rintro ⟨frac, exp⟩
    rcases wf.not_integer with some | some
    · simp [Numeral.fractionText, some] at frac
    · cases h : n.exponent <;> simp_all [Numeral.exponentText, Numeral.exponentChars]
  rw [Numeral.chars_eq_parts, read, if_neg notInteger]

/-! ## Reading values back -/

/-- A text that begins a value: its first character is no blank and closes nothing. -/
def Starts (cs : List Char) : Prop :=
  ∃ c more, cs = c :: more ∧ isBlank c = false ∧ c ≠ ']' ∧ c ≠ '}'

/-- A text that reads as a value in front of whatever may follow a value, given more fuel
than it has characters. -/
def ReadsAs (cs : List Char) (v : Value) : Prop :=
  Starts cs ∧ ∀ fuel rest, cs.length < fuel → Ends rest → readValue fuel (cs ++ rest) = some (v, rest)

theorem ReadsAs.intro {cs : List Char} {v : Value} (starts : Starts cs)
    (reads : ∀ fuel rest, cs.length ≤ fuel → Ends rest → readValue (fuel + 1) (cs ++ rest) = some (v, rest)) :
    ReadsAs cs v := by
  refine ⟨starts, fun fuel rest room ends => ?_⟩
  obtain ⟨fuel, rfl⟩ : ∃ f, fuel = f + 1 := ⟨fuel - 1, by omega⟩
  exact reads fuel rest (by omega) ends

theorem Starts.of_head {c : Char} {more : List Char} (blank : isBlank c = false) (bracket : c ≠ ']')
    (brace : c ≠ '}') : Starts (c :: more) :=
  ⟨c, more, rfl, blank, bracket, brace⟩

theorem Starts.dropBlanks_append {cs : List Char} (h : Starts cs) (rest : List Char) :
    dropBlanks (cs ++ rest) = cs ++ rest := by
  obtain ⟨c, more, rfl, blank, -, -⟩ := h
  simp [dropBlanks, blank]

theorem Ends.dropBlanks_eq {rest : List Char} (h : Ends rest) : dropBlanks rest = rest := by
  cases rest with
  | nil => rfl
  | cons c more =>
    have : isBlank c = false := by rcases h c rfl with rfl | rfl | rfl <;> decide
    simp [dropBlanks, this]

theorem Ends.comma (more : List Char) : Ends (',' :: more) := by simp [Ends]

theorem Ends.bracket (more : List Char) : Ends (']' :: more) := by simp [Ends]

theorem Ends.brace (more : List Char) : Ends ('}' :: more) := by simp [Ends]

theorem Starts.joined {α : Type} {l : List α} {text : α → List Char} (ne : l ≠ [])
    (each : ∀ a ∈ l, Starts (text a)) : Starts ([','].intercalate (l.map text)) := by
  obtain ⟨a, as, rfl⟩ := List.exists_cons_of_ne_nil ne
  obtain ⟨c, more, eq, head⟩ := each a (by simp)
  cases as with
  | nil => exact ⟨c, more, by simp [eq], head⟩
  | cons b bs => exact ⟨c, _, by rw [List.map_cons, List.map_cons, List.intercalate_cons_cons, eq,
      List.cons_append, List.cons_append], head⟩

/-- Values written one after another, separated by commas and closed by a bracket, read
back as the values they write, one unit of fuel for each. -/
theorem readItems_joined {text : Value → List Char} {read : Value → Value} {items : List Value}
    (each : ∀ v ∈ items, ReadsAs (text v) (read v)) (ne : items ≠ []) {fuel : Nat}
    (room : ([','].intercalate (items.map text)).length + 1 < fuel) (rest : List Char) :
    readItems fuel ([','].intercalate (items.map text) ++ ']' :: rest) =
      some (items.map read, rest) := by
  induction items generalizing fuel with
  | nil => contradiction
  | cons v vs ih =>
    obtain ⟨fuel, rfl⟩ : ∃ f, fuel = f + 1 := ⟨fuel - 1, by omega⟩
    obtain ⟨-, reads⟩ := each v (by simp)
    cases vs with
    | nil =>
      simp only [List.map_cons, List.map_nil, List.intercalate_singleton] at room ⊢
      rw [readItems, reads fuel (']' :: rest) (by omega) (Ends.bracket rest)]
      simp [(Ends.bracket rest).dropBlanks_eq]
    | cons w ws =>
      have others : ∀ u ∈ w :: ws, ReadsAs (text u) (read u) := fun u mem => each u (by simp [mem])
      have starts : Starts ([','].intercalate ((w :: ws).map text)) :=
        Starts.joined (by simp) fun u mem => (others u mem).1
      rw [List.map_cons, List.intercalate_cons_of_ne_nil (by simp)] at room ⊢
      simp only [List.length_append, List.length_singleton] at room
      have first := reads fuel (',' :: ([','].intercalate ((w :: ws).map text) ++ ']' :: rest))
        (by omega) (Ends.comma _)
      simp only [List.append_assoc, List.cons_append, List.nil_append] at first ⊢
      rw [readItems, first]
      simp only [(Ends.comma _).dropBlanks_eq]
      rw [starts.dropBlanks_append, ih others (by simp) (by omega)]
      rfl

/-- The text of an entry as compact JSON writes it: the key's string, a colon and the
value's text. -/
def entryChars (text : Value → List Char) (e : Value × Value) : List Char :=
  '"' :: (e.1.display.toList.flatMap escapeChar ++ '"' :: ':' :: text e.2)

theorem starts_entryChars (text : Value → List Char) (e : Value × Value) :
    Starts (entryChars text e) :=
  Starts.of_head (by decide) (by decide) (by decide)

theorem setEntry_fresh {acc : List (Value × Value)} {key : String}
    (fresh : acc.any (keyIs key) = false) (v : Value) :
    setEntry acc key v = acc ++ [(.str key, v)] := by
  simp [setEntry, fresh]

/-- Entries with distinct text keys, written one after another, separated by commas and
closed by a brace, read back as the entries they write, each set after the entries read
before whose keys differ from theirs. -/
theorem readMembers_joined {text : Value → List Char} {read : Value → Value}
    {entries : List (Value × Value)} (keys : ∀ e ∈ entries, ∃ k, e.1 = .str k)
    (distinct : (entries.map (·.1.display)).Nodup) (each : ∀ e ∈ entries, ReadsAs (text e.2) (read e.2))
    (ne : entries ≠ []) {acc : List (Value × Value)}
    (fresh : ∀ e ∈ entries, acc.any (keyIs e.1.display) = false) {fuel : Nat}
    (room : ([','].intercalate (entries.map (entryChars text))).length + 1 < fuel) (rest : List Char) :
    readMembers fuel acc ([','].intercalate (entries.map (entryChars text)) ++ '}' :: rest) =
      some (acc ++ entries.map fun e => (e.1, read e.2), rest) := by
  induction entries generalizing acc fuel with
  | nil => contradiction
  | cons e es ih =>
    obtain ⟨fuel, rfl⟩ : ∃ f, fuel = f + 1 := ⟨fuel - 1, by omega⟩
    obtain ⟨k, key⟩ := keys e (by simp)
    obtain ⟨starts, reads⟩ := each e (by simp)
    have named : e.1.display = k := by rw [key]; rfl
    have set : setEntry acc (String.ofList k.toList) (read e.2) = acc ++ [(e.1, read e.2)] := by
      rw [String.ofList_toList, setEntry_fresh (by simpa [named] using fresh e (by simp)), key]
    have value : ∀ tail, Ends tail → (text e.2).length < fuel →
        readValue fuel (dropBlanks (text e.2 ++ tail)) = some (read e.2, tail) := fun tail ends room =>
      by rw [starts.dropBlanks_append, reads fuel tail room ends]
    have colon : ∀ tail, dropBlanks (':' :: tail) = ':' :: tail := fun tail => by
      simp [dropBlanks, show isBlank ':' = false by decide]
    cases es with
    | nil =>
      simp only [List.map_cons, List.map_nil, List.intercalate_singleton] at room ⊢
      simp only [entryChars, named, List.length_cons, List.length_append] at room
      simp only [entryChars, named, List.cons_append, List.append_assoc]
      rw [readMembers, readChars_escaped]
      simp only [colon, value _ (Ends.brace rest) (by omega), set, (Ends.brace rest).dropBlanks_eq]
    | cons e' es' =>
      have others : ∀ d ∈ e' :: es', (acc ++ [(e.1, read e.2)]).any (keyIs d.1.display) = false := by
        intro d mem
        have differ : k ≠ d.1.display := by
          intro same
          refine (List.nodup_cons.mp distinct).1 ?_
          show e.1.display ∈ (e' :: es').map (·.1.display)
          rw [named, same]
          exact List.mem_map_of_mem mem
        simp [List.any_append, fresh d (by simp [mem]), key, keyIs, differ]
      have starts : Starts ([','].intercalate ((e' :: es').map (entryChars text))) :=
        Starts.joined (by simp) fun d _ => starts_entryChars text d
      rw [List.map_cons, List.intercalate_cons_of_ne_nil (by simp)] at room ⊢
      simp only [entryChars, named, List.length_cons, List.length_append] at room
      simp only [entryChars, named, List.cons_append, List.append_assoc, List.nil_append]
      rw [readMembers, readChars_escaped]
      simp only [colon, value _ (Ends.comma _) (by omega), set, (Ends.comma _).dropBlanks_eq]
      rw [starts.dropBlanks_append, ih (fun d mem => keys d (by simp [mem]))
        (List.nodup_cons.mp distinct).2 (fun d mem => each d (by simp [mem])) (by simp) others
        (by omega)]
      simp

/-! ## Compact texts read back -/

theorem ne_of_isDigit {c d : Char} (digit : c.isDigit = true) (other : d.isDigit = false) :
    c ≠ d := by
  rintro rfl
  rw [digit] at other
  cases other

theorem number_head {c : Char} (sign : c = '-' ∨ c.isDigit = true) :
    isBlank c = false ∧ c ≠ ']' ∧ c ≠ '}' := by
  rcases sign with rfl | digit
  · decide
  · have ne := fun (d : Char) (other : d.isDigit = false) => ne_of_isDigit digit other
    exact ⟨by simp [isBlank, ne ' ' rfl, ne '\t' rfl, ne '\n' rfl, ne '\r' rfl], ne _ rfl, ne _ rfl⟩

theorem readValue_number {c : Char} (sign : c = '-' ∨ c.isDigit = true) (fuel : Nat)
    (cs : List Char) : readValue (fuel + 1) (c :: cs) = readNumber (c :: cs) := by
  have other : c ≠ '"' ∧ c ≠ '[' ∧ c ≠ '{' ∧ c ≠ 'n' ∧ c ≠ 't' ∧ c ≠ 'f' := by
    rcases sign with rfl | digit
    · decide
    · exact ⟨ne_of_isDigit digit rfl, ne_of_isDigit digit rfl, ne_of_isDigit digit rfl,
        ne_of_isDigit digit rfl, ne_of_isDigit digit rfl, ne_of_isDigit digit rfl⟩
  obtain ⟨quote, bracket, brace, n, t, f⟩ := other
  simp [readValue, quote, bracket, brace, n, t, f]

theorem readsAs_number {cs : List Char} {v : Value}
    (head : ∃ c more, cs = c :: more ∧ (c = '-' ∨ c.isDigit = true))
    (reads : ∀ rest, Ends rest → readNumber (cs ++ rest) = some (v, rest)) : ReadsAs cs v := by
  obtain ⟨c, more, rfl, sign⟩ := head
  obtain ⟨blank, bracket, brace⟩ := number_head sign
  refine ReadsAs.intro (Starts.of_head blank bracket brace) fun fuel rest _ ends => ?_
  rw [List.cons_append, readValue_number sign, ← List.cons_append, reads rest ends]

theorem toString_head (i : Int) :
    ∃ c more, (toString i).toList = c :: more ∧ (c = '-' ∨ c.isDigit = true) := by
  rw [toList_toString_int]
  obtain ⟨d, ds, eq⟩ := List.exists_cons_of_ne_nil (decimalDigits_ne_nil i.natAbs)
  have digit : d.isDigit = true := decimalDigits_digits _ d (eq ▸ List.mem_cons_self)
  split
  · exact ⟨'-', _, rfl, Or.inl rfl⟩
  · exact ⟨d, ds, by rw [eq]; rfl, Or.inr digit⟩

theorem Numeral.chars_head {n : Numeral} (wf : n.WellFormed) :
    ∃ c more, n.chars = c :: more ∧ (c = '-' ∨ c.isDigit = true) := by
  rw [Numeral.chars_eq_parts]
  obtain ⟨d, ds, eq⟩ := List.exists_cons_of_ne_nil wf.whole_ne
  have digit : d.isDigit = true := wf.whole_digits d (eq ▸ List.mem_cons_self)
  split
  · exact ⟨'-', _, rfl, Or.inl rfl⟩
  · exact ⟨d, _, by rw [eq]; rfl, Or.inr digit⟩

theorem number_of_isFinite {x : Binary64} (fin : x.isFinite = true) : number x = x.text := by
  simp [number, Binary64.isNaN_of_isFinite fin, Binary64.isInfinite_of_isFinite fin]

theorem enclose_none (level : Nat) (o c : String) (items : List String) :
    enclose none level o c items = o ++ ",".intercalate items ++ c := by
  unfold enclose
  split
  · rename_i empty
    rw [List.isEmpty_iff.mp empty]
    simp
  · rfl

theorem render_list_toList (level : Nat) (items : List Value) :
    (render none level (.list items)).toList =
      '[' :: ([','].intercalate (items.map fun v => (render none (level + 1) v).toList) ++ [']']) := by
  rw [render, renderItems_eq_map, enclose_none]
  simp [String.toList_intercalate, List.map_map, Function.comp_def]

theorem render_map_toList (level : Nat) (entries : List (Value × Value)) :
    (render none level (.map entries)).toList =
      '{' :: ([','].intercalate ((entries.mergeSort keyOrder).map
        (entryChars fun v => (render none (level + 1) v).toList)) ++ ['}']) := by
  rw [render, sortRendered_renderEntries, enclose_none]
  simp [String.toList_intercalate, List.map_map, Function.comp_def, entryText, string_toList]
  rfl

theorem render_readsAs {v : Value} (strict : Strict v) (level : Nat) :
    ReadsAs (render none level v).toList (sortKeys v) := by
  induction strict generalizing level with
  | none =>
    rw [show (render none level .none).toList = ['n', 'u', 'l', 'l'] by simp [render]]
    exact ReadsAs.intro (Starts.of_head (by decide) (by decide) (by decide)) fun fuel rest _ _ => by
      simp [readValue, sortKeys]
  | bool b =>
    cases b
    · rw [show (render none level (.bool false)).toList = ['f', 'a', 'l', 's', 'e'] by simp [render]]
      exact ReadsAs.intro (Starts.of_head (by decide) (by decide) (by decide)) fun fuel rest _ _ => by
        simp [readValue, sortKeys]
    · rw [show (render none level (.bool true)).toList = ['t', 'r', 'u', 'e'] by simp [render]]
      exact ReadsAs.intro (Starts.of_head (by decide) (by decide) (by decide)) fun fuel rest _ _ => by
        simp [readValue, sortKeys]
  | int i => exact readsAs_number (toString_head i) fun rest ends => readNumber_int i ends
  | float finite =>
    rename_i x
    obtain ⟨n, wf, chars, back⟩ := Binary64.text_numeral finite
    have written : String.ofList n.chars = x.text := by rw [← chars, String.ofList_toList]
    rw [render, number_of_isFinite finite, chars]
    refine readsAs_number (Numeral.chars_head wf) fun rest ends => ?_
    rw [readNumber_numeral wf ends, written, Binary64.readFloat?_text finite]
    rfl
  | str s =>
    rw [render, string_toList]
    refine ReadsAs.intro (Starts.of_head (by decide) (by decide) (by decide)) fun fuel rest _ _ => ?_
    simp [readValue, readChars_escaped, sortKeys]
  | list each ih =>
    rename_i items
    rw [render_list_toList]
    refine ReadsAs.intro (Starts.of_head (by decide) (by decide) (by decide)) fun fuel rest room _ => ?_
    rw [sortKeys, sortKeysItems_eq_map]
    simp only [List.cons_append, List.append_assoc, readValue]
    cases items with
    | nil => simp [(Ends.bracket rest).dropBlanks_eq]
    | cons w ws =>
      have starts : Starts ([','].intercalate ((w :: ws).map fun v => (render none (level + 1) v).toList)) :=
        Starts.joined (by simp) fun u mem => (ih u mem (level + 1)).1
      simp only [List.length_cons, List.length_append] at room
      have enough : ([','].intercalate ((w :: ws).map fun v => (render none (level + 1) v).toList)).length
          + 1 < fuel := by omega
      have items := readItems_joined (fun u mem => ih u mem (level + 1)) (by simp) enough rest
      rw [starts.dropBlanks_append]
      obtain ⟨c, more, eq, -, bracket, -⟩ := starts
      rw [eq, List.cons_append] at items
      rw [eq]
      simp [bracket, items]
  | map keys distinct each ih =>
    rename_i entries
    rw [render_map_toList]
    refine ReadsAs.intro (Starts.of_head (by decide) (by decide) (by decide)) fun fuel rest room _ => ?_
    rw [sortKeys_map]
    simp only [List.cons_append, List.append_assoc, readValue]
    have perm := List.mergeSort_perm entries keyOrder
    generalize entries.mergeSort keyOrder = sorted at perm room ⊢
    cases sorted with
    | nil => simp [(Ends.brace rest).dropBlanks_eq]
    | cons e es =>
      have inEntries : ∀ d ∈ e :: es, d ∈ entries := fun d mem => perm.subset mem
      have starts : Starts ([','].intercalate
          ((e :: es).map (entryChars fun v => (render none (level + 1) v).toList))) :=
        Starts.joined (by simp) fun d _ => starts_entryChars _ d
      simp only [List.length_cons, List.length_append] at room
      have enough : ([','].intercalate
          ((e :: es).map (entryChars fun v => (render none (level + 1) v).toList))).length + 1 < fuel := by
        omega
      have members := readMembers_joined (fun d mem => keys d (inEntries d mem))
        ((perm.map _).nodup_iff.mpr distinct) (fun d mem => ih d (inEntries d mem) (level + 1))
        (by simp) (fun d _ => List.any_nil) enough rest
      rw [starts.dropBlanks_append]
      obtain ⟨c, more, eq, -, -, brace⟩ := starts
      rw [eq, List.cons_append] at members
      rw [eq]
      simp [brace, members]

theorem decode_compact {v : Value} (strict : Strict v) : decode (compact v) = some (sortKeys v) := by
  obtain ⟨starts, reads⟩ := render_readsAs strict 0
  have whole := reads ((render none 0 v).length + 1) [] (by rw [String.length_toList]; omega)
    (by simp [Ends])
  have front := starts.dropBlanks_append []
  rw [List.append_nil] at whole front
  rw [decode, compact, front, whole]
  rfl

/-! ## No control characters -/

theorem digit_printable {c : Char} (digit : c.isDigit = true) : 0x20 ≤ c.toNat := by
  simp only [Char.isDigit, Bool.and_eq_true, decide_eq_true_eq] at digit
  have : 48 ≤ c.toNat ∧ c.toNat ≤ 57 := digit
  omega

theorem hexDigit_printable : ∀ d < 16, 0x20 ≤ (hexDigit d).toNat := by decide

theorem hexDigits_printable (n w : Nat) : ∀ c ∈ hexDigits n w, 0x20 ≤ c.toNat := by
  induction w generalizing n with
  | zero => simp [hexDigits]
  | succ w ih =>
    intro c mem
    rw [hexDigits, List.mem_append, List.mem_singleton] at mem
    rcases mem with inner | rfl
    · exact ih _ c inner
    · exact hexDigit_printable _ (Nat.mod_lt _ (by norm_num))

theorem escapeChar_printable (c : Char) : ∀ d ∈ escapeChar c, 0x20 ≤ d.toNat := by
  unfold escapeChar
  split_ifs with quote backslash newline ret tab back feed control <;> simp
  · exact hexDigits_printable _ _
  · omega

theorem string_printable (s : String) : ∀ c ∈ (string s).toList, 0x20 ≤ c.toNat := by
  intro c mem
  simp only [string_toList, List.mem_cons, List.mem_append, List.mem_flatMap, List.not_mem_nil,
    or_false] at mem
  rcases mem with rfl | ⟨a, -, escape⟩ | rfl
  · simp
  · exact escapeChar_printable a c escape
  · simp

theorem toString_printable (i : Int) : ∀ c ∈ (toString i).toList, 0x20 ≤ c.toNat := by
  intro c mem
  rw [toList_toString_int, List.mem_append] at mem
  rcases mem with sign | digits
  · split at sign <;> simp_all
  · exact digit_printable (decimalDigits_digits _ c digits)

theorem Binary64.isFinite_of_not {x : Binary64} (nan : x.isNaN = false) (inf : x.isInfinite = false) :
    x.isFinite = true := by
  simp only [Binary64.isNaN, Binary64.isInfinite, Binary64.isFinite] at *
  by_cases top : x.biasedExponent = 2047 <;> simp_all

theorem number_printable (x : Binary64) : ∀ c ∈ (number x).toList, 0x20 ≤ c.toNat := by
  unfold number
  split
  · simp
  split
  · split <;> simp
  · rename_i nan inf
    obtain ⟨n, wf, chars, -⟩ := Binary64.text_numeral
      (Binary64.isFinite_of_not (by simpa using nan) (by simpa using inf))
    intro c mem
    rw [chars] at mem
    rcases Numeral.mem_chars wf c mem with digit | symbol
    · exact digit_printable digit
    · simp only [List.mem_cons, List.not_mem_nil, or_false] at symbol
      rcases symbol with rfl | rfl | rfl | rfl <;> simp

theorem joined_printable {ls : List (List Char)} (each : ∀ l ∈ ls, ∀ c ∈ l, 0x20 ≤ c.toNat) :
    ∀ c ∈ [','].intercalate ls, 0x20 ≤ c.toNat := by
  induction ls with
  | nil => simp
  | cons l rest ih =>
    have others := ih fun m mem => each m (List.mem_cons_of_mem l mem)
    cases rest with
    | nil => simpa using each l List.mem_cons_self
    | cons m rest =>
      intro c mem
      rw [List.intercalate_cons_cons, List.mem_append, List.mem_append, List.mem_singleton] at mem
      rcases mem with (first | rfl) | later
      · exact each l List.mem_cons_self c first
      · simp
      · exact others c later

theorem enclose_printable {o c : String} (level : Nat) {items : List String}
    (ends : ∀ d ∈ (o ++ c).toList, 0x20 ≤ d.toNat) (each : ∀ t ∈ items, ∀ d ∈ t.toList, 0x20 ≤ d.toNat) :
    ∀ d ∈ (enclose none level o c items).toList, 0x20 ≤ d.toNat := by
  intro d mem
  rw [enclose_none, String.toList_append, String.toList_append, String.toList_intercalate,
    List.mem_append, List.mem_append] at mem
  rw [String.toList_append] at ends
  rcases mem with (opening | inner) | closing
  · exact ends d (List.mem_append_left _ opening)
  · refine joined_printable (fun l mem => ?_) d inner
    obtain ⟨t, inItems, rfl⟩ := List.mem_map.mp mem
    exact each t inItems
  · exact ends d (List.mem_append_right _ closing)

mutual
theorem render_printable : ∀ (level : Nat) (v : Value), ∀ c ∈ (render none level v).toList, 0x20 ≤ c.toNat
  | _, .none => by simp [render]
  | _, .bool b => by cases b <;> simp [render]
  | _, .int i => toString_printable i
  | _, .float x => number_printable x
  | _, .str s => string_printable s
  | _, .password _ => string_printable _
  | _, .required => string_printable _
  | level, .list items => enclose_printable level (by simp) (renderItems_printable level items)
  | level, .tuple items => enclose_printable level (by simp) (renderItems_printable level items)
  | level, .map entries => enclose_printable level (by simp) fun t mem => by
      obtain ⟨e, inEntries, rfl⟩ := List.mem_map.mp mem
      exact renderEntries_printable level entries e
        ((List.mergeSort_perm _ _).subset inEntries)
  | _, .bytes _ => string_printable _
  | _, .set _ => string_printable _
  | _, .date _ => string_printable _
  | _, .time _ => string_printable _
  | _, .datetime _ _ => string_printable _

theorem renderItems_printable : ∀ (level : Nat) (items : List Value),
    ∀ t ∈ renderItems none level items, ∀ c ∈ t.toList, 0x20 ≤ c.toNat
  | _, [] => by simp [renderItems]
  | level, v :: rest => by
    intro t mem
    rw [renderItems, List.mem_cons] at mem
    rcases mem with rfl | later
    · exact render_printable (level + 1) v
    · exact renderItems_printable level rest t later

theorem renderEntries_printable : ∀ (level : Nat) (entries : List (Value × Value)),
    ∀ e ∈ renderEntries none level entries, ∀ c ∈ e.2.toList, 0x20 ≤ c.toNat
  | _, [] => by simp [renderEntries]
  | level, (k, v) :: rest => by
    intro e mem
    rw [renderEntries, List.mem_cons] at mem
    rcases mem with rfl | later
    · intro c mem
      simp only [Option.isSome_none, Bool.false_eq_true, if_false, String.toList_append,
        List.mem_append] at mem
      rcases mem with (key | colon) | value
      · exact string_printable _ c key
      · revert c
        simp
      · exact render_printable (level + 1) v c value
    · exact renderEntries_printable level rest e later
end

theorem compact_printable (v : Value) : ∀ c ∈ (compact v).toList, 0x20 ≤ c.toNat :=
  render_printable 0 v

end RestConfig.Json

import RestConfig.Log.Redact
import Mathlib.Data.List.TakeWhile

/-!
# Masking assignments in a text

The scan that hides secrets in a text looks, at each position where a word starts or ends,
for an *assignment*: a run of word characters and dots ending with a keyword, blanks, `:` or
`=`, blanks, and a value of characters other than blanks, commas and semicolons, taken as
long as it goes. It writes the run, the sign and the mask `***REDACTED***` in place of the
assignment and goes on after it.

A masked assignment reads back as itself: the run is kept, no blank stands around the sign,
and the mask is a whole value. Nothing else changes either. An attempt that failed at a
position fails there again after masking, since masking only rewrites text from the start
of a run, which a failed attempt reaches only through that run's first character. So every
assignment found anywhere in a masked text, even one starting inside the run of another, has
the mask as its value and no blanks around its sign, and scanning a masked text gives it
back.

Main statements: `Redact.settled_redactText`, `Redact.redactText_redactText`.
-/

namespace RestConfig.Redact

open RestConfig.Text

/-! ## Characters -/

theorem not_alphanumeric_of_blank {c : Char} (blank : isBlank c = true) :
    isAlphanumeric c = false := by
  have codes : ∀ n ∈ [9, 10, 11, 12, 13, 28, 29, 30, 31, 32, 0x85, 0xA0, 0x1680, 0x2000, 0x2001,
      0x2002, 0x2003, 0x2004, 0x2005, 0x2006, 0x2007, 0x2008, 0x2009, 0x200A, 0x2028, 0x2029,
      0x202F, 0x205F, 0x3000], alphanumericRanges.any (fun r => r.1 ≤ n && n ≤ r.2) = false := by
    decide +kernel
  have listed : c.toNat ∈ [9, 10, 11, 12, 13, 28, 29, 30, 31, 32, 0x85, 0xA0, 0x1680, 0x2000,
      0x2001, 0x2002, 0x2003, 0x2004, 0x2005, 0x2006, 0x2007, 0x2008, 0x2009, 0x200A, 0x2028,
      0x2029, 0x202F, 0x205F, 0x3000] := by
    simp only [isBlank, Bool.or_eq_true, Bool.and_eq_true, decide_eq_true_eq, beq_iff_eq] at blank
    simp only [List.mem_cons, List.not_mem_nil, or_false]
    omega
  exact codes c.toNat listed

theorem runChar_not_blank {c : Char} (run : runChar c = true) : isBlank c = false := by
  cases blank : isBlank c with
  | false => rfl
  | true =>
    have word : isWordChar c = false := by
      have underscore : c ≠ '_' := by
        rintro rfl
        exact absurd blank (by decide)
      simp [isWordChar, underscore, not_alphanumeric_of_blank blank]
    have dot : c ≠ '.' := by
      rintro rfl
      exact absurd blank (by decide)
    simp [runChar, word, dot] at run

theorem runChar_of_blank {c : Char} (blank : isBlank c = true) : runChar c = false := by
  cases run : runChar c with
  | false => rfl
  | true => simp [runChar_not_blank run] at blank

theorem valueChar_not_blank {c : Char} (value : valueChar c = true) : isBlank c = false := by
  simp only [valueChar, Bool.and_eq_true, Bool.not_eq_true'] at value
  exact value.1.1

theorem head_not_blank_of_values {value after : List Char} (nonempty : value ≠ [])
    (values : ∀ c ∈ value, valueChar c = true) : ∀ c ∈ (value ++ after).head?, isBlank c = false := by
  intro c first
  obtain ⟨d, rest, split⟩ := List.exists_cons_of_ne_nil nonempty
  rw [split] at first values
  cases first
  exact valueChar_not_blank (values c List.mem_cons_self)

theorem valueChar_of_runChar {c : Char} (run : runChar c = true) : valueChar c = true := by
  have comma : c ≠ ',' := by
    rintro rfl
    exact absurd run (by decide +kernel)
  have semicolon : c ≠ ';' := by
    rintro rfl
    exact absurd run (by decide +kernel)
  simp [valueChar, runChar_not_blank run, comma, semicolon]

theorem runChar_of_not_value {c : Char} (stop : valueChar c = false) : runChar c = false := by
  cases run : runChar c with
  | false => rfl
  | true => rw [valueChar_of_runChar run] at stop; cases stop

/-- The signs of an assignment. -/
def IsSign (c : Char) : Prop := c = ':' ∨ c = '='

theorem IsSign.not_runChar {c : Char} (sign : IsSign c) : runChar c = false := by
  rcases sign with rfl | rfl <;> decide +kernel

theorem IsSign.not_blank {c : Char} (sign : IsSign c) : isBlank c = false := by
  rcases sign with rfl | rfl <;> decide

theorem not_sign_of_runChar {c : Char} (run : runChar c = true) : ¬ IsSign c := fun sign => by
  rw [sign.not_runChar] at run
  cases run

theorem hidden_chars : ∀ c ∈ hidden.toList, valueChar c = true ∧ isBlank c = false ∧ ¬ IsSign c := by
  -- checked as one Boolean over the mask, which the kernel evaluates in one pass
  have check : hidden.toList.all (fun c => valueChar c && !isBlank c && c != ':' && c != '=') = true := by
    decide +kernel
  intro c mem
  have each := List.all_eq_true.mp check c mem
  simp only [Bool.and_eq_true, Bool.not_eq_true', bne_iff_ne, ne_eq] at each
  exact ⟨each.1.1.1, each.1.1.2, fun sign => sign.elim each.1.2 each.2⟩

theorem hidden_getLast? : hidden.toList.getLast? = some '*' := by decide

/-! ## Longest runs -/

theorem takeWhile_exact {p : α → Bool} {body rest : List α} (inside : ∀ c ∈ body, p c = true)
    (stop : ∀ c ∈ rest.head?, p c = false) : (body ++ rest).takeWhile p = body := by
  rw [List.takeWhile_append_of_pos inside]
  cases rest with
  | nil => simp
  | cons c tail => simp [stop c rfl]

theorem dropWhile_exact {p : α → Bool} {body rest : List α} (inside : ∀ c ∈ body, p c = true)
    (stop : ∀ c ∈ rest.head?, p c = false) : (body ++ rest).dropWhile p = rest := by
  rw [List.dropWhile_append_of_pos inside]
  cases rest with
  | nil => rfl
  | cons c tail => simp [stop c rfl]

theorem eq_of_longest {p : α → Bool} {x y u v : List α} (hx : ∀ c ∈ x, p c = true)
    (hy : ∀ c ∈ y.head?, p c = false) (hu : ∀ c ∈ u, p c = true) (hv : ∀ c ∈ v.head?, p c = false)
    (same : x ++ y = u ++ v) : x = u ∧ y = v := by
  have runs : x = u := by
    rw [← takeWhile_exact hx hy, same, takeWhile_exact hu hv]
  subst runs
  exact ⟨rfl, List.append_cancel_left same⟩

theorem takeWhile_length_lt {p : α → Bool} {x : List α} (stops : ∃ c ∈ x, p c = false) :
    (x.takeWhile p).length < x.length := by
  induction x with
  | nil => simp at stops
  | cons c rest ih =>
    by_cases here : p c = true
    · rw [List.takeWhile_cons_of_pos here, List.length_cons, List.length_cons]
      have later : ∃ d ∈ rest, p d = false := by
        obtain ⟨d, mem, fails⟩ := stops
        rcases List.mem_cons.mp mem with rfl | inRest
        · rw [here] at fails
          cases fails
        · exact ⟨d, inRest, fails⟩
      exact Nat.succ_lt_succ (ih later)
    · rw [List.takeWhile_cons_of_neg here]
      simp

theorem takeWhile_append_of_stops {p : α → Bool} {x y : List α} (stops : ∃ c ∈ x, p c = false) :
    (x ++ y).takeWhile p = x.takeWhile p := by
  rw [List.takeWhile_append, if_neg (Nat.ne_of_lt (takeWhile_length_lt stops))]

/-! ## Keywords -/

theorem endsWithKeyword_ne_nil {run : List Char} (ends : endsWithKeyword run = true) : run ≠ [] := by
  rintro rfl
  revert ends
  decide

theorem endsWithKeyword_append {run : List Char} (x : List Char) (ends : endsWithKeyword run = true) :
    endsWithKeyword (x ++ run) = true := by
  unfold endsWithKeyword at *
  rw [List.any_eq_true] at *
  obtain ⟨kw, listed, fits⟩ := ends
  refine ⟨kw, listed, ?_⟩
  rw [Bool.and_eq_true, decide_eq_true_eq] at *
  obtain ⟨short, letters⟩ := fits
  have tail : (x ++ run).drop ((x ++ run).length - kw.length) = run.drop (run.length - kw.length) := by
    rw [List.drop_append, List.drop_eq_nil_of_le (by simp only [List.length_append]; omega),
      List.nil_append, List.length_append]
    congr 1
    omega
  refine ⟨by simp only [List.length_append]; omega, ?_⟩
  rw [tail]
  exact letters

/-! ## One assignment -/

/-- An assignment as the pattern reads it. -/
structure Assignment where
  run : List Char
  gapBefore : List Char
  sign : Char
  gapAfter : List Char
  value : List Char

namespace Assignment

/-- The text of an assignment. -/
def text (a : Assignment) : List Char := a.run ++ a.gapBefore ++ a.sign :: a.gapAfter ++ a.value

/-- The parts of an assignment have the shapes the pattern asks for. -/
structure Shaped (a : Assignment) : Prop where
  run : ∀ c ∈ a.run, runChar c = true
  keyword : endsWithKeyword a.run = true
  gapBefore : ∀ c ∈ a.gapBefore, isBlank c = true
  sign : IsSign a.sign
  gapAfter : ∀ c ∈ a.gapAfter, isBlank c = true
  value : a.value ≠ []
  valueChars : ∀ c ∈ a.value, valueChar c = true

/-- An assignment the pattern matches where it stands: shaped, starting at a word boundary
after the character before it, with its value as long as it goes. -/
structure Found (before : Option Char) (a : Assignment) (after : List Char) : Prop where
  shaped : a.Shaped
  boundary : ∀ c ∈ a.run.head?, boundary before c = true
  longest : ∀ c ∈ after.head?, valueChar c = false

/-- An assignment as masking writes it: no blank around the sign, and the mask as value. -/
def Masked (a : Assignment) : Prop :=
  a.gapBefore = [] ∧ a.gapAfter = [] ∧ a.value = hidden.toList

theorem Shaped.run_ne_nil {a : Assignment} (shaped : a.Shaped) : a.run ≠ [] :=
  endsWithKeyword_ne_nil shaped.keyword

theorem text_append (a : Assignment) (after : List Char) :
    a.text ++ after = a.run ++ (a.gapBefore ++ a.sign :: (a.gapAfter ++ a.value ++ after)) := by
  simp [text]

theorem Shaped.head?_text {a : Assignment} (shaped : a.Shaped) (after : List Char) :
    (a.text ++ after).head? = a.run.head? := by
  obtain ⟨d, rest, split⟩ := List.exists_cons_of_ne_nil shaped.run_ne_nil
  rw [text_append, split]
  rfl

theorem Shaped.head_runChar {a : Assignment} (shaped : a.Shaped) (after : List Char) :
    ∀ c ∈ (a.text ++ after).head?, runChar c = true := by
  intro c first
  rw [shaped.head?_text] at first
  exact shaped.run c (List.mem_of_mem_head? first)

theorem Shaped.blank_or_sign {a : Assignment} (shaped : a.Shaped) (z : List Char) :
    ∀ c ∈ (a.gapBefore ++ a.sign :: z).head?, isBlank c = true ∨ IsSign c := by
  intro c first
  cases gap : a.gapBefore with
  | nil =>
    rw [gap] at first
    cases first
    exact .inr shaped.sign
  | cons d rest =>
    rw [gap] at first
    cases first
    exact .inl (shaped.gapBefore c (by simp [gap]))

theorem Shaped.after_run {a : Assignment} (shaped : a.Shaped) (z : List Char) :
    ∀ c ∈ (a.gapBefore ++ a.sign :: z).head?, runChar c = false :=
  fun c first => (shaped.blank_or_sign z c first).elim runChar_of_blank IsSign.not_runChar

theorem text_ne_nil (a : Assignment) : a.text ≠ [] := by
  simp [text]

end Assignment

open Assignment

theorem drop_length_takeWhile (p : α → Bool) (l : List α) :
    l.drop (l.takeWhile p).length = l.dropWhile p :=
  calc l.drop (l.takeWhile p).length
      = (l.takeWhile p ++ l.dropWhile p).drop (l.takeWhile p).length := by
        rw [List.takeWhile_append_dropWhile]
    _ = l.dropWhile p := List.drop_left

/-! ## Reading one assignment -/

/-- What the pattern reads after an assignment's run: blanks, the sign, blanks and the
longest value; answers the sign and the text after the value. -/
def afterRun (t : List Char) : Option (Char × List Char) :=
  match t.dropWhile isBlank with
  | sign :: more =>
    if sign = ':' ∨ sign = '=' then
      let rest := more.dropWhile isBlank
      let value := rest.takeWhile valueChar
      if value.isEmpty then none else some (sign, rest.drop value.length)
    else none
  | [] => none

theorem assignment_eq (cs : List Char) :
    assignment cs = if endsWithKeyword (cs.takeWhile runChar) then
      (afterRun (cs.drop (cs.takeWhile runChar).length)).map fun p => (cs.takeWhile runChar, p.1, p.2)
    else none := by
  unfold assignment afterRun
  by_cases ends : endsWithKeyword (cs.takeWhile runChar) = true
  · simp only [ends, Bool.not_true, Bool.false_eq_true, if_false, if_true]
    cases (cs.drop (cs.takeWhile runChar).length).dropWhile isBlank with
    | nil => rfl
    | cons sign more =>
      by_cases signed : sign = ':' ∨ sign = '='
      · by_cases empty : ((more.dropWhile isBlank).takeWhile valueChar).isEmpty = true
        · simp only [signed, empty, if_true, Option.map_none]
        · simp only [signed, empty, Bool.false_eq_true, if_true, if_false, Option.map_some]
      · simp only [signed, if_false, Option.map_none]
  · simp only [ends, Bool.not_false, Bool.false_eq_true, if_true, if_false]

theorem afterRun_text {gap₁ gap₂ value after : List Char} {sign : Char}
    (blanks₁ : ∀ c ∈ gap₁, isBlank c = true) (signed : IsSign sign)
    (blanks₂ : ∀ c ∈ gap₂, isBlank c = true) (nonempty : value ≠ [])
    (values : ∀ c ∈ value, valueChar c = true) (longest : ∀ c ∈ after.head?, valueChar c = false) :
    afterRun (gap₁ ++ sign :: (gap₂ ++ value ++ after)) = some (sign, after) := by
  unfold afterRun
  rw [dropWhile_exact blanks₁ (fun c first => by cases first; exact signed.not_blank)]
  simp only [show sign = ':' ∨ sign = '=' from signed, if_true, List.append_assoc]
  rw [dropWhile_exact blanks₂ (head_not_blank_of_values nonempty values),
    takeWhile_exact values longest]
  have full : value.isEmpty = false := by simpa using nonempty
  simp [full]

theorem afterRun_some {t after : List Char} {sign : Char} (read : afterRun t = some (sign, after)) :
    ∃ gap₁ gap₂ value, t = gap₁ ++ sign :: (gap₂ ++ value ++ after) ∧
      (∀ c ∈ gap₁, isBlank c = true) ∧ IsSign sign ∧ (∀ c ∈ gap₂, isBlank c = true) ∧
      value ≠ [] ∧ (∀ c ∈ value, valueChar c = true) ∧ (∀ c ∈ after.head?, valueChar c = false) := by
  unfold afterRun at read
  split at read
  · rename_i s more stripped
    split at read
    · rename_i signed
      simp only at read
      split at read
      · cases read
      · rename_i full
        simp only [Option.some.injEq, Prod.mk.injEq] at read
        obtain ⟨rfl, rfl⟩ := read
        refine ⟨t.takeWhile isBlank, more.takeWhile isBlank,
          (more.dropWhile isBlank).takeWhile valueChar, ?_, fun c mem => List.mem_takeWhile_imp mem,
          signed, fun c mem => List.mem_takeWhile_imp mem, by simpa using full,
          fun c mem => List.mem_takeWhile_imp mem, ?_⟩
        · rw [drop_length_takeWhile, List.append_assoc, List.takeWhile_append_dropWhile,
            List.takeWhile_append_dropWhile, ← stripped, List.takeWhile_append_dropWhile]
        · rw [drop_length_takeWhile]
          intro c first
          have stops := List.head?_dropWhile_not valueChar (more.dropWhile isBlank)
          rw [first] at stops
          exact stops
    · cases read
  · cases read

/-- After the run, whether an assignment is read is decided before a character that is no
blank, no sign and a value character: what follows it does not matter. -/
theorem afterRun_isSome_congr {w w' : List Char} {h : Char} (first : w.head? = some h)
    (first' : w'.head? = some h) (blank : isBlank h = false) (unsigned : ¬ IsSign h)
    (value : valueChar h = true) (y : List Char) :
    (afterRun (y ++ w)).isSome = (afterRun (y ++ w')).isSome := by
  obtain ⟨t, rfl⟩ : ∃ t, w = h :: t := by
    cases w with
    | nil => cases first
    | cons d t => cases first; exact ⟨t, rfl⟩
  obtain ⟨t', rfl⟩ : ∃ t', w' = h :: t' := by
    cases w' with
    | nil => cases first'
    | cons d t' => cases first'; exact ⟨t', rfl⟩
  have unsigned' : ¬ (h = ':' ∨ h = '=') := unsigned
  have valueSame : ∀ z : List Char,
      (((z ++ h :: t).dropWhile isBlank).takeWhile valueChar).isEmpty =
        (((z ++ h :: t').dropWhile isBlank).takeWhile valueChar).isEmpty := by
    intro z
    induction z with
    | nil => simp [List.dropWhile_cons_of_neg, blank, value]
    | cons e z ih =>
      by_cases skip : isBlank e = true
      · simpa [List.dropWhile_cons_of_pos skip] using ih
      · cases runs : valueChar e <;> simp [List.dropWhile_cons_of_neg skip, runs]
  induction y with
  | nil => simp [afterRun, List.dropWhile_cons_of_neg, blank, unsigned']
  | cons e y ih =>
    by_cases skip : isBlank e = true
    · simpa [afterRun, List.dropWhile_cons_of_pos skip] using ih
    · simp only [afterRun, List.cons_append, List.dropWhile_cons_of_neg skip]
      by_cases signed : e = ':' ∨ e = '='
      · simp only [signed, if_true]
        have same := valueSame y
        split <;> split <;> simp_all
      · simp [signed]

theorem assignment_text {a : Assignment} (shaped : a.Shaped) {after : List Char}
    (longest : ∀ c ∈ after.head?, valueChar c = false) :
    assignment (a.text ++ after) = some (a.run, a.sign, after) := by
  have run : (a.text ++ after).takeWhile runChar = a.run := by
    rw [text_append]
    exact takeWhile_exact shaped.run (shaped.after_run _)
  rw [assignment_eq, run, if_pos shaped.keyword, text_append, List.drop_left,
    afterRun_text shaped.gapBefore shaped.sign shaped.gapAfter shaped.value shaped.valueChars
      longest]
  rfl

theorem assignment_some {cs run after : List Char} {sign : Char}
    (read : assignment cs = some (run, sign, after)) :
    ∃ a : Assignment, a.Shaped ∧ a.run = run ∧ a.sign = sign ∧ cs = a.text ++ after ∧
      ∀ c ∈ after.head?, valueChar c = false := by
  rw [assignment_eq] at read
  split at read
  · rename_i ends
    obtain ⟨⟨s, rest⟩, tail, same⟩ := Option.map_eq_some_iff.mp read
    simp only [Prod.mk.injEq] at same
    obtain ⟨rfl, rfl, rfl⟩ := same
    obtain ⟨gap₁, gap₂, value, split, blanks₁, signed, blanks₂, nonempty, values, longest⟩ :=
      afterRun_some tail
    refine ⟨⟨cs.takeWhile runChar, gap₁, s, gap₂, value⟩,
      ⟨fun c mem => List.mem_takeWhile_imp mem, ends, blanks₁, signed, blanks₂, nonempty, values⟩,
      rfl, rfl, ?_, longest⟩
    calc cs = cs.takeWhile runChar ++ cs.drop (cs.takeWhile runChar).length := by
          rw [drop_length_takeWhile, List.takeWhile_append_dropWhile]
      _ = _ := by rw [split]; simp [text]
  · cases read

theorem assignment_append_run {x w run after : List Char} {sign : Char}
    (runs : ∀ c ∈ x, runChar c = true) (read : assignment w = some (run, sign, after)) :
    assignment (x ++ w) = some (x ++ run, sign, after) := by
  obtain ⟨a, shaped, rfl, rfl, rfl, longest⟩ := assignment_some read
  have longer : (⟨x ++ a.run, a.gapBefore, a.sign, a.gapAfter, a.value⟩ : Assignment).Shaped :=
    ⟨fun c mem => (List.mem_append.mp mem).elim (runs c) (shaped.run c),
      endsWithKeyword_append x shaped.keyword, shaped.gapBefore, shaped.sign, shaped.gapAfter,
      shaped.value, shaped.valueChars⟩
  have text : x ++ (a.text ++ after) =
      (⟨x ++ a.run, a.gapBefore, a.sign, a.gapAfter, a.value⟩ : Assignment).text ++ after := by
    simp [text]
  rw [text, assignment_text longer longest]

/-- Whether an assignment is read from a text with a character outside the run class does not
depend on what comes after it, as long as what comes after starts with a run character. -/
theorem assignment_isSome_congr {x w w' : List Char} {h : Char}
    (stops : ∃ c ∈ x, runChar c = false) (first : w.head? = some h) (first' : w'.head? = some h)
    (run : runChar h = true) :
    (assignment (x ++ w)).isSome = (assignment (x ++ w')).isSome := by
  have within : (x.takeWhile runChar).length ≤ x.length := (takeWhile_length_lt stops).le
  rw [assignment_eq, assignment_eq, takeWhile_append_of_stops stops, takeWhile_append_of_stops stops,
    List.drop_append_of_le_length within, List.drop_append_of_le_length within]
  split
  · rw [Option.isSome_map, Option.isSome_map]
    exact afterRun_isSome_congr first first' (runChar_not_blank run) (not_sign_of_runChar run)
      (valueChar_of_runChar run) _
  · rfl

theorem assignment_of_head {c : Char} {cs : List Char} (stop : runChar c = false) :
    assignment (c :: cs) = none := by
  rw [assignment_eq, List.takeWhile_cons_of_neg (by simp [stop])]
  rfl

/-! ## The scan -/

theorem hideValues_nil (n : Nat) (b : Option Char) : hideValues n b [] = [] := by
  cases n <;> rfl

theorem length_le_of_text {a : Assignment} {c : Char} {cs rest : List Char} {n : Nat}
    (split : c :: cs = a.text ++ rest) (fits : (c :: cs).length ≤ n + 1) : rest.length ≤ n := by
  have whole := congrArg List.length split
  have long : 0 < a.text.length := List.length_pos_iff.mpr (text_ne_nil a)
  simp only [List.length_cons, List.length_append] at whole fits
  omega

theorem hideValues_cons_of_none {n : Nat} {b : Option Char} {c : Char} {cs : List Char}
    (miss : boundary b c = false ∨ assignment (c :: cs) = none) :
    hideValues (n + 1) b (c :: cs) = c :: hideValues n (some c) cs := by
  rcases miss with edge | miss
  · simp only [hideValues, edge, Bool.false_eq_true, if_false]
  · simp only [hideValues, miss, ite_self]

theorem hideValues_cons_of_stop {n : Nat} {b : Option Char} {c : Char} {cs : List Char}
    (stop : runChar c = false) : hideValues (n + 1) b (c :: cs) = c :: hideValues n (some c) cs :=
  hideValues_cons_of_none (.inr (assignment_of_head stop))

/-- Where an assignment is read, the scan writes its run, its sign and the mask, and goes on
after the value, remembering a character before the rest that is not looked at again. -/
theorem hideValues_cons_of_some {n : Nat} {b : Option Char} {c : Char} {cs run rest : List Char}
    {sign : Char} (edge : boundary b c = true) (hit : assignment (c :: cs) = some (run, sign, rest)) :
    ∃ last, hideValues (n + 1) b (c :: cs) = run ++ sign :: (hidden.toList ++ hideValues n last rest) := by
  refine ⟨((c :: cs).take ((c :: cs).length - rest.length)).getLast?, ?_⟩
  simp only [hideValues, edge, hit, if_true]
  simp

theorem head?_hideValues {n : Nat} {b : Option Char} {t : List Char}
    (stop : ∀ c ∈ t.head?, runChar c = false) : (hideValues n b t).head? = t.head? := by
  cases n with
  | zero => rfl
  | succ n =>
    cases t with
    | nil => rfl
    | cons c cs => rw [hideValues_cons_of_stop (stop c rfl)]; rfl

/-- The scan copies its text, or copies a part of it and then masks an assignment; the text
from there and what the scan writes from there start with the same run character. -/
theorem hideValues_cases (n : Nat) (b : Option Char) (t : List Char) :
    hideValues n b t = t ∨ ∃ u w w' h, t = u ++ w ∧ hideValues n b t = u ++ w' ∧
      (assignment w).isSome ∧ w.head? = some h ∧ w'.head? = some h ∧ runChar h = true := by
  induction n generalizing b t with
  | zero => exact .inl rfl
  | succ n ih =>
    cases t with
    | nil => exact .inl (hideValues_nil _ b)
    | cons c cs =>
      by_cases edge : boundary b c = true
      · cases hit : assignment (c :: cs) with
        | some found =>
          obtain ⟨run, sign, rest⟩ := found
          obtain ⟨last, masked⟩ := hideValues_cons_of_some (n := n) edge hit
          obtain ⟨a, shaped, rfl, -, split, -⟩ := assignment_some hit
          have first : a.run.head? = some c := by rw [← shaped.head?_text rest, ← split]; rfl
          refine .inr ⟨[], c :: cs, _, c, rfl, masked, by simp [hit], rfl, ?_, ?_⟩
          · obtain ⟨d, more, runs⟩ := List.exists_cons_of_ne_nil shaped.run_ne_nil
            rw [runs] at first ⊢
            exact first
          · exact shaped.run c (List.mem_of_mem_head? first)
        | none =>
          rw [hideValues_cons_of_none (.inr hit)]
          rcases ih (some c) cs with same | ⟨u, w, w', h, split, out, found, first, first', run⟩
          · exact .inl (by rw [same])
          · exact .inr ⟨c :: u, w, w', h, by rw [split]; rfl, by rw [out]; rfl, found, first, first', run⟩
      · rw [hideValues_cons_of_none (.inl (by simpa using edge))]
        rcases ih (some c) cs with same | ⟨u, w, w', h, split, out, found, first, first', run⟩
        · exact .inl (by rw [same])
        · exact .inr ⟨c :: u, w, w', h, by rw [split]; rfl, by rw [out]; rfl, found, first, first', run⟩

/-- Scanning the rest of a text does not make an assignment appear in front of it where none
was read: the scan only rewrites text from the start of a run. -/
theorem assignment_hideValues {x t : List Char} (n : Nat) (b : Option Char)
    (miss : assignment (x ++ t) = none) : assignment (x ++ hideValues n b t) = none := by
  rcases hideValues_cases n b t with same | ⟨u, w, w', h, rfl, out, found, first, first', run⟩
  · rw [same, miss]
  · rw [out, ← List.append_assoc]
    rw [← List.append_assoc] at miss
    by_cases stops : ∃ c ∈ x ++ u, runChar c = false
    · have same := assignment_isSome_congr stops first first' run
      rw [miss] at same
      cases read : assignment (x ++ u ++ w') with
      | none => rfl
      | some _ => rw [read] at same; cases same
    · have runs : ∀ c ∈ x ++ u, runChar c = true := fun c mem => by
        cases r : runChar c
        · exact absurd ⟨c, mem, r⟩ stops
        · rfl
      obtain ⟨⟨run', sign, rest⟩, hit⟩ := Option.isSome_iff_exists.mp found
      rw [assignment_append_run runs hit] at miss
      cases miss

/-! ## Settled texts -/

/-- Every assignment the pattern matches in the text, wherever it starts, is masked. -/
def Settled (before : Option Char) (t : List Char) : Prop :=
  ∀ (pre : List Char) (a : Assignment) (after : List Char),
    t = pre ++ a.text ++ after → a.Found (pre.getLast?.or before) after → a.Masked

theorem settled_nil (b : Option Char) : Settled b [] := by
  intro pre a after split
  have : a.text = [] := by
    have := congrArg List.length split
    simp only [List.length_nil, List.length_append] at this
    exact List.eq_nil_of_length_eq_zero (by omega)
  exact absurd this (text_ne_nil a)

theorem Settled.drop {b : Option Char} {p t : List Char} (settled : Settled b (p ++ t)) :
    Settled (p.getLast?.or b) t := by
  intro pre a after split found
  refine settled (p ++ pre) a after (by rw [split]; simp) ?_
  rwa [List.getLast?_append, Option.or_assoc]

theorem Settled.of_stop {b b' : Option Char} {t : List Char} (settled : Settled b t)
    (stop : ∀ c ∈ t.head?, runChar c = false) : Settled b' t := by
  intro pre a after split found
  cases pre with
  | nil =>
    have run := found.shaped.head_runChar after
    rw [List.nil_append] at split
    rw [← split] at run
    cases first : t.head? with
    | none =>
      have := found.shaped.head?_text after
      rw [← split, first] at this
      exact absurd this.symm (by simpa using found.shaped.run_ne_nil)
    | some c =>
      have := stop c first
      rw [run c first] at this
      cases this
  | cons d pre =>
    refine settled (d :: pre) a after split ?_
    cases last : (d :: pre).getLast? with
    | none => simp at last
    | some e =>
      rw [last] at found
      simpa using found

theorem settled_of_unsigned {b : Option Char} {t : List Char} (unsigned : ∀ c ∈ t, ¬ IsSign c) :
    Settled b t := by
  intro pre a after split found
  have mem : a.sign ∈ t := by
    rw [split]
    simp [text]
  exact absurd found.shaped.sign (unsigned a.sign mem)

theorem Settled.cons {b : Option Char} {c : Char} {t : List Char}
    (front : ∀ (a : Assignment) after, c :: t = a.text ++ after → a.Found b after → a.Masked)
    (settled : Settled (some c) t) : Settled b (c :: t) := by
  intro pre a after split found
  cases pre with
  | nil => exact front a after split found
  | cons d pre =>
    simp only [List.cons_append, List.cons.injEq] at split
    obtain ⟨rfl, split⟩ := split
    refine settled pre a after split ?_
    rw [List.getLast?_cons] at found
    cases last : pre.getLast? <;> simp_all

/-! ## What the scan writes -/

theorem Assignment.Shaped.ne_of_stop {a : Assignment} (shaped : a.Shaped) {after out : List Char}
    (stop : ∀ c ∈ out.head?, runChar c = false) : a.text ++ after ≠ out := by
  intro same
  cases out with
  | nil => exact text_ne_nil a (List.append_eq_nil_iff.mp same).1
  | cons c out =>
    have run := shaped.head_runChar after c (by rw [same]; rfl)
    rw [stop c rfl] at run
    cases run

/-- No assignment starts inside the mask: a text of characters that are neither blanks nor
signs, with a character off the run class, never begins an assignment. -/
theorem Assignment.Shaped.ne_of_inert {a : Assignment} (shaped : a.Shaped) {after m out : List Char}
    (inert : ∀ c ∈ m, isBlank c = false ∧ ¬ IsSign c) (stops : ∃ c ∈ m, runChar c = false) :
    a.text ++ after ≠ m ++ out := by
  intro same
  obtain ⟨d, rest, dropped⟩ := List.exists_cons_of_ne_nil (show m.dropWhile runChar ≠ [] by
    rw [Ne, List.dropWhile_eq_nil_iff]
    obtain ⟨c, mem, stop⟩ := stops
    exact fun all => by simp [all c mem] at stop)
  have stop : runChar d = false := by
    have := List.head?_dropWhile_not runChar m
    rw [dropped] at this
    exact this
  have mem : d ∈ m := (List.dropWhile_suffix runChar).subset (by rw [dropped]; exact List.mem_cons_self)
  have split : m ++ out = m.takeWhile runChar ++ d :: (rest ++ out) := by
    rw [← List.cons_append, ← dropped, ← List.append_assoc, List.takeWhile_append_dropWhile]
  rw [text_append, split] at same
  obtain ⟨-, tail⟩ := eq_of_longest shaped.run (shaped.after_run _)
    (fun c mem => List.mem_takeWhile_imp mem) (fun c first => by cases first; exact stop) same
  have front := shaped.blank_or_sign _ d (by rw [tail]; rfl)
  rcases front with blank | signed
  · rw [(inert d mem).1] at blank
    cases blank
  · exact (inert d mem).2 signed

theorem Assignment.Shaped.masked_of_eq {a : Assignment} (shaped : a.Shaped) {after r out : List Char}
    {sign : Char} (runs : ∀ c ∈ r, runChar c = true) (signed : IsSign sign)
    (longest : ∀ c ∈ after.head?, valueChar c = false)
    (stop : ∀ c ∈ out.head?, valueChar c = false)
    (same : a.text ++ after = r ++ sign :: (hidden.toList ++ out)) : a.Masked := by
  rw [text_append] at same
  obtain ⟨-, same⟩ := eq_of_longest shaped.run (shaped.after_run _) runs
    (fun c first => by cases first; exact signed.not_runChar) same
  obtain ⟨gap, same⟩ := eq_of_longest (u := []) shaped.gapBefore
    (fun c first => by cases first; exact shaped.sign.not_blank) (fun c mem => by cases mem)
    (fun c first => by cases first; exact signed.not_blank) same
  simp only [List.cons.injEq, List.append_assoc] at same
  obtain ⟨-, same⟩ := same
  have maskStart : ∀ c ∈ (hidden.toList ++ out).head?, isBlank c = false :=
    head_not_blank_of_values (by decide) fun c mem => (hidden_chars c mem).1
  obtain ⟨gap', same⟩ := eq_of_longest (u := []) shaped.gapAfter
    (head_not_blank_of_values shaped.value shaped.valueChars) (fun c mem => by cases mem)
    maskStart same
  obtain ⟨value, -⟩ := eq_of_longest shaped.valueChars longest
    (fun c mem => (hidden_chars c mem).1) stop same
  exact ⟨gap, gap', value⟩

theorem getLast?_masked (run : List Char) (sign : Char) :
    (run ++ sign :: hidden.toList).getLast? = some '*' := by
  rw [List.getLast?_append, List.getLast?_cons, hidden_getLast?]
  rfl

theorem settled_masked {b : Option Char} {run out : List Char} {sign : Char}
    (runs : ∀ c ∈ run, runChar c = true) (signed : IsSign sign)
    (stop : ∀ c ∈ out.head?, valueChar c = false) (settled : Settled (some '*') out) :
    Settled b (run ++ sign :: (hidden.toList ++ out)) := by
  intro pre a after split found
  have whole : pre ++ (a.text ++ after) = (run ++ sign :: hidden.toList) ++ out := by
    rw [← List.append_assoc, ← split]
    simp
  rcases List.append_eq_append_iff.mp whole with ⟨m, mask, same⟩ | ⟨m, rfl, rest⟩
  · rcases List.append_eq_append_iff.mp mask with ⟨m', rfl, written⟩ | ⟨r, rfl, rfl⟩
    · cases m' with
      | nil =>
        refine found.shaped.masked_of_eq (r := []) (fun c mem => by cases mem) signed
          found.longest stop ?_
        rw [same]
        simp only [List.nil_append] at written ⊢
        rw [← written]
        rfl
      | cons d m' =>
        simp only [List.cons_append, List.cons.injEq] at written
        obtain ⟨-, written⟩ := written
        cases m with
        | nil =>
          exact absurd same (found.shaped.ne_of_stop fun c first => runChar_of_not_value (stop c first))
        | cons e m =>
          have inside : ∀ c ∈ e :: m, c ∈ hidden.toList := fun c mem => by
            rw [written]
            exact List.mem_append_right _ mem
          have star : '*' ∈ e :: m := by
            have := hidden_getLast?
            simp only [written, List.getLast?_append, List.getLast?_cons, Option.some_or] at this
            rw [← List.getLast?_cons] at this
            exact List.mem_of_getLast? this
          exact absurd same (found.shaped.ne_of_inert
            (fun c mem => ((hidden_chars c (inside c mem)).2))
            ⟨'*', star, by decide +kernel⟩)
    · exact found.shaped.masked_of_eq (fun c mem => runs c (List.mem_append_right _ mem)) signed
        found.longest stop (by rw [same]; simp)
  · refine settled m a after (by rw [rest]; simp) ?_
    have before := found
    rw [List.getLast?_append, getLast?_masked] at before
    cases last : m.getLast? <;> simpa [last] using before

theorem settled_hideValues {n : Nat} {b : Option Char} {t : List Char} (fits : t.length ≤ n) :
    Settled b (hideValues n b t) := by
  induction n generalizing b t with
  | zero =>
    rw [List.eq_nil_of_length_eq_zero (Nat.le_zero.mp fits)]
    exact settled_nil b
  | succ n ih =>
    cases t with
    | nil =>
      rw [hideValues_nil]
      exact settled_nil b
    | cons c cs =>
      by_cases edge : boundary b c = true
      · cases hit : assignment (c :: cs) with
        | some found =>
          obtain ⟨run, sign, rest⟩ := found
          obtain ⟨last, masked⟩ := hideValues_cons_of_some (n := n) edge hit
          obtain ⟨a, shaped, rfl, rfl, split, longest⟩ := assignment_some hit
          have stop : ∀ c ∈ rest.head?, runChar c = false :=
            fun c first => runChar_of_not_value (longest c first)
          rw [masked]
          refine settled_masked shaped.run shaped.sign ?_
            ((ih (length_le_of_text split fits)).of_stop ?_)
          · rw [head?_hideValues stop]
            exact longest
          · rw [head?_hideValues stop]
            exact stop
        | none =>
          rw [hideValues_cons_of_none (.inr hit)]
          refine (ih (Nat.le_of_succ_le_succ fits)).cons fun a after same found => ?_
          have read := assignment_text found.shaped found.longest
          have missed := assignment_hideValues (x := [c]) n (some c) hit
          rw [← same] at read
          cases read.symm.trans missed
      · rw [hideValues_cons_of_none (.inl (by simpa using edge))]
        refine (ih (Nat.le_of_succ_le_succ fits)).cons fun a after same found => ?_
        have first : a.run.head? = some c := by rw [← found.shaped.head?_text after, ← same]; rfl
        exact absurd (found.boundary c first) edge

theorem hideValues_of_settled {n : Nat} {b : Option Char} {t : List Char} (fits : t.length ≤ n)
    (settled : Settled b t) : hideValues n b t = t := by
  induction n generalizing b t with
  | zero => rfl
  | succ n ih =>
    cases t with
    | nil => exact hideValues_nil _ b
    | cons c cs =>
      by_cases edge : boundary b c = true
      · cases hit : assignment (c :: cs) with
        | some found =>
          obtain ⟨run, sign, rest⟩ := found
          obtain ⟨last, masked⟩ := hideValues_cons_of_some (n := n) edge hit
          obtain ⟨a, shaped, rfl, rfl, split, longest⟩ := assignment_some hit
          have first : a.run.head? = some c := by rw [← shaped.head?_text rest, ← split]; rfl
          have stop : ∀ c ∈ rest.head?, runChar c = false :=
            fun c first => runChar_of_not_value (longest c first)
          obtain ⟨gap, gap', value⟩ := settled [] a rest (by rw [split]; rfl)
            ⟨shaped, fun d mem => by rw [first] at mem; cases mem; exact edge, longest⟩
          rw [split] at settled
          rw [masked, ih (length_le_of_text split fits) (settled.drop.of_stop stop), split]
          simp [text, gap, gap', value]
        | none =>
          have rest : Settled (some c) cs := settled.drop (p := [c])
          rw [hideValues_cons_of_none (.inr hit), ih (Nat.le_of_succ_le_succ fits) rest]
      · have rest : Settled (some c) cs := settled.drop (p := [c])
        rw [hideValues_cons_of_none (.inl (by simpa using edge)),
          ih (Nat.le_of_succ_le_succ fits) rest]

/-! ## Texts -/

/-- In a redacted text every assignment the pattern matches, wherever it starts, has the mask
as its value and no blank around its sign. -/
theorem settled_redactText (s : String) : Settled none (redactText s).toList := by
  rw [redactText, String.toList_ofList]
  exact settled_hideValues String.length_toList.le

theorem redactText_redactText (s : String) : redactText (redactText s) = redactText s := by
  show String.ofList (hideValues (redactText s).length none (redactText s).toList) = redactText s
  rw [hideValues_of_settled String.length_toList.le (settled_redactText s), String.ofList_toList]

end RestConfig.Redact

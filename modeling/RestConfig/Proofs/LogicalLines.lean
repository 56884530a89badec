import Mathlib
import RestConfig.Proofs.PropertiesText

/-!
# Logical lines of a properties text

What the reader makes of the lines of a properties text, said without its loop. The text is
cut into physical lines at CRLF, CR and LF and nowhere else (`Cut`). Where a logical line
would begin, a blank or comment line is dropped; any other line opens a logical line, which
runs on over the lines after it as long as each ends in an odd number of backslashes, every
line losing its leading blanks and each continued one its last backslash; a text that ends
inside a continuation keeps what it holds (`Joined`). The reader's logical lines are exactly
these, and each ends in an even number of backslashes, so reading the escapes of its key and
of its value never ends on a backslash with nothing to escape (`logicalLines_eq_iff`).

The reader decides a continuation on the line joined so far, not on the physical line. What
is pending always ends in an even number of backslashes, so the two tests agree, and the
description can speak of physical lines alone.
-/

namespace RestConfig.Properties

/-! ## Physical lines -/

/-- A text cut into physical lines: lines free of CR and LF, each but the last ended by a
terminator, where a CR ends a line on its own only when no LF follows it. -/
inductive Cut : List Char → List (List Char) → Prop
  | last {row : List Char} (unbroken : Unbroken row) : Cut row [row]
  | ended {row rest : List Char} {rows : List (List Char)} (t : Terminator)
      (unbroken : Unbroken row) (alone : t = .cr → NoLeadingLF rest) (tail : Cut rest rows) :
      Cut (row ++ t.chars ++ rest) (row :: rows)

theorem Unbroken.reverse {cs : List Char} (h : Unbroken cs) : Unbroken cs.reverse :=
  fun c mem => h c (List.mem_reverse.mp mem)

theorem physicalLines_of_cut {cs : List Char} {rows : List (List Char)} (h : Cut cs rows) :
    physicalLines cs [] = rows := by
  induction h with
  | last unbroken => exact physicalLines_of_unbroken unbroken
  | ended t unbroken alone _ ih => rw [physicalLines_terminated unbroken t alone, ih]

theorem Cut.terminated {acc cs : List Char} {rows : List (List Char)} (t : Terminator)
    (h : Unbroken acc) (alone : t = .cr → NoLeadingLF cs) (tail : Cut cs rows) :
    Cut (acc.reverse ++ (t.chars ++ cs)) (acc.reverse :: rows) := by
  have cut := Cut.ended t h.reverse alone tail
  rwa [List.append_assoc] at cut

theorem cut_physicalLines (cs acc : List Char) (h : Unbroken acc) :
    Cut (acc.reverse ++ cs) (physicalLines cs acc) := by
  have fresh : Unbroken [] := fun _ mem => nomatch mem
  fun_induction physicalLines cs acc with
  | case1 acc => simpa using Cut.last h.reverse
  | case2 cs acc ih => exact Cut.terminated .crlf h (fun h => nomatch h) (by simpa using ih fresh)
  | case3 cs acc noLF ih =>
    have alone : NoLeadingLF cs := by
      rintro c mem rfl
      cases cs with
      | nil => cases mem
      | cons d rest =>
        obtain rfl : d = '\n' := by simpa using mem
        exact noLF rest rfl
    exact Cut.terminated .cr h (fun _ => alone) (by simpa using ih fresh)
  | case4 cs acc ih => exact Cut.terminated .lf h (fun h => nomatch h) (by simpa using ih fresh)
  | case5 c cs acc _ notCR notLF ih =>
    have grown : Unbroken (c :: acc) := by
      intro x mem
      rcases List.mem_cons.mp mem with rfl | mem
      exacts [⟨notCR, notLF⟩, h x mem]
    simpa using ih grown

theorem physicalLines_eq_iff {cs : List Char} {rows : List (List Char)} :
    physicalLines cs [] = rows ↔ Cut cs rows :=
  ⟨fun h => h ▸ cut_physicalLines cs [] (fun _ mem => nomatch mem), physicalLines_of_cut⟩

/-! ## Skipped lines -/

/-- A blank line, or a comment: a `#` or a `!` after the leading blanks. -/
def Skippable (row : List Char) : Prop :=
  Blank row ∨ ∃ indent marker body, Blank indent ∧ (marker = '#' ∨ marker = '!') ∧
    row = indent ++ marker :: body

theorem blank_takeWhile (row : List Char) : Blank (row.takeWhile (blanks.contains ·)) :=
  fun c mem => by simpa using List.mem_takeWhile_imp mem

theorem skipped_dropBlanks_iff (row : List Char) :
    skipped (dropBlanks row) = true ↔ Skippable row := by
  have whole := List.takeWhile_append_dropWhile (p := (blanks.contains ·)) (l := row)
  constructor
  · intro h
    cases rest : dropBlanks row with
    | nil =>
      left
      rw [dropBlanks] at rest
      rw [rest, List.append_nil] at whole
      exact whole ▸ blank_takeWhile row
    | cons c body =>
      rw [rest, skipped, Bool.or_eq_true, decide_eq_true_iff, decide_eq_true_iff] at h
      rw [dropBlanks] at rest
      exact Or.inr ⟨_, c, body, blank_takeWhile row, h, by rw [← rest, whole]⟩
  · rintro (blank | ⟨indent, marker, body, blank, marker_is, rfl⟩)
    · rw [dropBlanks_eq_nil blank]
      rfl
    · have opens : marker ∉ blanks := by rcases marker_is with rfl | rfl <;> decide
      rw [dropBlanks_blank_append blank, dropBlanks_of_head _ opens]
      rcases marker_is with rfl | rfl <;> rfl

/-! ## Backslashes at the end -/

theorem evenTail_iff_even (cs : List Char) : EvenTail cs ↔ Even (trailingBackslashes cs) :=
  Nat.even_iff.symm

theorem eq_concat_of_odd {row : List Char} (h : Odd (trailingBackslashes row)) :
    ∃ cur, row = cur ++ ['\\'] ∧ EvenTail cur := by
  induction row using List.reverseRecOn with
  | nil => exact absurd h (by decide)
  | append_singleton cur c _ =>
    rw [trailingBackslashes_concat] at h
    by_cases hc : c = '\\'
    · subst hc
      rw [if_pos rfl, Nat.odd_add_one, Nat.not_odd_iff_even] at h
      exact ⟨cur, rfl, (evenTail_iff_even cur).mpr h⟩
    · rw [if_neg hc] at h
      exact absurd h (by decide)

theorem trailingBackslashes_cons_of_ne {c : Char} (h : c ≠ '\\') (cs : List Char) :
    trailingBackslashes (c :: cs) = trailingBackslashes cs := by
  have whole := trailingBackslashes_append [c] cs
  rw [List.singleton_append] at whole
  rw [whole]
  split
  · next all =>
    rw [trailingBackslashes_of_forall all, trailingBackslashes_eq_zero (by simpa using h),
      Nat.zero_add]
  · rfl

theorem trailingBackslashes_escape_pair (d : Char) (cs : List Char) :
    trailingBackslashes ('\\' :: d :: cs) % 2 = trailingBackslashes cs % 2 := by
  have whole := trailingBackslashes_append ['\\', d] cs
  rw [List.cons_append, List.cons_append, List.nil_append] at whole
  rw [whole]
  split
  · next all =>
    have pair : trailingBackslashes ['\\', d] % 2 = 0 := by
      have concat := trailingBackslashes_concat ['\\'] d
      rw [List.singleton_append] at concat
      rw [concat]
      split <;> rfl
    rw [trailingBackslashes_of_forall all]
    omega
  · rfl

theorem continues_append_of_head (pre : List Char) {c : Char} (h : c ≠ '\\') (rest : List Char) :
    continues (pre ++ c :: rest) = continues (c :: rest) := by
  have notAll : ¬ ∀ x ∈ c :: rest, x = '\\' := fun all => h (all c List.mem_cons_self)
  rw [continues, continues, trailingBackslashes_append, if_neg notAll]

/-! ## Logical lines -/

/-- A physical line joined to the next one: its leading blanks and its last backslash
dropped. -/
def joinedPart (row : List Char) : List Char := (dropBlanks row).dropLast

/-- How physical lines make up logical lines, read from the first: where a logical line would
begin, a blank or comment line is dropped; any other line opens a logical line, which joins to
it, without their last backslash, the lines after it up to the first one that ends in an even
number of backslashes, or up to the end of the text. -/
inductive Joined : List (List Char) → List (List Char) → Prop
  | nil : Joined [] []
  | skip {row : List Char} {rows out : List (List Char)} (skippable : Skippable row)
      (tail : Joined rows out) : Joined (row :: rows) out
  /-- The lines `conts`, each ending in an odd number of backslashes, continued by `last`,
  which ends in an even number; the first of them is neither blank nor a comment. -/
  | run {conts rows out : List (List Char)} {last : List Char}
      (opens : ¬ Skippable (conts.headD last))
      (odd : ∀ r ∈ conts, Odd (trailingBackslashes r)) (even : Even (trailingBackslashes last))
      (tail : Joined rows out) :
      Joined (conts ++ last :: rows) ((conts.flatMap joinedPart ++ dropBlanks last) :: out)
  /-- Lines that each end in an odd number of backslashes, up to the end of the text. -/
  | pending {first : List Char} {conts : List (List Char)} (opens : ¬ Skippable first)
      (odd : ∀ r ∈ first :: conts, Odd (trailingBackslashes r)) :
      Joined (first :: conts) [(first :: conts).flatMap joinedPart]

theorem joinedPart_concat (cur : List Char) : joinedPart (cur ++ ['\\']) = dropBlanks cur := by
  rw [joinedPart, dropBlanks_append_of_head cur [] (by decide), List.dropLast_concat]

theorem evenTail_flatMap_joinedPart {rows : List (List Char)}
    (h : ∀ r ∈ rows, Odd (trailingBackslashes r)) : EvenTail (rows.flatMap joinedPart) := by
  induction rows with
  | nil => rfl
  | cons r rows ih =>
    obtain ⟨cur, rfl, even⟩ := eq_concat_of_odd (h r List.mem_cons_self)
    rw [List.flatMap_cons, joinedPart_concat]
    exact even.dropBlanks.append (ih fun x mem => h x (List.mem_cons_of_mem _ mem))

theorem logicalFrom_open {row : List Char} (h : ¬ Skippable row) (rest : List (List Char)) :
    logicalFrom (row :: rest) none = logicalFrom (row :: rest) (some []) := by
  have kept : skipped (dropBlanks row) = false :=
    Bool.eq_false_iff.mpr fun skip => h ((skipped_dropBlanks_iff row).mp skip)
  rw [logicalFrom_cons_none, logicalFrom_cons_some, List.nil_append, if_neg (by simp [kept])]

theorem logicalFrom_conts {conts : List (List Char)} (odd : ∀ r ∈ conts, Odd (trailingBackslashes r))
    {p : List Char} (hp : EvenTail p) (rest : List (List Char)) :
    logicalFrom (conts ++ rest) (some p) =
      logicalFrom rest (some (p ++ conts.flatMap joinedPart)) := by
  -- by induction on the continued lines, the pending line keeping an even tail
  induction conts generalizing p with
  | nil => simp
  | cons r conts ih =>
    obtain ⟨cur, rfl, even⟩ := eq_concat_of_odd (odd r List.mem_cons_self)
    rw [List.cons_append, logicalFrom_continued _ even (fun q mem => Option.some_inj.mp mem ▸ hp)
      (fun h => nomatch h), Option.getD_some,
      ih (fun x mem => odd x (List.mem_cons_of_mem _ mem)) (hp.append even.dropBlanks),
      List.flatMap_cons, joinedPart_concat, List.append_assoc]

theorem Joined.logicalFrom_eq {rows out : List (List Char)} (h : Joined rows out) :
    logicalFrom rows none = out := by
  induction h with
  | nil => rfl
  | skip skippable _ ih =>
    rw [logicalFrom_cons_none, if_pos ((skipped_dropBlanks_iff _).mpr skippable), ih]
  | @run conts rows out last opens odd even _ ih =>
    obtain ⟨later, whole⟩ : ∃ later, conts ++ last :: rows = conts.headD last :: later := by
      cases conts <;> simp
    rw [whole, logicalFrom_open opens, ← whole, logicalFrom_conts odd (by rfl), List.nil_append,
      logicalFrom_ended rows ((evenTail_iff_even last).mpr even)
        (fun q mem => Option.some_inj.mp mem ▸ (evenTail_flatMap_joinedPart odd))
        (fun h => nomatch h), ih, Option.getD_some]
  | @pending first conts opens odd =>
    rw [logicalFrom_open opens, ← List.append_nil (first :: conts),
      logicalFrom_conts odd (by rfl), List.nil_append, List.append_nil]
    rfl

/-- Every sequence of physical lines makes up some logical lines; `conts` are lines already
continued, which open with a line that is neither blank nor a comment. -/
theorem joined_after (rows : List (List Char)) (conts : List (List Char))
    (odd : ∀ r ∈ conts, Odd (trailingBackslashes r)) (opens : ∀ r ∈ conts.head?, ¬ Skippable r) :
    ∃ out, Joined (conts ++ rows) out := by
  induction rows generalizing conts with
  | nil =>
    cases conts with
    | nil => exact ⟨[], .nil⟩
    | cons first conts => exact ⟨_, by simpa using Joined.pending (opens first rfl) odd⟩
  | cons row rows ih =>
    by_cases skip : conts = [] ∧ Skippable row
    · obtain ⟨rfl, skippable⟩ := skip
      obtain ⟨out, tail⟩ := ih [] (fun _ mem => nomatch mem) (fun _ mem => nomatch mem)
      exact ⟨out, .skip skippable (by simpa using tail)⟩
    · have opens' : ¬ Skippable (conts.headD row) := by
        cases conts with
        | nil => simpa using skip
        | cons first _ => exact opens first rfl
      by_cases hrow : Odd (trailingBackslashes row)
      · obtain ⟨out, joined⟩ := ih (conts ++ [row])
          (fun r mem => by
            rcases List.mem_append.mp mem with mem | mem
            exacts [odd r mem, (List.mem_singleton.mp mem) ▸ hrow])
          (fun r mem => by
            have head : (conts ++ [row]).head? = some (conts.headD row) := by cases conts <;> rfl
            rw [head, Option.mem_some_iff] at mem
            exact mem ▸ opens')
        exact ⟨out, by simpa using joined⟩
      · obtain ⟨out, tail⟩ := ih [] (fun _ mem => nomatch mem) (fun _ mem => nomatch mem)
        exact ⟨_, .run opens' odd (Nat.not_odd_iff_even.mp hrow) (by simpa using tail)⟩

theorem logicalFrom_eq_iff {rows out : List (List Char)} :
    logicalFrom rows none = out ↔ Joined rows out := by
  constructor
  · rintro rfl
    obtain ⟨out, joined⟩ := joined_after rows [] (fun _ mem => nomatch mem)
      (fun _ mem => nomatch mem)
    rw [List.nil_append] at joined
    rwa [joined.logicalFrom_eq]
  · exact Joined.logicalFrom_eq

theorem Joined.evenTail {rows out : List (List Char)} (h : Joined rows out) :
    ∀ l ∈ out, EvenTail l := by
  induction h with
  | nil => exact fun _ mem => nomatch mem
  | skip _ _ ih => exact ih
  | run _ odd even _ ih =>
    intro l mem
    rcases List.mem_cons.mp mem with rfl | mem
    · exact (evenTail_flatMap_joinedPart odd).append
        ((evenTail_iff_even _).mpr even).dropBlanks
    · exact ih l mem
  | pending _ odd =>
    intro l mem
    rw [List.mem_singleton.mp mem]
    exact evenTail_flatMap_joinedPart odd

/-! ## Escapes in a logical line -/

/-- Whether reading escape pairs from the front ends on a backslash with nothing after it to
escape. -/
def danglesEscape : List Char → Bool
  | [] => false
  | ['\\'] => true
  | '\\' :: _ :: rest => danglesEscape rest
  | _ :: rest => danglesEscape rest

theorem danglesEscape_cons_of_ne {c : Char} (h : c ≠ '\\') (cs : List Char) :
    danglesEscape (c :: cs) = danglesEscape cs := by
  rw [danglesEscape]
  · exact fun eq _ => h eq
  · exact fun _ _ eq _ => h eq

theorem danglesEscape_eq_continues (cs : List Char) : danglesEscape cs = continues cs := by
  fun_induction danglesEscape cs with
  | case1 => rfl
  | case2 => rfl
  | case3 d rest ih =>
    rw [ih, continues, continues, trailingBackslashes_escape_pair]
  | case4 c rest notLone notPair ih =>
    by_cases hc : c = '\\'
    · subst hc
      cases rest with
      | nil => exact (notLone rfl rfl).elim
      | cons d rest => exact (notPair d rest rfl rfl).elim
    · rw [ih, continues, continues, trailingBackslashes_cons_of_ne hc]

theorem danglesEscape_dropBlanks (cs : List Char) :
    danglesEscape (dropBlanks cs) = danglesEscape cs := by
  induction cs with
  | nil => rfl
  | cons c cs ih =>
    by_cases hc : c ∈ blanks
    · have notBackslash : c ≠ '\\' := by rintro rfl; exact absurd hc (by decide)
      rw [dropBlanks, List.dropWhile_cons_of_pos (by simpa using hc), ← dropBlanks, ih,
        danglesEscape_cons_of_ne notBackslash]
    · rw [dropBlanks_of_head cs hc]

theorem danglesEscape_valuePart (rest : List Char) :
    danglesEscape (valuePart rest) = danglesEscape rest := by
  rw [← danglesEscape_dropBlanks rest, valuePart]
  split
  · next more h => rw [h, danglesEscape_cons_of_ne (by decide), danglesEscape_dropBlanks]
  · next more h => rw [h, danglesEscape_cons_of_ne (by decide), danglesEscape_dropBlanks]
  · rfl

theorem keyPart_append (row : List Char) : (keyPart row).1 ++ (keyPart row).2 = row := by
  fun_induction keyPart row with
  | case1 => rfl
  | case2 c cs k r split ih =>
    rw [split] at ih
    simpa using ih
  | case3 => rfl
  | case4 c cs _ _ k r split ih =>
    rw [split] at ih
    simpa using ih

theorem keyPart_rest_head (row : List Char) : ∀ c ∈ (keyPart row).2.head?, c ≠ '\\' := by
  fun_induction keyPart row with
  | case1 => exact fun _ mem => nomatch mem
  | case2 c cs k r split ih =>
    rw [split] at ih
    exact ih
  | case3 c cs _ stop =>
    simp only [List.head?_cons, Option.mem_def, Option.some_inj]
    rintro _ rfl rfl
    simp [blanks] at stop
  | case4 c cs _ _ k r split ih =>
    rw [split] at ih
    exact ih

theorem danglesEscape_keyPart (row : List Char) (h : danglesEscape (keyPart row).1 = true) :
    danglesEscape row = true := by
  fun_induction keyPart row with
  | case1 => exact h
  | case2 c cs k r split ih =>
    rw [split] at ih
    simp only [danglesEscape] at h ⊢
    exact ih h
  | case3 => exact absurd h (by simp [danglesEscape])
  | case4 c cs notPair _ k r split ih =>
    by_cases hc : c = '\\'
    · subst hc
      cases cs with
      | nil => rfl
      | cons d rest => exact (notPair d rest rfl rfl).elim
    · rw [split] at ih
      dsimp only at h
      rw [danglesEscape_cons_of_ne hc] at h ⊢
      exact ih h

/-- A logical line that ends in an even number of backslashes leaves neither its key nor its
value ending on a backslash with nothing to escape. -/
theorem EvenTail.escapes_closed {l : List Char} (h : EvenTail l) :
    danglesEscape (keyPart l).1 = false ∧ danglesEscape (valuePart (keyPart l).2) = false := by
  have ends : continues l = false := h.not_continues
  constructor
  · rw [Bool.eq_false_iff]
    intro key
    have dangles := danglesEscape_keyPart l key
    rw [danglesEscape_eq_continues, ends] at dangles
    exact Bool.false_ne_true dangles
  · rw [danglesEscape_valuePart, danglesEscape_eq_continues]
    have whole := keyPart_append l
    cases rest : (keyPart l).2 with
    | nil => rfl
    | cons c more =>
      have hc := keyPart_rest_head l c (by simp [rest])
      rw [rest] at whole
      rw [← continues_append_of_head (keyPart l).1 hc, whole, ends]

/-- The logical lines of a properties text are exactly those obtained by cutting it at CRLF, CR
and LF, dropping blank and comment lines where a logical line would begin, and joining each
line that ends in an odd number of backslashes, without that backslash, to the next, leading
blanks dropped from every line; each ends in an even number of backslashes, so neither its key
nor its value ends on a backslash with nothing to escape. -/
theorem logicalLines_eq_iff (text : String) :
    (∀ out, logicalLines text = out ↔ ∃ rows, Cut text.toList rows ∧ Joined rows out) ∧
    ∀ l ∈ logicalLines text, Even (trailingBackslashes l) ∧
      danglesEscape (keyPart l).1 = false ∧ danglesEscape (valuePart (keyPart l).2) = false := by
  have joined : Joined (physicalLines text.toList []) (logicalLines text) :=
    logicalFrom_eq_iff.mp rfl
  refine ⟨fun out => ⟨fun h => ⟨_, physicalLines_eq_iff.mp rfl, h ▸ joined⟩, ?_⟩, fun l mem => ?_⟩
  · rintro ⟨rows, cut, rows_joined⟩
    rw [logicalLines, physicalLines_of_cut cut]
    exact rows_joined.logicalFrom_eq
  · have even := joined.evenTail l mem
    exact ⟨(evenTail_iff_even l).mp even, even.escapes_closed⟩

/- A continued entry, a comment that ends in a backslash and so continues nothing, and a
continuation still pending at the end. -/
example : logicalLines "k = a\\\n   b\n# note \\\nx\\" = ["k = ab".toList, "x".toList] := by
  decide +kernel

end RestConfig.Properties

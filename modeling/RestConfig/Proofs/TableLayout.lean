import Mathlib
import RestConfig.Console.Table
import RestConfig.Proofs.StringifiedValues

/-!
# The layout of a written table

A table with rows writes, after its title's section, a header line, a line of dashes and one
line per row. Every line but the dashes is its cells, each padded to its column's width, two
blanks apart behind two blanks, with the trailing blanks removed; so each column starts at the
same place on every line. The widths are the widest of the full header and the cut cells, and
a cell longer than the largest width is cut to that width, its last three places holding `...`.

Main statement: `Piece.table_layout`.
-/

namespace RestConfig.Console

open Text

/-! ## Lines laid out in columns -/

/-- Where column `i` starts on a line with columns of widths `ws`: after two blanks and every
earlier column with the two blanks that follow it. -/
def columnStart (ws : List Nat) (i : Nat) : Nat := 2 + ((ws.take i).map (· + 2)).sum

/-- A line laid out in columns of widths `ws` with `text i` in column `i`: it is two blanks
and the columns, two blanks apart; each text fits its column and stands at its start, and every
other place holds a blank. -/
structure LaidOut (ws : List Nat) (text : Nat → List Char) (cs : List Char) : Prop where
  length_eq : cs.length = 2 + ws.sum + 2 * (ws.length - 1)
  fits : ∀ i (hi : i < ws.length), (text i).length ≤ ws[i]
  starts : ∀ i < ws.length, text i <+: cs.drop (columnStart ws i)
  blank : ∀ k < cs.length,
    (∀ i < ws.length, k < columnStart ws i ∨ columnStart ws i + (text i).length ≤ k) →
      cs[k]? = some ' '

@[simp] theorem columnStart_zero (ws : List Nat) : columnStart ws 0 = 2 := by
  simp [columnStart]

theorem columnStart_succ (w : Nat) (ws : List Nat) (i : Nat) :
    columnStart (w :: ws) (i + 1) = w + 2 + columnStart ws i := by
  simp only [columnStart, List.take_succ_cons, List.map_cons, List.sum_cons]
  omega

/-- Each column's text padded to the column's width, behind two blanks. -/
def spaced (cols : List (List Char × Nat)) : List Char :=
  cols.flatMap fun c => ' ' :: ' ' :: (c.1 ++ List.replicate (c.2 - c.1.length) ' ')

section Spaced

variable {cols : List (List Char × Nat)}

@[simp] theorem spaced_nil : spaced [] = [] := rfl

theorem spaced_cons (c : List Char × Nat) (cols : List (List Char × Nat)) :
    spaced (c :: cols) =
      ' ' :: ' ' :: (c.1 ++ List.replicate (c.2 - c.1.length) ' ') ++ spaced cols := by
  simp [spaced]

theorem length_spaced (fits : ∀ c ∈ cols, c.1.length ≤ c.2) :
    (spaced cols).length = ((cols.map Prod.snd).map (· + 2)).sum := by
  induction cols with
  | nil => rfl
  | cons c cols ih =>
    have fit := fits c List.mem_cons_self
    rw [spaced_cons, List.length_append, ih fun d hd => fits d (List.mem_cons_of_mem c hd)]
    simp only [List.length_cons, List.length_append, List.length_replicate, List.map_cons,
      List.sum_cons]
    omega

theorem starts_spaced (fits : ∀ c ∈ cols, c.1.length ≤ c.2) :
    ∀ i < cols.length, (cols.getD i ([], 0)).1 <+: (spaced cols).drop (columnStart (cols.map Prod.snd) i) := by
  induction cols with
  | nil => simp
  | cons c cols ih =>
    have fit := fits c List.mem_cons_self
    intro i hi
    cases i with
    | zero =>
      rw [spaced_cons]
      simp [List.prefix_append]
    | succ i =>
      have head : (' ' :: ' ' :: (c.1 ++ List.replicate (c.2 - c.1.length) ' ')).length = c.2 + 2 := by
        simp only [List.length_cons, List.length_append, List.length_replicate]
        omega
      rw [List.map_cons, columnStart_succ, spaced_cons, ← head, List.drop_length_add_append,
        List.getD_cons_succ]
      exact ih (fun d hd => fits d (List.mem_cons_of_mem c hd)) i (by simpa using hi)

theorem blank_spaced (fits : ∀ c ∈ cols, c.1.length ≤ c.2) :
    ∀ k < (spaced cols).length,
      (∀ i < cols.length, k < columnStart (cols.map Prod.snd) i ∨
        columnStart (cols.map Prod.snd) i + (cols.getD i ([], 0)).1.length ≤ k) →
      (spaced cols)[k]? = some ' ' := by
  induction cols with
  | nil => simp
  | cons c cols ih =>
    have fit := fits c List.mem_cons_self
    intro k hk outside
    rw [spaced_cons]
    by_cases early : k < c.2 + 2
    · have first := outside 0 (by simp)
      simp only [columnStart_zero, List.getD_cons_zero] at first
      rcases Nat.lt_or_ge k 2 with two | two
      · rcases (by omega : k = 0 ∨ k = 1) with rfl | rfl <;> rfl
      · obtain ⟨j, rfl⟩ : ∃ j, k = j + 2 := ⟨k - 2, by omega⟩
        have inside : j < (c.1 ++ List.replicate (c.2 - c.1.length) ' ').length := by
          simp only [List.length_append, List.length_replicate]
          omega
        simp only [List.cons_append, List.getElem?_cons_succ]
        rw [List.getElem?_append_left inside, List.getElem?_append_right (by omega),
          List.getElem?_replicate, if_pos (by omega)]
    · have head : (' ' :: ' ' :: (c.1 ++ List.replicate (c.2 - c.1.length) ' ')).length = c.2 + 2 := by
        simp only [List.length_cons, List.length_append, List.length_replicate]
        omega
      have later : k - (c.2 + 2) < (spaced cols).length := by
        rw [spaced_cons] at hk
        simp only [List.length_append, head] at hk
        omega
      rw [List.getElem?_append_right (by omega), head]
      refine ih (fun d hd => fits d (List.mem_cons_of_mem c hd)) _ later fun i hi => ?_
      have shifted := outside (i + 1) (by simpa using hi)
      rw [List.map_cons, columnStart_succ, List.getD_cons_succ] at shifted
      omega

theorem spaced_intercalate (c : List Char × Nat) (cols : List (List Char × Nat)) :
    ' ' :: ' ' :: [' ', ' '].intercalate
        ((c :: cols).map fun c => c.1 ++ List.replicate (c.2 - c.1.length) ' ') =
      spaced (c :: cols) := by
  induction cols generalizing c with
  | nil => simp [spaced]
  | cons d cols ih =>
    rw [List.map_cons, List.map_cons, List.intercalate_cons_cons, spaced_cons, ← ih d]
    simp

end Spaced

theorem laidOut_columns {cols : List (List Char × Nat)} (fits : ∀ c ∈ cols, c.1.length ≤ c.2) :
    LaidOut (cols.map Prod.snd) (fun i => (cols.getD i ([], 0)).1)
      (' ' :: ' ' :: [' ', ' '].intercalate
        (cols.map fun c => c.1 ++ List.replicate (c.2 - c.1.length) ' ')) := by
  cases cols with
  | nil =>
    refine ⟨rfl, fun i hi => by simp at hi, fun i hi => by simp at hi, fun k hk _ => ?_⟩
    rcases (by simp at hk; omega : k = 0 ∨ k = 1) with rfl | rfl <;> rfl
  | cons c cols =>
    rw [spaced_intercalate]
    refine ⟨?_, fun i hi => ?_, fun i hi => ?_, fun k hk outside => ?_⟩
    · rw [length_spaced fits]
      simp only [List.map_cons, List.sum_cons, List.length_cons, List.length_map, List.sum_map_add,
        List.map_id', List.map_const', List.sum_replicate, smul_eq_mul]
      omega
    · simp only [List.length_map] at hi
      simp only [List.getElem_map, List.getD_eq_getElem _ _ hi]
      exact fits _ (List.getElem_mem hi)
    · exact starts_spaced fits i (by simpa using hi)
    · exact blank_spaced fits k hk fun i hi => outside i (by simpa using hi)

namespace LaidOut

variable {ws : List Nat} {text text' : Nat → List Char} {cs : List Char}

theorem congr (laid : LaidOut ws text cs) (same : ∀ i < ws.length, text i = text' i) :
    LaidOut ws text' cs := by
  refine ⟨laid.length_eq, fun i hi => ?_, fun i hi => ?_, fun k hk outside => ?_⟩
  · rw [← same i hi]
    exact laid.fits i hi
  · rw [← same i hi]
    exact laid.starts i hi
  · refine laid.blank k hk fun i hi => ?_
    rw [same i hi]
    exact outside i hi

theorem mem (laid : LaidOut ws text cs) {ch : Char} (h : ch ∈ cs) :
    ch = ' ' ∨ ∃ i < ws.length, ch ∈ text i := by
  obtain ⟨k, hk, rfl⟩ := List.getElem_of_mem h
  by_cases outside :
      ∀ i < ws.length, k < columnStart ws i ∨ columnStart ws i + (text i).length ≤ k
  · left
    simpa [List.getElem?_eq_getElem hk] using laid.blank k hk outside
  · push Not at outside
    obtain ⟨i, hi, after, before⟩ := outside
    right
    refine ⟨i, hi, ?_⟩
    obtain ⟨rest, eq⟩ := laid.starts i hi
    have at_k : (cs.drop (columnStart ws i))[k - columnStart ws i]? = some cs[k] := by
      rw [List.getElem?_drop, Nat.add_sub_cancel' after, List.getElem?_eq_getElem hk]
    rw [← eq, List.getElem?_append_left (by omega)] at at_k
    exact List.mem_of_getElem? at_k

end LaidOut

/-! ## Reading written lines back -/

theorem linesFrom_unbroken {cs : List Char} (unbroken : ∀ c ∈ cs, isLineBreak c = false)
    (acc rest : List Char) :
    linesFrom (cs ++ '\n' :: rest) acc = String.ofList (acc.reverse ++ cs) :: linesFrom rest [] := by
  induction cs generalizing acc with
  | nil => simp [linesFrom, isLineBreak]
  | cons c cs ih =>
    have hc := unbroken c List.mem_cons_self
    have not_return : c ≠ '\r' := by
      rintro rfl
      simp [isLineBreak] at hc
    rw [List.cons_append, linesFrom.eq_3 _ _ _ fun _ h _ => not_return h, if_neg (by simp [hc]),
      ih (fun d hd => unbroken d (List.mem_cons_of_mem c hd))]
    simp

theorem lines_terminated {ls : List String}
    (unbroken : ∀ l ∈ ls, ∀ c ∈ l.toList, isLineBreak c = false) :
    Text.lines (String.join (ls.map (· ++ "\n"))) = ls := by
  induction ls with
  | nil => rfl
  | cons l ls ih =>
    have first := linesFrom_unbroken (unbroken l List.mem_cons_self) []
      (String.join (ls.map (· ++ "\n"))).toList
    have more := ih fun m hm => unbroken m (List.mem_cons_of_mem l hm)
    rw [Text.lines] at more ⊢
    simp only [List.map_cons, String.join_cons, String.toList_append] at first ⊢
    rw [show "\n".toList = ['\n'] from rfl, List.append_assoc, List.singleton_append, first,
      more]
    simp

theorem Piece.lines_text {p : Piece} (unbroken : ∀ l ∈ p.lines, ∀ c ∈ l.toList, isLineBreak c = false) :
    Text.lines p.text = p.lines :=
  lines_terminated unbroken

/-! ## The cells, widths and lines of a table -/

namespace Table

variable {t : Table}

/-- The text a line of cells shows in column `i`: its cell as written, or nothing. -/
def shown (t : Table) (cells : List String) (i : Nat) : String :=
  match cells[i]? with
  | some c => t.cell c
  | none => ""

/-- The lines a table writes before its header line: a blank line and its title, when it has a
title that is not empty. -/
def titled (t : Table) : List String :=
  match t.title with
  | some title => if title.isEmpty then [] else ["", title]
  | none => []

theorem cell_of_short (t : Table) {s : String} (short : ∀ w, t.maxWidth = some w → s.length ≤ w) :
    t.cell s = s := by
  unfold cell
  split
  · rename_i w hw
    rw [if_neg (by have := short w hw; omega)]
  · rfl

theorem cell_of_long {w : Int} (hw : t.maxWidth = some w) (three : 3 ≤ w) {s : String}
    (long : w < s.length) :
    t.cell s = String.ofList (s.toList.take (w.toNat - 3)) ++ "..." ∧
      (t.cell s).length = w.toNat := by
  have cut : t.cell s = String.ofList (s.toList.take (w.toNat - 3)) ++ "..." := by
    simp only [cell, hw]
    rw [if_pos (show (s.length : Int) > w from long), show (w - 3).toNat = w.toNat - 3 by omega]
  refine ⟨cut, ?_⟩
  have dots : "...".length = 3 := rfl
  rw [cut, String.length_append, String.length_ofList, List.length_take, dots,
    String.length_toList]
  omega

theorem length_cell_le (wide : ∀ w, t.maxWidth = some w → 3 ≤ w) (s : String) :
    (t.cell s).length ≤ s.length := by
  by_cases long : ∃ w, t.maxWidth = some w ∧ w < s.length
  · obtain ⟨w, hw, long⟩ := long
    rw [(cell_of_long hw (wide w hw) long).2]
    omega
  · push Not at long
    rw [cell_of_short t long]

theorem mem_cell {s : String} {ch : Char} (h : ch ∈ (t.cell s).toList) :
    ch ∈ s.toList ∨ ch = '.' := by
  unfold cell at h
  split at h
  · split at h
    · rw [String.toList_append, String.toList_ofList, List.mem_append] at h
      rcases h with front | dots
      · exact .inl (List.mem_of_mem_take front)
      · right
        simpa using dots
    · exact .inl h
  · exact .inl h

@[simp] theorem length_widths (t : Table) : t.widths.length = t.headers.length := by
  simp [widths]

/-- Widening a width by the cells of a column, row by row: the result is at least the start and
every cell's length, and it is the start or one of those lengths. -/
theorem foldl_widen (len : String → Nat) (i : Nat) {step : Nat → List String → Nat}
    (widen : ∀ w row, step w row = match row[i]? with
      | some c => max w (len c)
      | none => w)
    (rows : List (List String)) (w₀ : Nat) :
    w₀ ≤ rows.foldl step w₀ ∧ (∀ row ∈ rows, ∀ c ∈ row[i]?, len c ≤ rows.foldl step w₀) ∧
      (rows.foldl step w₀ = w₀ ∨ ∃ row ∈ rows, ∃ c ∈ row[i]?, len c = rows.foldl step w₀) := by
  induction rows generalizing w₀ with
  | nil => simp
  | cons row rows ih =>
    rw [List.foldl_cons, widen]
    cases hc : row[i]? with
    | none =>
      obtain ⟨start, each, which⟩ := ih w₀
      refine ⟨start, ?_, ?_⟩
      · rintro r (_ | ⟨_, mem⟩) c hr
        · simp [hc] at hr
        · exact each r mem c hr
      · rcases which with same | ⟨r, mem, c, hr, eq⟩
        · exact .inl same
        · exact .inr ⟨r, List.mem_cons_of_mem _ mem, c, hr, eq⟩
    | some c =>
      obtain ⟨start, each, which⟩ := ih (max w₀ (len c))
      refine ⟨le_of_max_le_left start, ?_, ?_⟩
      · rintro r (_ | ⟨_, mem⟩) d hr
        · simp only [hc, Option.mem_def, Option.some.injEq] at hr
          subst hr
          exact le_of_max_le_right start
        · exact each r mem d hr
      · rcases which with same | ⟨r, mem, d, hr, eq⟩
        · rcases max_choice w₀ (len c) with first | second
          · exact .inl (same.trans first)
          · exact .inr ⟨row, List.mem_cons_self, c, hc, (same.trans second).symm⟩
        · exact .inr ⟨r, List.mem_cons_of_mem _ mem, d, hr, eq⟩

theorem widths_widest (t : Table) {i : Nat} (hi : i < t.headers.length) :
    ∃ w, t.widths[i]? = some w ∧ t.headers[i].length ≤ w ∧
      (∀ row ∈ t.rows, ∀ c ∈ row[i]?, (t.cell c).length ≤ w) ∧
      (w = t.headers[i].length ∨ ∃ row ∈ t.rows, ∃ c ∈ row[i]?, (t.cell c).length = w) := by
  obtain ⟨step, entry, widen⟩ : ∃ step : Nat → List String → Nat,
      t.widths[i]? = some (t.rows.foldl step t.headers[i].length) ∧
      ∀ w row, step w row = match row[i]? with
        | some c => max w (t.cell c).length
        | none => w := by
    rw [widths, List.getElem?_map, List.getElem?_zipIdx, List.getElem?_eq_getElem hi, Nat.zero_add]
    exact ⟨_, rfl, fun _ _ => rfl⟩
  exact ⟨_, entry, foldl_widen (fun c => (t.cell c).length) i widen t.rows t.headers[i].length⟩

/-- The text each line shows in a column fits the column: a row's cells by the widths' choice,
the headers because a cut never lengthens a text when the largest width leaves room for `...`. -/
theorem shown_fits (wide : ∀ w, t.maxWidth = some w → 3 ≤ w) {cells : List String}
    (hc : cells = t.headers ∨ cells ∈ t.rows) {i : Nat} (hi : i < t.headers.length) {w : Nat}
    (hw : t.widths[i]? = some w) : (t.shown cells i).length ≤ w := by
  obtain ⟨w', hw', header, each, -⟩ := widths_widest t hi
  obtain rfl : w' = w := Option.some.inj (hw'.symm.trans hw)
  rcases hc with rfl | row
  · have cut := length_cell_le wide t.headers[i]
    simp only [shown, List.getElem?_eq_getElem hi]
    omega
  · unfold shown
    split
    · rename_i c hc
      exact each cells row c hc
    · exact Nat.zero_le _

theorem line_eq_shown (t : Table) (cells : List String) :
    t.line cells = "  " ++ String.ofList (trimBlanksEnd ("  ".intercalate
      (t.widths.zipIdx.map fun p => padRight (t.shown cells p.2) p.1)).toList) := rfl

theorem toList_line (t : Table) (cells : List String) :
    (t.line cells).toList = ' ' :: ' ' :: trimBlanksEnd ([' ', ' '].intercalate
      ((t.widths.zipIdx.map fun p => ((t.shown cells p.2).toList, p.1)).map
        fun c => c.1 ++ List.replicate (c.2 - c.1.length) ' ')) := by
  rw [line_eq_shown]
  simp [String.toList_intercalate, padRight, List.map_map, Function.comp_def, String.length_toList]

theorem laidOut_line (wide : ∀ w, t.maxWidth = some w → 3 ≤ w) {cells : List String}
    (hc : cells = t.headers ∨ cells ∈ t.rows) :
    ∃ gap, (∀ ch ∈ gap, isBlank ch = true) ∧
      LaidOut t.widths (fun i => (t.shown cells i).toList) ((t.line cells).toList ++ gap) := by
  have fits : ∀ c ∈ t.widths.zipIdx.map (fun p => ((t.shown cells p.2).toList, p.1)),
      c.1.length ≤ c.2 := by
    intro c mem
    obtain ⟨⟨w, i⟩, hp, rfl⟩ := List.mem_map.mp mem
    have hw := List.mem_zipIdx_iff_getElem?.mp hp
    exact shown_fits wide hc (by simpa using (List.getElem?_eq_some_iff.mp hw).1) hw
  obtain ⟨gap, blank, eq⟩ := trimBlanksEnd_append_trailing ([' ', ' '].intercalate
    ((t.widths.zipIdx.map fun p => ((t.shown cells p.2).toList, p.1)).map
      fun c => c.1 ++ List.replicate (c.2 - c.1.length) ' '))
  refine ⟨gap, blank, ?_⟩
  rw [toList_line, List.cons_append, List.cons_append, eq]
  have laid := laidOut_columns fits
  rw [List.map_map, show Prod.snd ∘ (fun p : Nat × Nat => ((t.shown cells p.2).toList, p.1)) =
    Prod.fst from rfl, List.zipIdx_map_fst] at laid
  refine laid.congr fun i hi => ?_
  simp [List.getD_eq_getElem?_getD, List.getElem?_zipIdx, List.getElem?_eq_getElem hi]

theorem laidOut_rule (t : Table) :
    LaidOut t.widths (fun i => List.replicate (t.widths.getD i 0) '-') t.rule.toList := by
  have laid := @laidOut_columns (t.widths.map fun w => (List.replicate w '-', w)) (by simp)
  have same : t.rule.toList = ' ' :: ' ' :: [' ', ' '].intercalate
      ((t.widths.map fun w => (List.replicate w '-', w)).map
        fun c => c.1 ++ List.replicate (c.2 - c.1.length) ' ') := by
    simp [rule, String.toList_intercalate, List.map_map, Function.comp_def]
  rw [same]
  rw [List.map_map, show Prod.snd ∘ (fun w : Nat => (List.replicate w '-', w)) = id from rfl,
    List.map_id] at laid
  refine laid.congr fun i hi => ?_
  simp [List.getD_eq_getElem?_getD, List.getElem?_eq_getElem hi]

theorem line_trimmed (t : Table) (cells : List String) :
    ∀ ch ∈ ((t.line cells).toList.drop 2).getLast?, isBlank ch = false := by
  rw [toList_line, List.drop_succ_cons, List.drop_succ_cons, List.drop_zero, trimBlanksEnd,
    List.getLast?_reverse]
  exact head_dropBlanks _

theorem unbroken_line (wide : ∀ w, t.maxWidth = some w → 3 ≤ w) {cells : List String}
    (hc : cells = t.headers ∨ cells ∈ t.rows)
    (unbroken : ∀ c ∈ cells, ∀ ch ∈ c.toList, isLineBreak ch = false) :
    ∀ ch ∈ (t.line cells).toList, isLineBreak ch = false := by
  intro ch mem
  obtain ⟨gap, -, laid⟩ := laidOut_line wide hc
  rcases laid.mem (List.mem_append_left gap mem) with rfl | ⟨i, -, hi⟩
  · rfl
  · unfold shown at hi
    split at hi
    · rename_i c hc
      rcases mem_cell hi with inner | rfl
      · exact unbroken c (List.mem_of_getElem? hc) ch inner
      · rfl
    · simp at hi

theorem unbroken_rule (t : Table) : ∀ ch ∈ t.rule.toList, isLineBreak ch = false := by
  intro ch mem
  rcases (laidOut_rule t).mem mem with rfl | ⟨i, -, hi⟩
  · rfl
  · rw [List.eq_of_mem_replicate hi]
    rfl

end Table

theorem Piece.lines_table {t : Table} (filled : t.rows ≠ []) :
    (Piece.table t).lines = t.titled ++ t.line t.headers :: t.rule :: t.rows.map t.line := by
  simp only [Piece.lines, List.isEmpty_iff, filled, if_false, Table.titled]
  cases t.title <;> simp

/-- The layout of a written table. Whenever a table has rows, no header, title or cell holds a
line boundary, and its largest cell width (if any) leaves room for `...`:
* the text it writes reads back as its title's lines, the header line, the dash line and one
  line per row;
* column `i` is as wide as the widest of its full header and its cut cells;
* every line of cells, with its trailing blanks put back, has each cell shown (the missing ones
  empty, the extra ones dropped) at the start of its column and blanks elsewhere, the columns
  starting at `columnStart`, that is two places after the end of the column before; and it
  ends in no blank past its first two;
* the dash line fills each column with dashes, in the same places;
* a cell longer than the largest width is cut to that width, its first characters then `...`. -/
theorem Piece.table_layout {t : Table} (filled : t.rows ≠ [])
    (unbroken : ∀ s, (s ∈ t.headers ∨ t.title = some s ∨ ∃ row ∈ t.rows, s ∈ row) →
      ∀ ch ∈ s.toList, isLineBreak ch = false)
    (wide : ∀ w, t.maxWidth = some w → 3 ≤ w) :
    Text.lines (Piece.table t).text = t.titled ++ t.line t.headers :: t.rule :: t.rows.map t.line ∧
    (∀ i (hi : i < t.headers.length), ∃ w, t.widths[i]? = some w ∧ t.headers[i].length ≤ w ∧
      (∀ row ∈ t.rows, ∀ c ∈ row[i]?, (t.cell c).length ≤ w) ∧
      (w = t.headers[i].length ∨ ∃ row ∈ t.rows, ∃ c ∈ row[i]?, (t.cell c).length = w)) ∧
    (∀ cells, cells = t.headers ∨ cells ∈ t.rows →
      (∃ gap, (∀ ch ∈ gap, isBlank ch = true) ∧
        LaidOut t.widths (fun i => (t.shown cells i).toList) ((t.line cells).toList ++ gap)) ∧
      ∀ ch ∈ ((t.line cells).toList.drop 2).getLast?, isBlank ch = false) ∧
    LaidOut t.widths (fun i => List.replicate (t.widths.getD i 0) '-') t.rule.toList ∧
    (∀ w s, t.maxWidth = some w → w < s.length →
      t.cell s = String.ofList (s.toList.take (w.toNat - 3)) ++ "..." ∧
        (t.cell s).length = w.toNat) := by
  have lines : ∀ l ∈ (Piece.table t).lines, ∀ ch ∈ l.toList, isLineBreak ch = false := by
    rw [Piece.lines_table filled]
    intro l mem
    simp only [List.mem_append, List.mem_cons, List.mem_map] at mem
    rcases mem with title | rfl | rfl | ⟨row, hrow, rfl⟩
    · unfold Table.titled at title
      split at title
      · rename_i s hs
        split at title
        · simp at title
        · simp only [List.mem_cons, List.not_mem_nil, or_false] at title
          rcases title with rfl | rfl
          · simp
          · exact unbroken l (.inr (.inl hs))
      · simp at title
    · exact Table.unbroken_line wide (.inl rfl) fun s hs => unbroken s (.inl hs)
    · exact Table.unbroken_rule t
    · exact Table.unbroken_line wide (.inr hrow) fun s hs => unbroken s (.inr (.inr ⟨row, hrow, hs⟩))
  refine ⟨?_, fun i hi => Table.widths_widest t hi,
    fun cells hc => ⟨Table.laidOut_line wide hc, Table.line_trimmed t cells⟩,
    Table.laidOut_rule t, fun w s hw long => Table.cell_of_long hw (wide w hw) long⟩
  rw [Piece.lines_text lines, Piece.lines_table filled]

/-- A titled table of two settings with the largest width 8: the default `localhost` is cut to
`local...`, the short row leaves its second column empty, and the columns are 4 and 8 wide. -/
theorem settings_table_lines :
    [["host", "localhost"], ["port"]] ≠ [] ∧
    (∀ s, (s ∈ ["key", "default"] ∨ some "Settings" = some s ∨
        ∃ row ∈ [["host", "localhost"], ["port"]], s ∈ row) →
      ∀ ch ∈ s.toList, isLineBreak ch = false) ∧
    (∀ w, some (8 : Int) = some w → 3 ≤ w) ∧
    Text.lines (Piece.table ⟨["key", "default"], [["host", "localhost"], ["port"]],
      some "Settings", some 8⟩).text =
      ["", "Settings", "  key   default", "  ----  --------", "  host  local...", "  port"] := by
  have filled : [["host", "localhost"], ["port"]] ≠ [] := by simp
  have unbroken : ∀ s, (s ∈ ["key", "default"] ∨ some "Settings" = some s ∨
      ∃ row ∈ [["host", "localhost"], ["port"]], s ∈ row) →
        ∀ ch ∈ s.toList, isLineBreak ch = false := by
    rintro s (named | titled | ⟨row, hrow, hs⟩)
    · simp only [List.mem_cons, List.not_mem_nil, or_false] at named
      rcases named with rfl | rfl <;> simp [isLineBreak]
    · cases titled
      simp [isLineBreak]
    · simp only [List.mem_cons, List.not_mem_nil, or_false] at hrow
      rcases hrow with rfl | rfl <;>
        simp only [List.mem_cons, List.not_mem_nil, or_false] at hs <;>
        rcases hs with rfl | rfl <;> simp [isLineBreak]
  have wide : ∀ w, some (8 : Int) = some w → 3 ≤ w := by
    rintro w ⟨⟩
    decide
  refine ⟨filled, unbroken, wide, ?_⟩
  rw [(Piece.table_layout filled unbroken wide).1]
  decide

end RestConfig.Console

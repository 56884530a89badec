import Mathlib
import RestConfig.Source.Properties

/-!
# Reading what a properties writer writes

A canonical writer escapes every character of a key or a value that the reader would take
for something else: the backslash, the four control characters with letter escapes, and the
blanks, separators and comment markers. A text it writes is a sequence of lines, each ended
by LF, CR or CRLF: entries, indented or not, whose key and value may be folded over several
physical lines between escape units, and blank and comment lines anywhere among them.
Reading such a text gives back its entries, a later one for a key replacing an earlier one
(`parse_layout_text`).

The proof follows the reader's stages. The physical lines of the text are the rows of its
lines (`physicalLines_body`); joining them gives one logical line for each entry
(`logicalFrom_body`); and that line splits back into the key and the value
(`EntryLine.entry_logical`). A carriage return followed by an empty line ended by a line feed reads as
one CRLF, so the layout is first brought to a form without that pair (`joinCRLF`), which
writes the same text.
-/

namespace RestConfig.Properties

/-! ## Blanks and backslashes -/

/-- Spaces, tabs and form feeds only. -/
def Blank (cs : List Char) : Prop := ∀ c ∈ cs, c ∈ blanks

/-- No character that ends a physical line. -/
def Unbroken (cs : List Char) : Prop := ∀ c ∈ cs, c ≠ '\r' ∧ c ≠ '\n'

/-- An even number of backslashes at the end: a line ending so does not continue. -/
def EvenTail (cs : List Char) : Prop := trailingBackslashes cs % 2 = 0

theorem dropBlanks_blank_append {pre : List Char} (h : Blank pre) (cs : List Char) :
    dropBlanks (pre ++ cs) = dropBlanks cs := by
  unfold dropBlanks
  exact List.dropWhile_append_of_pos (by simpa [Blank] using h)

theorem dropBlanks_eq_nil {cs : List Char} (h : Blank cs) : dropBlanks cs = [] := by
  rw [← List.append_nil cs, dropBlanks_blank_append h]
  rfl

theorem dropBlanks_append_of_head (cs : List Char) {c : Char} (rest : List Char)
    (hc : c ∉ blanks) : dropBlanks (cs ++ c :: rest) = dropBlanks cs ++ c :: rest := by
  unfold dropBlanks
  rw [List.dropWhile_append]
  split
  · next empty =>
    rw [List.isEmpty_iff.mp empty, List.dropWhile_cons_of_neg (by simpa using hc)]
    rfl
  · rfl

theorem dropBlanks_of_head {c : Char} (rest : List Char) (hc : c ∉ blanks) :
    dropBlanks (c :: rest) = c :: rest :=
  dropBlanks_append_of_head [] rest hc

theorem trailingBackslashes_concat (cs : List Char) (c : Char) :
    trailingBackslashes (cs ++ [c]) = if c = '\\' then trailingBackslashes cs + 1 else 0 := by
  unfold trailingBackslashes
  rw [List.reverse_concat, List.takeWhile_cons]
  by_cases hc : c = '\\' <;> simp [hc]

/-- The backslashes at the end of a joined line: those of the second part, and if it is
nothing but backslashes, those of the first part too. -/
theorem trailingBackslashes_append (a b : List Char) :
    trailingBackslashes (a ++ b) =
      if ∀ c ∈ b, c = '\\' then trailingBackslashes a + b.length else trailingBackslashes b := by
  induction b using List.reverseRecOn with
  | nil => simp
  | append_singleton b c ih =>
    rw [← List.append_assoc, trailingBackslashes_concat, trailingBackslashes_concat, ih]
    by_cases hc : c = '\\'
    · subst hc
      by_cases hb : ∀ x ∈ b, x = '\\'
      · have hb' : ∀ x ∈ b ++ ['\\'], x = '\\' := by
          intro x mem
          rcases List.mem_append.mp mem with mem | mem
          · exact hb x mem
          · simpa using mem
        simp only [if_pos hb, if_pos hb', if_true, List.length_append, List.length_singleton]
        omega
      · have hb' : ¬ ∀ x ∈ b ++ ['\\'], x = '\\' :=
          fun h => hb fun x m => h x (List.mem_append_left _ m)
        simp only [if_neg hb, if_neg hb', if_true]
    · have hb' : ¬ ∀ x ∈ b ++ [c], x = '\\' := fun h => hc (h c (by simp))
      simp only [if_neg hc, if_neg hb']

theorem trailingBackslashes_of_forall {cs : List Char} (h : ∀ c ∈ cs, c = '\\') :
    trailingBackslashes cs = cs.length := by
  have whole := trailingBackslashes_append [] cs
  rw [if_pos h, List.nil_append] at whole
  rw [whole]
  show 0 + cs.length = cs.length
  omega

theorem trailingBackslashes_eq_zero {cs : List Char} (h : ∀ c ∈ cs, c ≠ '\\') :
    trailingBackslashes cs = 0 := by
  induction cs using List.reverseRecOn with
  | nil => rfl
  | append_singleton cs c _ => simp [trailingBackslashes_concat, h c (by simp)]

theorem EvenTail.append {a b : List Char} (ha : EvenTail a) (hb : EvenTail b) :
    EvenTail (a ++ b) := by
  unfold EvenTail at *
  rw [trailingBackslashes_append]
  split
  · next all => rw [trailingBackslashes_of_forall all] at hb; omega
  · exact hb

theorem EvenTail.of_forall {cs : List Char} (h : ∀ c ∈ cs, c ≠ '\\') : EvenTail cs := by
  simp [EvenTail, trailingBackslashes_eq_zero h]

theorem EvenTail.of_blank {cs : List Char} (h : Blank cs) : EvenTail cs :=
  EvenTail.of_forall fun c mem eq => by have := h c mem; subst eq; simp [blanks] at this

theorem trailingBackslashes_dropBlanks (cs : List Char) :
    trailingBackslashes (dropBlanks cs) = trailingBackslashes cs := by
  conv => rhs; rw [← @List.takeWhile_append_dropWhile _ (blanks.contains ·) cs]
  have pre : ∀ c ∈ cs.takeWhile (blanks.contains ·), c ≠ '\\' := fun c mem eq => by
    have := List.mem_takeWhile_imp mem
    subst eq; simp [blanks] at this
  rw [trailingBackslashes_append, trailingBackslashes_eq_zero pre]
  split
  · next all => rw [Nat.zero_add]; exact trailingBackslashes_of_forall all
  · rfl

theorem EvenTail.dropBlanks {cs : List Char} (h : EvenTail cs) : EvenTail (dropBlanks cs) := by
  rwa [EvenTail, trailingBackslashes_dropBlanks]

theorem EvenTail.not_continues {cs : List Char} (h : EvenTail cs) : continues cs = false := by
  unfold EvenTail at h
  simp [continues, h]

theorem EvenTail.continues_concat {cs : List Char} (h : EvenTail cs) :
    continues (cs ++ ['\\']) = true := by
  unfold EvenTail at h
  simp [continues, trailingBackslashes_concat]
  omega

/-! ## Escapes -/

/-- The escape unit a canonical writer puts for one character of a key or a value. -/
def escapeUnit (c : Char) : List Char :=
  if c = '\\' then ['\\', '\\']
  else if c = '\t' then ['\\', 't']
  else if c = '\n' then ['\\', 'n']
  else if c = '\r' then ['\\', 'r']
  else if c = '\x0c' then ['\\', 'f']
  else if c = ' ' ∨ c = '=' ∨ c = ':' ∨ c = '#' ∨ c = '!' then ['\\', c]
  else [c]

/-- A key or a value as a canonical writer escapes it. -/
def escape (s : List Char) : List Char := s.flatMap escapeUnit

/-- A character that can open a logical line and its key: not a blank, a separator, a
comment marker or a line break. -/
structure Opening (c : Char) : Prop where
  not_blank : c ∉ blanks
  not_equals : c ≠ '='
  not_colon : c ≠ ':'
  not_hash : c ≠ '#'
  not_bang : c ≠ '!'
  not_cr : c ≠ '\r'
  not_lf : c ≠ '\n'

theorem opening_backslash : Opening '\\' :=
  ⟨by simp [blanks], by decide, by decide, by decide, by decide, by decide, by decide⟩

/-- An escape unit is a backslash and a character other than `u` or a line break, or a
character that stands for itself and opens nothing. -/
theorem escapeUnit_shape (c : Char) :
    (∃ x, escapeUnit c = ['\\', x] ∧ x ≠ 'u' ∧ x ≠ '\r' ∧ x ≠ '\n') ∨
      (escapeUnit c = [c] ∧ c ≠ '\\' ∧ Opening c) := by
  unfold escapeUnit
  split_ifs with h₁ h₂ h₃ h₄ h₅ h₆
  · exact .inl ⟨_, rfl, by decide⟩
  · exact .inl ⟨_, rfl, by decide⟩
  · exact .inl ⟨_, rfl, by decide⟩
  · exact .inl ⟨_, rfl, by decide⟩
  · exact .inl ⟨_, rfl, by decide⟩
  · refine .inl ⟨_, rfl, ?_⟩
    rcases h₆ with rfl | rfl | rfl | rfl | rfl <;> decide
  · refine .inr ⟨rfl, h₁, ?_⟩
    simp only [not_or] at h₆
    obtain ⟨hsp, heq, hcol, hhash, hbang⟩ := h₆
    exact ⟨by simp [blanks, hsp, h₂, h₅], heq, hcol, hhash, hbang, h₄, h₃⟩

theorem escapeUnit_ne_nil (c : Char) : escapeUnit c ≠ [] := by
  rcases escapeUnit_shape c with ⟨x, h, -⟩ | ⟨h, -⟩ <;> simp [h]

theorem opening_head_escapeUnit (c : Char) : ∀ h ∈ (escapeUnit c).head?, Opening h := by
  rcases escapeUnit_shape c with ⟨x, h, -⟩ | ⟨h, -, hc⟩
  · simpa [h] using opening_backslash
  · simpa [h] using hc

theorem unbroken_escapeUnit (c : Char) : Unbroken (escapeUnit c) := by
  rcases escapeUnit_shape c with ⟨x, h, -, hr, hn⟩ | ⟨h, -, hc⟩
  · simp [h, Unbroken, hr, hn]
  · simp [h, Unbroken, hc.not_cr, hc.not_lf]

theorem evenTail_escapeUnit (c : Char) : EvenTail (escapeUnit c) := by
  rcases escapeUnit_shape c with ⟨x, h, -⟩ | ⟨h, hc, -⟩
  · rw [h]
    by_cases hx : x = '\\'
    · subst hx; rfl
    · show trailingBackslashes (['\\'] ++ [x]) % 2 = 0
      rw [trailingBackslashes_concat, if_neg hx]
  · rw [h]
    exact EvenTail.of_forall (by simpa using hc)

theorem keyPart_escapeUnit_append (c : Char) (rest : List Char) :
    keyPart (escapeUnit c ++ rest) = (escapeUnit c ++ (keyPart rest).1, (keyPart rest).2) := by
  rcases escapeUnit_shape c with ⟨x, h, -⟩ | ⟨h, hc, hopen⟩
  · simp [h, keyPart]
  · rw [h, List.singleton_append, keyPart]
    · simp [hopen.not_equals, hopen.not_colon, hopen.not_blank]
    · exact fun _ _ h => absurd h hc

theorem unescapeChars_escapeUnit_append (c : Char) (rest : List Char) :
    unescapeChars (escapeUnit c ++ rest) = (unescapeChars rest).map (c :: ·) := by
  unfold escapeUnit
  split_ifs with h₁ h₂ h₃ h₄ h₅ h₆
  · subst h₁; simp [unescapeChars]
  · subst h₂; simp [unescapeChars]
  · subst h₃; simp [unescapeChars]
  · subst h₄; simp [unescapeChars]
  · subst h₅; simp [unescapeChars]
  · rcases h₆ with rfl | rfl | rfl | rfl | rfl <;> simp [unescapeChars]
  · rw [List.singleton_append, unescapeChars]
    · exact fun h => absurd h h₁
    · exact fun _ h => absurd h h₁
    · exact fun _ _ h => absurd h h₁

@[simp] theorem escape_cons (c : Char) (s : List Char) :
    escape (c :: s) = escapeUnit c ++ escape s :=
  List.flatMap_cons

theorem escape_ne_nil {s : List Char} (h : s ≠ []) : escape s ≠ [] := by
  obtain ⟨c, s, rfl⟩ := List.exists_cons_of_ne_nil h
  simp [escapeUnit_ne_nil]

theorem keyPart_escape_append (s rest : List Char) :
    keyPart (escape s ++ rest) = (escape s ++ (keyPart rest).1, (keyPart rest).2) := by
  induction s with
  | nil => rfl
  | cons c s ih =>
    rw [escape_cons, List.append_assoc, keyPart_escapeUnit_append, ih]
    simp

theorem unescapeChars_escape (s : List Char) : unescapeChars (escape s) = some s := by
  induction s with
  | nil => rfl
  | cons c s ih => rw [escape_cons, unescapeChars_escapeUnit_append, ih]; rfl

theorem opening_head_escape (s : List Char) : ∀ h ∈ (escape s).head?, Opening h := by
  cases s with
  | nil => simp [escape]
  | cons c s =>
    intro h mem
    rw [escape_cons, List.head?_append_of_ne_nil _ (escapeUnit_ne_nil c)] at mem
    exact opening_head_escapeUnit c h mem

/-! ## Written texts -/

/-- A line terminator. -/
inductive Terminator where
  | lf
  | cr
  | crlf
  deriving DecidableEq, Repr

def Terminator.chars : Terminator → List Char
  | .lf => ['\n']
  | .cr => ['\r']
  | .crlf => ['\r', '\n']

/-- A continuation: a backslash, a line terminator, and the blanks that indent the next
physical line. -/
structure Break where
  terminator : Terminator
  indent : List Char
  indent_blank : Blank indent

/-- The characters of a continuation, where there is one. -/
def breakChars : Option Break → List Char
  | none => []
  | some b => '\\' :: b.terminator.chars ++ b.indent

/-- A run of an entry line's characters, with the continuation written before it. -/
abbrev Piece := Option Break × List Char

/-- The characters a piece is written with. -/
def Piece.chars (p : Piece) : List Char := breakChars p.1 ++ p.2

/-- A key or a value as written: each of its characters, with the continuation written
before its escape unit, where there is one. No continuation comes before the first. -/
structure Written where
  units : List (Char × Option Break)
  first_unbroken : ∀ u ∈ units.head?, u.2 = none

/-- The characters of a written key or value. -/
def Written.chars (w : Written) : List Char := w.units.map (·.1)

/-- The text a written key or value stands for. -/
def Written.text (w : Written) : String := String.ofList w.chars

/-- The pieces of a written key or value: one escape unit each. -/
def Written.pieces (w : Written) : List Piece := w.units.map fun u => (u.2, escapeUnit u.1)

/-- The separator between a key and its value: blanks, with at most one `=` or `:`. -/
structure Separator where
  before : List Char
  mark : Option Char
  after : List Char
  before_blank : Blank before
  after_blank : Blank after
  mark_sep : ∀ m ∈ mark, m = '=' ∨ m = ':'
  nonempty : before ++ mark.toList ++ after ≠ []

def Separator.chars (sep : Separator) : List Char := sep.before ++ sep.mark.toList ++ sep.after

/-- An entry line: indentation, the written key, a separator and the written value. An
empty key needs the separator's mark. -/
structure EntryLine where
  indent : List Char
  key : Written
  sep : Separator
  value : Written
  indent_blank : Blank indent
  keyed : key.units = [] → sep.mark.isSome

/-- The pieces of an entry line after its indentation. -/
def EntryLine.pieces (e : EntryLine) : List Piece :=
  e.key.pieces ++ (none, e.sep.chars) :: e.value.pieces

/-- A line of a written text. -/
inductive Line where
  | entry (e : EntryLine)
  | blank (cs : List Char) (h : Blank cs)
  | comment (indent : List Char) (marker : Char) (body : List Char) (indent_blank : Blank indent)
      (is_marker : marker = '#' ∨ marker = '!') (body_unbroken : Unbroken body)

/-- The characters of a line, without its terminator. -/
def Line.chars : Line → List Char
  | .entry e => e.indent ++ e.pieces.flatMap Piece.chars
  | .blank cs _ => cs
  | .comment indent marker body .. => indent ++ marker :: body

/-- The key and the value an entry line stands for. -/
def Line.pair? : Line → Option (String × String)
  | .entry e => some (e.key.text, e.value.text)
  | _ => none

def bodyChars (body : List (Line × Terminator)) : List Char :=
  body.flatMap fun lt => lt.1.chars ++ lt.2.chars

@[simp] theorem bodyChars_nil : bodyChars [] = [] := rfl

@[simp] theorem bodyChars_cons (l : Line) (t : Terminator) (body : List (Line × Terminator)) :
    bodyChars ((l, t) :: body) = l.chars ++ t.chars ++ bodyChars body := by
  simp [bodyChars]

/-- A written text: lines each ended by a terminator, and perhaps a last line ended by
none. -/
structure Layout where
  body : List (Line × Terminator)
  tail : Option Line

/-- The lines of a written text. -/
def Layout.lines (L : Layout) : List Line := L.body.map (·.1) ++ L.tail.toList

/-- The keys and values a written text stands for, in order. -/
def Layout.pairs (L : Layout) : List (String × String) := L.lines.filterMap Line.pair?

def Layout.text (L : Layout) : String :=
  String.ofList (bodyChars L.body ++ (L.tail.map Line.chars).getD [])

/-! ## Physical lines -/

theorem Unbroken.append {a b : List Char} (ha : Unbroken a) (hb : Unbroken b) :
    Unbroken (a ++ b) := by
  intro c mem
  rcases List.mem_append.mp mem with mem | mem
  exacts [ha c mem, hb c mem]

theorem unbroken_of_mem_blanks {c : Char} (h : c ∈ blanks) : c ≠ '\r' ∧ c ≠ '\n' := by
  simp only [blanks, List.mem_cons, List.not_mem_nil, or_false] at h
  rcases h with rfl | rfl | rfl <;> decide

theorem Blank.unbroken {cs : List Char} (h : Blank cs) : Unbroken cs :=
  fun c mem => unbroken_of_mem_blanks (h c mem)

/-- No line feed first. -/
def NoLeadingLF (cs : List Char) : Prop := ∀ c ∈ cs.head?, c ≠ '\n'

theorem NoLeadingLF.append {a b : List Char} (ha : NoLeadingLF a) (hb : NoLeadingLF b) :
    NoLeadingLF (a ++ b) := by
  intro c mem
  rw [List.head?_append] at mem
  cases h : a.head? with
  | none => rw [h, Option.none_or] at mem; exact hb c mem
  | some x => rw [h, Option.some_or] at mem; exact ha c (by rw [h]; exact mem)

theorem Unbroken.noLeadingLF {cs : List Char} (h : Unbroken cs) : NoLeadingLF cs :=
  fun c mem => (h c (List.mem_of_mem_head? mem)).2

theorem physicalLines_cons {c : Char} (hr : c ≠ '\r') (hn : c ≠ '\n') (cs acc : List Char) :
    physicalLines (c :: cs) acc = physicalLines cs (c :: acc) := by
  rw [physicalLines]
  · exact fun _ h => absurd h hr
  · exact fun h => absurd h hr
  · exact fun h => absurd h hn

theorem physicalLines_unbroken_append {cs : List Char} (h : Unbroken cs) (rest acc : List Char) :
    physicalLines (cs ++ rest) acc = physicalLines rest (cs.reverse ++ acc) := by
  induction cs generalizing acc with
  | nil => rfl
  | cons c cs ih =>
    obtain ⟨hr, hn⟩ := h c List.mem_cons_self
    rw [List.cons_append, physicalLines_cons hr hn, ih fun x mem => h x (List.mem_cons_of_mem c mem)]
    simp

theorem physicalLines_terminator (t : Terminator) {rest : List Char} (acc : List Char)
    (ht : t = .cr → NoLeadingLF rest) :
    physicalLines (t.chars ++ rest) acc = acc.reverse :: physicalLines rest [] := by
  cases t with
  | lf => rfl
  | crlf => rfl
  | cr =>
    rw [Terminator.chars, List.singleton_append, physicalLines]
    exact fun cs h => ht rfl '\n' (by simp [h]) rfl

theorem physicalLines_terminated {cs : List Char} (h : Unbroken cs) (t : Terminator)
    {rest : List Char} (ht : t = .cr → NoLeadingLF rest) :
    physicalLines (cs ++ t.chars ++ rest) [] = cs :: physicalLines rest [] := by
  rw [List.append_assoc, physicalLines_unbroken_append h, physicalLines_terminator t _ ht]
  simp

theorem physicalLines_of_unbroken {cs : List Char} (h : Unbroken cs) :
    physicalLines cs [] = [cs] := by
  have whole := physicalLines_unbroken_append h [] []
  rw [List.append_nil, List.append_nil] at whole
  rw [whole, physicalLines, List.reverse_reverse]

/-- What the reader needs of a piece: no line break and no odd run of backslashes at the
end, and after a continuation, a first character that opens nothing. -/
def Piece.Sound (p : Piece) : Prop :=
  Unbroken p.2 ∧ EvenTail p.2 ∧ (p.1.isSome → ∃ c rest, p.2 = c :: rest ∧ Opening c)

theorem Piece.Sound.noLeadingLF {p : Piece} (h : p.Sound) : NoLeadingLF p.chars := by
  obtain ⟨b?, u⟩ := p
  cases b? with
  | none => exact h.1.noLeadingLF
  | some b => intro c mem; simp [Piece.chars, breakChars] at mem; rw [← mem]; decide

theorem Written.sound_pieces (w : Written) : ∀ p ∈ w.pieces, p.Sound := by
  intro p mem
  obtain ⟨u, -, rfl⟩ := List.mem_map.mp mem
  refine ⟨unbroken_escapeUnit u.1, evenTail_escapeUnit u.1, fun _ => ?_⟩
  rcases escapeUnit_shape u.1 with ⟨x, h, -⟩ | ⟨h, -, hc⟩
  · exact ⟨'\\', [x], h, opening_backslash⟩
  · exact ⟨u.1, [], h, hc⟩

theorem Separator.mem_chars (sep : Separator) :
    ∀ c ∈ sep.chars, c ∈ blanks ∨ c = '=' ∨ c = ':' := by
  intro c mem
  simp only [Separator.chars, List.mem_append] at mem
  rcases mem with (mem | mem) | mem
  · exact .inl (sep.before_blank c mem)
  · exact .inr (sep.mark_sep c (Option.mem_toList.mp mem))
  · exact .inl (sep.after_blank c mem)

theorem Separator.sound (sep : Separator) : Piece.Sound (none, sep.chars) := by
  refine ⟨fun c mem => ?_, EvenTail.of_forall fun c mem => ?_, by simp⟩
  · rcases sep.mem_chars c mem with h | rfl | rfl
    · exact unbroken_of_mem_blanks h
    all_goals decide
  · rcases sep.mem_chars c mem with h | rfl | rfl
    · intro eq; subst eq; simp [blanks] at h
    all_goals decide

theorem EntryLine.sound_pieces (e : EntryLine) : ∀ p ∈ e.pieces, p.Sound := by
  intro p mem
  simp only [EntryLine.pieces, List.mem_append, List.mem_cons] at mem
  rcases mem with mem | rfl | mem
  · exact e.key.sound_pieces p mem
  · exact e.sep.sound
  · exact e.value.sound_pieces p mem

/-- The physical lines of an entry's pieces after `cur`, what the current physical line
holds so far: a continuation ends a physical line with its backslash. -/
def rowsOf : List Char → List Piece → List (List Char)
  | cur, [] => [cur]
  | cur, (none, u) :: ps => rowsOf (cur ++ u) ps
  | cur, (some b, u) :: ps => (cur ++ ['\\']) :: rowsOf (b.indent ++ u) ps

/-- The physical lines of a line. -/
def Line.rows : Line → List (List Char)
  | .entry e => rowsOf e.indent e.pieces
  | .blank cs _ => [cs]
  | .comment indent marker body .. => [indent ++ marker :: body]

theorem noLeadingLF_flatMap {ps : List Piece} (h : ∀ p ∈ ps, p.Sound) :
    NoLeadingLF (ps.flatMap Piece.chars) := by
  induction ps with
  | nil => intro c mem; simp at mem
  | cons p ps ih =>
    rw [List.flatMap_cons]
    exact (h p List.mem_cons_self).noLeadingLF.append (ih fun q mem => h q (List.mem_cons_of_mem p mem))

theorem Line.noLeadingLF_chars (l : Line) : NoLeadingLF l.chars := by
  cases l with
  | entry e =>
    exact (Blank.unbroken e.indent_blank).noLeadingLF.append (noLeadingLF_flatMap e.sound_pieces)
  | blank cs h => exact h.unbroken.noLeadingLF
  | comment indent marker body hi hm _ =>
    refine (Blank.unbroken hi).noLeadingLF.append fun c mem => ?_
    simp only [List.head?_cons, Option.mem_def, Option.some.injEq] at mem
    subst mem
    rcases hm with rfl | rfl <;> decide

section Rows

/- What follows a line in the text: its physical lines start with the one the line's last
characters are on, and then come `next`. -/
variable {rest : List Char} {next : List (List Char)}
  (hrest : ∀ cs, Unbroken cs → physicalLines (cs ++ rest) [] = cs :: next)
include hrest

theorem physicalLines_rowsOf (cur : List Char) (ps : List Piece) (hcur : Unbroken cur)
    (hps : ∀ p ∈ ps, p.Sound) :
    physicalLines (cur ++ ps.flatMap Piece.chars ++ rest) [] = rowsOf cur ps ++ next := by
  induction ps generalizing cur with
  | nil => simpa [rowsOf] using hrest cur hcur
  | cons p ps ih =>
    obtain ⟨b?, u⟩ := p
    obtain ⟨hu, -, hopen⟩ := hps _ List.mem_cons_self
    have hps' := fun q mem => hps q (List.mem_cons_of_mem _ mem)
    cases b? with
    | none =>
      have whole := ih (cur ++ u) (hcur.append hu) hps'
      simpa [rowsOf, Piece.chars, breakChars, List.append_assoc] using whole
    | some b =>
      obtain ⟨c, u', rfl, hc⟩ := hopen rfl
      have split : cur ++ ((some b, c :: u') :: ps).flatMap Piece.chars ++ rest =
          (cur ++ ['\\']) ++ b.terminator.chars ++
            ((b.indent ++ c :: u') ++ ps.flatMap Piece.chars ++ rest) := by
        simp [Piece.chars, breakChars]
      have lead : NoLeadingLF (b.indent ++ c :: u' ++ ps.flatMap Piece.chars ++ rest) := by
        rw [List.append_assoc, List.append_assoc]
        exact (Blank.unbroken b.indent_blank).noLeadingLF.append fun x mem => by
          simp only [List.cons_append, List.head?_cons, Option.mem_def, Option.some.injEq] at mem
          exact mem ▸ hc.not_lf
      have hline : Unbroken (cur ++ ['\\']) := hcur.append (by simp [Unbroken])
      rw [split, physicalLines_terminated hline _ fun _ => lead,
        ih _ ((Blank.unbroken b.indent_blank).append hu) hps']
      rfl

theorem physicalLines_line (l : Line) : physicalLines (l.chars ++ rest) [] = l.rows ++ next := by
  cases l with
  | entry e =>
    exact physicalLines_rowsOf hrest e.indent e.pieces (Blank.unbroken e.indent_blank)
      e.sound_pieces
  | blank cs h => exact hrest cs h.unbroken
  | comment indent marker body hi hm hb =>
    refine hrest _ ((Blank.unbroken hi).append fun c mem => ?_)
    rcases List.mem_cons.mp mem with rfl | mem
    · rcases hm with rfl | rfl <;> decide
    · exact hb c mem

end Rows

/-- No line ended by a CR comes right before an empty line ended by an LF: the two would
read as one CRLF. -/
def Unmerged (body : List (Line × Terminator)) : Prop :=
  body.IsChain fun a b => a.2 = .cr → b.1.chars = [] → b.2 ≠ .lf

theorem noLeadingLF_after {l : Line} {body : List (Line × Terminator)} (tail : Option Line)
    (h : Unmerged ((l, .cr) :: body)) :
    NoLeadingLF (bodyChars body ++ (tail.map Line.chars).getD []) := by
  cases body with
  | nil =>
    cases tail with
    | none => intro c mem; simp at mem
    | some l' => simpa using l'.noLeadingLF_chars
  | cons lt body =>
    obtain ⟨l', t'⟩ := lt
    have link := (List.isChain_cons_cons.mp h).1 rfl
    rw [bodyChars_cons, List.append_assoc, List.append_assoc]
    by_cases empty : l'.chars = []
    · rw [empty, List.nil_append]
      cases t' with
      | lf => exact absurd rfl (link empty)
      | cr | crlf => intro c mem; simp [Terminator.chars] at mem; rw [← mem]; decide
    · intro c mem
      rw [List.head?_append_of_ne_nil _ empty] at mem
      exact l'.noLeadingLF_chars c mem

/-- The physical lines of a written text are the rows of its lines, and an empty last one
when the text ends with a terminator. -/
theorem physicalLines_body (body : List (Line × Terminator)) (tail : Option Line)
    (h : Unmerged body) :
    physicalLines (bodyChars body ++ (tail.map Line.chars).getD []) [] =
      body.flatMap (·.1.rows) ++ (tail.map Line.rows).getD [[]] := by
  induction body with
  | nil =>
    cases tail with
    | none => rfl
    | some l =>
      have whole : physicalLines (l.chars ++ []) [] = l.rows ++ [] :=
        physicalLines_line (fun cs hcs => by rw [List.append_nil]; exact physicalLines_of_unbroken hcs) l
      simpa using whole
  | cons lt body ih =>
    obtain ⟨l, t⟩ := lt
    have after : t = .cr → NoLeadingLF (bodyChars body ++ (tail.map Line.chars).getD []) := by
      rintro rfl
      exact noLeadingLF_after tail h
    have rows : physicalLines (l.chars ++ (t.chars ++ (bodyChars body ++
        (tail.map Line.chars).getD []))) [] =
        l.rows ++ physicalLines (bodyChars body ++ (tail.map Line.chars).getD []) [] :=
      physicalLines_line (fun cs hcs => by
        rw [← List.append_assoc]; exact physicalLines_terminated hcs t after) l
    rw [bodyChars_cons, List.append_assoc, List.append_assoc, rows, ih h.tail, List.flatMap_cons,
      List.append_assoc]

/-! ## Logical lines -/

theorem logicalFrom_cons_none (raw : List Char) (rest : List (List Char)) :
    logicalFrom (raw :: rest) none =
      if skipped (dropBlanks raw) then logicalFrom rest none
      else if continues (dropBlanks raw) then logicalFrom rest (some (dropBlanks raw).dropLast)
      else dropBlanks raw :: logicalFrom rest none := rfl

theorem logicalFrom_cons_some (raw p : List Char) (rest : List (List Char)) :
    logicalFrom (raw :: rest) (some p) =
      if continues (p ++ dropBlanks raw) then logicalFrom rest (some (p ++ dropBlanks raw).dropLast)
      else (p ++ dropBlanks raw) :: logicalFrom rest none := rfl

theorem skipped_append_left {a : List Char} (ha : a ≠ []) (b : List Char) :
    skipped (a ++ b) = skipped a := by
  obtain ⟨x, a, rfl⟩ := List.exists_cons_of_ne_nil ha
  rfl

theorem logicalFrom_ended {raw : List Char} {pend : Option (List Char)} (rest : List (List Char))
    (hraw : EvenTail raw) (hpend : ∀ q ∈ pend, EvenTail q)
    (hopen : pend = none → skipped (dropBlanks raw) = false) :
    logicalFrom (raw :: rest) pend = (pend.getD [] ++ dropBlanks raw) :: logicalFrom rest none := by
  cases pend with
  | none =>
    rw [logicalFrom_cons_none, if_neg (by simp [hopen rfl]),
      if_neg (by simp [hraw.dropBlanks.not_continues])]
    rfl
  | some q =>
    rw [logicalFrom_cons_some,
      if_neg (by simp [((hpend q rfl).append hraw.dropBlanks).not_continues])]
    rfl

theorem logicalFrom_continued {cur : List Char} {pend : Option (List Char)}
    (rest : List (List Char)) (hcur : EvenTail cur) (hpend : ∀ q ∈ pend, EvenTail q)
    (hopen : pend = none → skipped (dropBlanks cur ++ ['\\']) = false) :
    logicalFrom ((cur ++ ['\\']) :: rest) pend =
      logicalFrom rest (some (pend.getD [] ++ dropBlanks cur)) := by
  have strip : dropBlanks (cur ++ ['\\']) = dropBlanks cur ++ ['\\'] :=
    dropBlanks_append_of_head cur [] (by decide)
  cases pend with
  | none =>
    rw [logicalFrom_cons_none, strip, if_neg (by simp [hopen rfl]),
      if_pos hcur.dropBlanks.continues_concat, List.dropLast_concat]
    rfl
  | some q =>
    rw [logicalFrom_cons_some, strip, ← List.append_assoc,
      if_pos ((hpend q rfl).append hcur.dropBlanks).continues_concat, List.dropLast_concat]
    rfl

/-- Joining an entry's physical lines: each one ended by a continuation, without its
backslash, and the next one, without the blanks in front, make one logical line. -/
theorem logicalFrom_rowsOf (cur : List Char) (ps : List Piece) (pend : Option (List Char))
    (rest : List (List Char)) (hcur : EvenTail cur) (hps : ∀ p ∈ ps, p.Sound)
    (hpend : ∀ q ∈ pend, EvenTail q)
    (hopen : pend = none → skipped (dropBlanks (cur ++ (ps.map (·.2)).flatten)) = false) :
    logicalFrom (rowsOf cur ps ++ rest) pend =
      (pend.getD [] ++ dropBlanks (cur ++ (ps.map (·.2)).flatten)) :: logicalFrom rest none := by
  induction ps generalizing cur pend with
  | nil =>
    rw [rowsOf, List.singleton_append, logicalFrom_ended rest hcur hpend (by simpa using hopen)]
    simp
  | cons p ps ih =>
    obtain ⟨b?, u⟩ := p
    obtain ⟨-, hu, hopen'⟩ := hps _ List.mem_cons_self
    have hps' := fun q mem => hps q (List.mem_cons_of_mem _ mem)
    cases b? with
    | none =>
      have whole := ih (cur ++ u) pend (hcur.append hu) hps' hpend
        (by simpa [List.append_assoc] using hopen)
      simpa [rowsOf, List.append_assoc] using whole
    | some b =>
      obtain ⟨c, u, rfl, hc⟩ := hopen' rfl
      have joined : dropBlanks (cur ++ (c :: u ++ (ps.map (·.2)).flatten)) =
          dropBlanks cur ++ (c :: u ++ (ps.map (·.2)).flatten) :=
        dropBlanks_append_of_head cur _ hc.not_blank
      have next : dropBlanks (b.indent ++ c :: u ++ (ps.map (·.2)).flatten) =
          c :: u ++ (ps.map (·.2)).flatten := by
        rw [List.append_assoc, dropBlanks_blank_append b.indent_blank, List.cons_append,
          dropBlanks_of_head _ hc.not_blank]
      have hskip : pend = none → skipped (dropBlanks cur ++ ['\\']) = false := by
        intro hp
        by_cases empty : dropBlanks cur = []
        · rw [empty]; rfl
        · have := hopen hp
          rw [List.map_cons, List.flatten_cons, joined, skipped_append_left empty] at this
          rwa [skipped_append_left empty]
      have hjoined : EvenTail (pend.getD [] ++ dropBlanks cur) := by
        refine EvenTail.append ?_ hcur.dropBlanks
        cases pend with
        | none => rfl
        | some q => exact hpend q rfl
      rw [rowsOf, List.cons_append, logicalFrom_continued _ hcur hpend hskip,
        ih _ _ ((EvenTail.of_blank b.indent_blank).append hu) hps'
          (fun q mem => Option.some_inj.mp mem ▸ hjoined) (fun h => by cases h),
        Option.getD_some, next, List.map_cons, List.flatten_cons, joined, List.append_assoc]

/-! ## Entries -/

/-- The logical line of an entry: its pieces joined, without the continuations, and blanks
dropped at the front. -/
def EntryLine.logical (e : EntryLine) : List Char :=
  dropBlanks (e.indent ++ (e.pieces.map (·.2)).flatten)

/-- The logical line a line stands for, if any. -/
def Line.logical? : Line → Option (List Char)
  | .entry e => some e.logical
  | _ => none

theorem Written.flatten_pieces (w : Written) : (w.pieces.map (·.2)).flatten = escape w.chars := by
  simp [Written.pieces, Written.chars, escape, List.flatMap_def, Function.comp_def]

theorem dropBlanks_escape (s : List Char) : dropBlanks (escape s) = escape s := by
  cases h : escape s with
  | nil => rfl
  | cons x r => exact dropBlanks_of_head r (opening_head_escape s x (by simp [h])).not_blank

theorem valuePart_dropBlanks (cs : List Char) : valuePart (dropBlanks cs) = valuePart cs := by
  unfold valuePart dropBlanks
  rw [List.dropWhile_idempotent]

theorem valuePart_escape (s : List Char) : valuePart (escape s) = escape s := by
  have head := opening_head_escape s
  unfold valuePart
  rw [dropBlanks_escape]
  split
  · next more h => exact absurd rfl (head '=' (by simp [h])).not_equals
  · next more h => exact absurd rfl (head ':' (by simp [h])).not_colon
  · rfl

theorem Separator.ne_nil (sep : Separator) : sep.chars ≠ [] := sep.nonempty

theorem Separator.keyPart_chars (sep : Separator) (rest : List Char) :
    keyPart (sep.chars ++ rest) = ([], sep.chars ++ rest) := by
  obtain ⟨c, cs, hcs⟩ := List.exists_cons_of_ne_nil sep.ne_nil
  have hc := sep.mem_chars c (by simp [hcs])
  have hstop : c = '=' ∨ c = ':' ∨ blanks.contains c = true := by
    rcases hc with h | h | h
    · exact .inr (.inr (by simpa using h))
    · exact .inl h
    · exact .inr (.inl h)
  have hb : c ≠ '\\' := by
    rintro rfl
    rcases hc with h | h | h <;> simp [blanks] at h
  rw [hcs, List.cons_append, keyPart, if_pos hstop]
  exact fun _ _ h => absurd h hb

theorem Separator.dropBlanks_chars {sep : Separator} {m : Char} (hm : sep.mark = some m)
    (rest : List Char) : dropBlanks (sep.chars ++ rest) = m :: (sep.after ++ rest) := by
  have hm' : m ∉ blanks := by rcases sep.mark_sep m hm with rfl | rfl <;> decide
  simp only [Separator.chars, hm, Option.toList_some, List.append_assoc,
    dropBlanks_blank_append sep.before_blank, List.cons_append, List.nil_append,
    dropBlanks_of_head _ hm']

theorem Separator.valuePart_chars (sep : Separator) (s : List Char) :
    valuePart (sep.chars ++ escape s) = escape s := by
  cases hm : sep.mark with
  | none =>
    have blank : dropBlanks (sep.chars ++ escape s) = escape s := by
      simp only [Separator.chars, hm, Option.toList_none, List.append_nil, List.append_assoc,
        dropBlanks_blank_append sep.before_blank, dropBlanks_blank_append sep.after_blank,
        dropBlanks_escape]
    rw [← valuePart_dropBlanks, blank, valuePart_escape]
  | some m =>
    have after : dropBlanks (sep.after ++ escape s) = escape s := by
      rw [dropBlanks_blank_append sep.after_blank, dropBlanks_escape]
    unfold valuePart
    rw [sep.dropBlanks_chars hm]
    rcases sep.mark_sep m hm with rfl | rfl
    · exact after
    · exact after

/-- The logical line of an entry: the escaped key, the separator and the escaped value, or
for an empty key, the separator from its mark on. -/
theorem EntryLine.logical_shape (e : EntryLine) :
    (e.key.chars ≠ [] ∧ e.logical = escape e.key.chars ++ e.sep.chars ++ escape e.value.chars) ∨
      (e.key.chars = [] ∧ ∃ m, (m = '=' ∨ m = ':') ∧
        e.logical = m :: (e.sep.after ++ escape e.value.chars)) := by
  have flat : (e.pieces.map (·.2)).flatten =
      escape e.key.chars ++ e.sep.chars ++ escape e.value.chars := by
    simp [EntryLine.pieces, Written.flatten_pieces]
  rw [EntryLine.logical, flat, dropBlanks_blank_append e.indent_blank]
  by_cases hk : e.key.chars = []
  · obtain ⟨m, hm⟩ := Option.isSome_iff_exists.mp
      (e.keyed (List.map_eq_nil_iff.mp hk))
    refine .inr ⟨hk, m, e.sep.mark_sep m hm, ?_⟩
    rw [hk, escape, List.flatMap_nil, List.nil_append, e.sep.dropBlanks_chars hm]
  · refine .inl ⟨hk, ?_⟩
    obtain ⟨x, r, hx⟩ := List.exists_cons_of_ne_nil (escape_ne_nil hk)
    rw [List.append_assoc, hx, List.cons_append, dropBlanks_of_head _
      (opening_head_escape e.key.chars x (by simp [hx])).not_blank]

theorem EntryLine.logical_not_skipped (e : EntryLine) : skipped e.logical = false := by
  rcases e.logical_shape with ⟨hk, h⟩ | ⟨-, m, hm, h⟩
  · obtain ⟨x, r, hx⟩ := List.exists_cons_of_ne_nil (escape_ne_nil hk)
    have hopen := opening_head_escape e.key.chars x (by simp [hx])
    rw [h, List.append_assoc, hx, List.cons_append]
    simp [skipped, hopen.not_hash, hopen.not_bang]
  · rw [h]
    rcases hm with rfl | rfl <;> rfl

theorem EntryLine.entry_logical (e : EntryLine) :
    entry e.logical = .ok (e.key.text, e.value.text) := by
  have split : ∃ rest, keyPart e.logical = (escape e.key.chars, rest) ∧
      valuePart rest = escape e.value.chars := by
    rcases e.logical_shape with ⟨-, h⟩ | ⟨hk, m, hm, h⟩
    · refine ⟨e.sep.chars ++ escape e.value.chars, ?_, e.sep.valuePart_chars _⟩
      rw [h, List.append_assoc, keyPart_escape_append, e.sep.keyPart_chars, List.append_nil]
    · refine ⟨m :: (e.sep.after ++ escape e.value.chars), ?_, ?_⟩
      · rw [h, hk]
        rcases hm with rfl | rfl <;> simp [keyPart, escape]
      · have after : dropBlanks (e.sep.after ++ escape e.value.chars) = escape e.value.chars := by
          rw [dropBlanks_blank_append e.sep.after_blank, dropBlanks_escape]
        unfold valuePart
        rcases hm with rfl | rfl
        · rw [dropBlanks_of_head _ (by decide)]; exact after
        · rw [dropBlanks_of_head _ (by decide)]; exact after
  obtain ⟨rest, hkey, hvalue⟩ := split
  simp only [entry, hkey, hvalue, unescape, unescapeChars_escape]
  rfl

theorem logicalFrom_line (l : Line) (rest : List (List Char)) :
    logicalFrom (l.rows ++ rest) none = l.logical?.toList ++ logicalFrom rest none := by
  cases l with
  | entry e =>
    have whole := logicalFrom_rowsOf e.indent e.pieces none rest
      (EvenTail.of_blank e.indent_blank) e.sound_pieces (by simp) fun _ => e.logical_not_skipped
    simpa [Line.rows, Line.logical?, EntryLine.logical] using whole
  | blank cs h =>
    rw [Line.rows, List.singleton_append, logicalFrom_cons_none, dropBlanks_eq_nil h]
    rfl
  | comment indent marker body hi hm _ =>
    have hm' : marker ∉ blanks := by rcases hm with rfl | rfl <;> decide
    rw [Line.rows, List.singleton_append, logicalFrom_cons_none, dropBlanks_blank_append hi,
      dropBlanks_of_head _ hm', if_pos (by rcases hm with rfl | rfl <;> rfl)]
    rfl

theorem logicalFrom_body (body : List (Line × Terminator)) (tail : Option Line) :
    logicalFrom (body.flatMap (·.1.rows) ++ (tail.map Line.rows).getD [[]]) none =
      (body.map (·.1) ++ tail.toList).filterMap Line.logical? := by
  induction body with
  | nil =>
    cases tail with
    | none => rfl
    | some l =>
      show logicalFrom l.rows none = [l].filterMap Line.logical?
      rw [← List.append_nil l.rows, logicalFrom_line, List.filterMap_cons, List.filterMap_nil]
      cases l.logical? <;> rfl
  | cons lt body ih =>
    rw [List.flatMap_cons, List.append_assoc, logicalFrom_line, ih, List.map_cons,
      List.cons_append, List.filterMap_cons]
    cases lt.1.logical? <;> rfl

theorem foldlM_logical (lines : List Line) (m : List (String × String)) :
    (lines.filterMap Line.logical?).foldlM (fun m line => do
      let (k, v) ← entry line
      pure (setEntry m k v)) m =
      .ok ((lines.filterMap Line.pair?).foldl (fun m p => setEntry m p.1 p.2) m) := by
  induction lines generalizing m with
  | nil => rfl
  | cons l lines ih =>
    cases l with
    | entry e =>
      simp only [List.filterMap_cons, Line.logical?, Line.pair?, List.foldlM_cons,
        e.entry_logical, List.foldl_cons]
      exact ih _
    | blank => exact ih m
    | comment => exact ih m

/-! ## A CR before an empty line -/

/-- Writes a line ended by a CR, followed by an empty line ended by an LF, as one line ended
by a CRLF: the text stays the same. -/
def joinCRLF : List (Line × Terminator) → List (Line × Terminator)
  | [] => []
  | (l, t) :: rest =>
    match t, joinCRLF rest with
    | .cr, (.blank [] _, .lf) :: more => (l, .crlf) :: more
    | t, joined => (l, t) :: joined

/-- One step of the join: a line ended by a CR takes the LF of an empty line right after it,
and any other line stays as it is. -/
theorem joinCRLF_cons (l : Line) (t : Terminator) (rest : List (Line × Terminator)) :
    (∃ hb more, t = .cr ∧ joinCRLF rest = (.blank [] hb, .lf) :: more ∧
        joinCRLF ((l, t) :: rest) = (l, .crlf) :: more) ∨
      ((∀ hb more, t = .cr → joinCRLF rest ≠ (.blank [] hb, .lf) :: more) ∧
        joinCRLF ((l, t) :: rest) = (l, t) :: joinCRLF rest) := by
  rw [joinCRLF.eq_def ((l, t) :: rest)]
  dsimp only
  split
  · next hb more heq => exact .inl ⟨hb, more, rfl, heq, rfl⟩
  · next t' joined apart => exact .inr ⟨apart, rfl⟩

theorem bodyChars_joinCRLF (body : List (Line × Terminator)) :
    bodyChars (joinCRLF body) = bodyChars body := by
  induction body with
  | nil => rfl
  | cons lt rest ih =>
    obtain ⟨l, t⟩ := lt
    rcases joinCRLF_cons l t rest with ⟨hb, more, rfl, hj, heq⟩ | ⟨-, heq⟩
    · rw [heq, bodyChars_cons, bodyChars_cons, ← ih, hj, bodyChars_cons]
      simp [Line.chars, Terminator.chars]
    · rw [heq, bodyChars_cons, bodyChars_cons, ih]

theorem pairs_joinCRLF (body : List (Line × Terminator)) :
    ((joinCRLF body).map (·.1)).filterMap Line.pair? = (body.map (·.1)).filterMap Line.pair? := by
  induction body with
  | nil => rfl
  | cons lt rest ih =>
    obtain ⟨l, t⟩ := lt
    rcases joinCRLF_cons l t rest with ⟨hb, more, -, hj, heq⟩ | ⟨-, heq⟩
    · rw [hj] at ih
      have drop : (more.map (·.1)).filterMap Line.pair? = (rest.map (·.1)).filterMap Line.pair? :=
        ih
      rw [heq, List.map_cons, List.map_cons, List.filterMap_cons, List.filterMap_cons, drop]
    · simp only [heq, List.map_cons, List.filterMap_cons, ih]

theorem Line.eq_blank_of_chars_eq_nil {l : Line} (h : l.chars = []) :
    ∃ hb, l = .blank [] hb := by
  cases l with
  | entry e =>
    have sep : e.sep.chars = [] := by
      simp only [Line.chars, List.append_eq_nil_iff, List.flatMap_eq_nil_iff] at h
      exact h.2 (none, e.sep.chars) (by simp [EntryLine.pieces])
    exact absurd sep e.sep.ne_nil
  | blank cs hb =>
    simp only [Line.chars] at h
    subst h
    exact ⟨hb, rfl⟩
  | comment => simp [Line.chars] at h

theorem unmerged_joinCRLF (body : List (Line × Terminator)) : Unmerged (joinCRLF body) := by
  induction body with
  | nil => exact List.IsChain.nil
  | cons lt rest ih =>
    obtain ⟨l, t⟩ := lt
    rcases joinCRLF_cons l t rest with ⟨hb, more, -, hj, heq⟩ | ⟨apart, heq⟩
    · rw [heq]
      rw [hj] at ih
      cases more with
      | nil => exact List.IsChain.singleton _
      | cons x more =>
        exact List.isChain_cons_cons.mpr ⟨fun h => (by cases h), (List.isChain_cons_cons.mp ih).2⟩
    · rw [heq]
      cases hj : joinCRLF rest with
      | nil => exact List.IsChain.singleton _
      | cons x more =>
        rw [hj] at ih
        refine List.isChain_cons_cons.mpr ⟨fun ht empty hlf => ?_, ih⟩
        obtain ⟨hb, hx⟩ := Line.eq_blank_of_chars_eq_nil empty
        obtain ⟨l', t''⟩ := x
        simp only at hx hlf ht
        subst hx hlf
        exact apart hb more ht hj

/-! ## Reading a written text -/

/-- Reading a written text gives back its entries: each key is set to its value in turn, a
later value for a key replacing an earlier one. -/
theorem parse_layout_text (L : Layout) :
    parse L.text = .ok (L.pairs.foldl (fun m p => setEntry m p.1 p.2) []) := by
  have text : L.text =
      String.ofList (bodyChars (joinCRLF L.body) ++ (L.tail.map Line.chars).getD []) := by
    rw [Layout.text, bodyChars_joinCRLF]
  have pairs : L.pairs =
      ((joinCRLF L.body).map (·.1) ++ L.tail.toList).filterMap Line.pair? := by
    rw [Layout.pairs, Layout.lines, List.filterMap_append, List.filterMap_append, pairs_joinCRLF]
  rw [text, pairs, parse, logicalLines, String.toList_ofList,
    physicalLines_body _ _ (unmerged_joinCRLF _), logicalFrom_body]
  exact foldlM_logical _ []

end RestConfig.Properties

import RestConfig.Console.Arguments
import RestConfig.Proofs.Basic

/-!
# Reading command lines

How a level reads words that it can classify: a word that does not start with a dash is
plain; a run of options, each written by a name of its own and followed by its value when
it takes one, is read one option at a time, left to right; and the program's level hands
every word after a command's name to that command.
-/

namespace RestConfig.Console

/-- An option written by a name of its own, followed by its value when it takes one. -/
structure Clause where
  option : OptionSpec
  name : String
  value : Option String

/-- The words of a clause. -/
def Clause.words (c : Clause) : List String := c.name :: c.value.toList

theorem length_le_words (cs : List Clause) : cs.length ≤ (cs.flatMap Clause.words).length := by
  induction cs with
  | nil => exact Nat.le_refl 0
  | cons c cs ih =>
    have : 1 ≤ c.words.length := by simp [Clause.words]
    rw [List.flatMap_cons, List.length_append, List.length_cons]
    omega

/-- The values a destination has collected, if it holds a collection. -/
def collectedOf : Option Answer → List Given
  | some (.collected vs) => vs
  | _ => []

namespace Level

/-- How a level reads a word, with a refused word counted as plain. -/
def kind (l : Level) (w : String) : Word :=
  match l.classify w with
  | .ok k => k
  | .error _ => .plain

theorem classify_of_front {l : Level} {w : String} (plain : w.front? ≠ some '-') :
    l.classify w = .ok .plain := by
  have front : w.front?.getD 'A' ≠ '-' := by
    cases first : w.front? with
    | none => decide
    | some c =>
      rintro rfl
      exact plain first
  unfold classify
  rw [if_pos (by simp [front])]
  rfl

theorem kind_of_front {l : Level} {w : String} (plain : w.front? ≠ some '-') :
    l.kind w = .plain := by
  rw [kind, classify_of_front plain]

theorem kind_of_find {l : Level} {w : String} {o : OptionSpec} (dashed : w.front? = some '-')
    (found : l.find? w = some o) : l.kind w = .option (some o) w none := by
  have filled : w.isEmpty = false := by
    cases empty : w.isEmpty
    · rfl
    · rw [String.isEmpty_iff.mp empty] at dashed
      cases dashed
  unfold kind classify
  rw [if_neg (by simp [dashed, filled]), found]
  rfl

theorem classify_toOption {l l' : Level} (same : l.options = l'.options) (w : String) :
    (l.classify w).toOption = (l'.classify w).toOption := by
  have find : l.find? = l'.find? := by funext n; simp [find?, same]
  have cand : l.candidates = l'.candidates := by funext w; simp [candidates, named, same]
  unfold classify
  rw [find, cand]
  dsimp only
  split
  · rfl
  · split
    · rfl
    · split
      · rfl
      · split
        · rfl
        · split <;> rfl

theorem classify_of_options {l l' : Level} (same : l.options = l'.options) {w : String}
    (read : (l'.classify w).toBool = true) : l.classify w = .ok (l.kind w) := by
  have agree := classify_toOption same w
  unfold kind
  cases first : l.classify w with
  | ok k => rfl
  | error e =>
    cases second : l'.classify w with
    | ok k => rw [first, second] at agree; cases agree
    | error e' => rw [second] at read; cases read

theorem classifyAll_eq_map {l : Level} {ws : List String}
    (readable : ∀ w ∈ ws, w ≠ "--" ∧ l.classify w = .ok (l.kind w)) :
    l.classifyAll ws = pure (ws.map l.kind) := by
  induction ws with
  | nil => rfl
  | cons w ws ih =>
    obtain ⟨unmarked, classified⟩ := readable w List.mem_cons_self
    rw [classifyAll, if_neg unmarked, classified,
      ih fun v mem => readable v (List.mem_cons_of_mem w mem)]
    rfl

theorem nextOption_some {kinds : List Word} {i j : Nat} (next : nextOption kinds i = some j) :
    i ≤ j ∧ ∃ s n a, kinds[j]? = some (.option s n a) := by
  have mem := List.mem_of_mem_head? next
  rw [List.mem_filter, Bool.and_eq_true, decide_eq_true_eq] at mem
  obtain ⟨-, after, option⟩ := mem
  refine ⟨after, ?_⟩
  split at option
  · exact ⟨_, _, _, by assumption⟩
  · cases option

theorem nextOption_self {kinds : List Word} {i : Nat} {s : Option OptionSpec} {n : String}
    {a : Option String} (here : kinds[i]? = some (.option s n a)) : nextOption kinds i = some i := by
  obtain ⟨m, length⟩ : ∃ m, kinds.length = i + (m + 1) :=
    ⟨kinds.length - i - 1, by have := (List.getElem?_eq_some_iff.mp here).1; omega⟩
  unfold nextOption
  rw [List.head?_filter, List.find?_eq_some_iff_append, length, List.range_add,
    List.range_succ_eq_map, List.map_cons, Nat.add_zero]
  refine ⟨by simp [here], List.range i, _, rfl, ?_⟩
  intro j mem
  simp only [List.mem_range] at mem
  simp [Nat.not_le.mpr mem]

theorem nextOption_end {kinds : List Word} {i : Nat} (past : kinds.length ≤ i) :
    nextOption kinds i = none := by
  cases next : nextOption kinds i with
  | none => rfl
  | some j =>
    obtain ⟨after, s, n, a, option⟩ := nextOption_some next
    rw [List.getElem?_eq_none (by omega)] at option
    cases option

/-- A level reads a clause as written: its name names its option, which takes a value
exactly when the clause has one, and the level reads that value as plain. -/
structure Reads (l : Level) (c : Clause) : Prop where
  named : l.kind c.name = .option (some c.option) c.name none
  valued : c.option.kind.arity = 0 ∧ c.value = none ∨
    c.option.kind.arity = 1 ∧ ∃ v, c.value = some v ∧ l.kind v = .plain

theorem consumeOption_clause {l : Level} {words more : List String} {i : Nat} {st : Progress}
    {c : Clause} (here : words.drop i = c.words ++ more) (reads : l.Reads c) :
    l.consumeOption words (words.map l.kind) i st =
      (do let st ← l.take c.option c.value.toList st; pure (i + c.words.length, st)) := by
  have name : words[i]? = some c.name := by
    rw [← Nat.add_zero i, ← List.getElem?_drop, here]
    rfl
  have named : (words.map l.kind)[i]? = some (.option (some c.option) c.name none) := by
    rw [List.getElem?_map, name, Option.map_some, reads.named]
  unfold consumeOption
  rw [named, name]
  simp only [Option.map_some, Option.getD_some]
  rcases reads.valued with ⟨switch, bare⟩ | ⟨valued, v, given, plain⟩
  · rw [gather, bare]
    simp only [switch, if_true, pure_bind, List.foldlM_cons, List.foldlM_nil, bind_pure,
      Clause.words, bare, Option.toList_none, List.length_singleton]
  · have value : words[i + 1]? = some v := by
      rw [← List.getElem?_drop, here, Clause.words, given]
      rfl
    rw [gather, given]
    simp only [valued, Nat.one_ne_zero, if_false, List.getElem?_map, value, Option.map_some, plain,
      Option.toList_some, pure_bind, List.foldlM_cons, List.foldlM_nil, bind_pure, Clause.words,
      given, List.length_cons, List.length_nil]

theorem walk_clauses {l : Level} {words : List String} {cs : List Clause} :
    ∀ {fuel i : Nat} {st : Progress}, words.drop i = cs.flatMap Clause.words →
      (∀ c ∈ cs, l.Reads c) → cs.length ≤ fuel →
      l.walk words (words.map l.kind) fuel i st =
        (do let st ← cs.foldlM (fun st c => l.take c.option c.value.toList st) st
            pure (i + (cs.flatMap Clause.words).length, st)) := by
  induction cs with
  | nil =>
    intro fuel i st rest _ _
    have past : (words.map l.kind).length ≤ i := by
      rw [List.length_map, ← List.drop_eq_nil_iff, rest]
      rfl
    cases fuel with
    | zero => rfl
    | succ fuel => simp [walk, nextOption_end past]
  | cons c cs ih =>
    intro fuel i st rest reads enough
    obtain ⟨fuel, rfl⟩ : ∃ f, fuel = f + 1 := ⟨fuel - 1, by simp at enough; omega⟩
    have here : words.drop i = c.words ++ cs.flatMap Clause.words := by rw [rest, List.flatMap_cons]
    have option : (words.map l.kind)[i]? = some (.option (some c.option) c.name none) := by
      rw [List.getElem?_map, ← Nat.add_zero i, ← List.getElem?_drop, here]
      simp [Clause.words, (reads c List.mem_cons_self).named]
    rw [walk, nextOption_self option]
    dsimp only
    rw [if_neg (by simp), consumeOption_clause here (reads c List.mem_cons_self)]
    have next : words.drop (i + c.words.length) = cs.flatMap Clause.words := by
      rw [← List.drop_drop, here, List.drop_left]
    rw [List.foldlM_cons]
    cases took : l.take c.option c.value.toList st with
    | error e => rfl
    | ok st' =>
      show l.walk words (words.map l.kind) fuel (i + c.words.length) st' =
        (do let st ← cs.foldlM (fun st c => l.take c.option c.value.toList st) st'
            pure (i + ((c :: cs).flatMap Clause.words).length, st))
      rw [ih next (fun d mem => reads d (List.mem_cons_of_mem c mem)) (by simpa using enough)]
      simp [Nat.add_assoc]

theorem take_switch {l : Level} {o : OptionSpec} {st : Progress} (switch : o.kind = .switch) :
    l.take o [] st = pure { st with answers := setAnswer st.answers o.dest (.switch true) } := by
  simp [take, switch]

theorem take_store {l : Level} {o : OptionSpec} {v : String} {st : Progress}
    (store : o.kind = .store) (free : o.choices = none) (unmarked : v ≠ "--") :
    l.take o [v] st = pure { st with answers := setAnswer st.answers o.dest (.given (.word v)) } := by
  simp [take, store, free, unmarked]

theorem take_collect {l : Level} {o : OptionSpec} {v : String} {st : Progress}
    (collect : o.kind = .collect) (free : o.choices = none) (unmarked : v ≠ "--")
    (empty : o.default = .collected []) :
    l.take o [v] st = pure { st with answers := (setAnswer st.answers o.dest
      (.collected (collectedOf (st.answers.lookup o.dest) ++ [.word v]))) } := by
  have kept : (v == "--") = false := by simpa using unmarked
  simp only [take, collect, free, List.erase_cons, kept, Bool.false_eq_true, if_false]
  cases st.answers.lookup o.dest with
  | none => simp [collectedOf, empty]
  | some a => cases a <;> simp [collectedOf, empty]

theorem read_clauses {l : Level} {cs : List Clause} (bare : l.commands = none)
    (readable : ∀ w ∈ cs.flatMap Clause.words, w ≠ "--" ∧ l.classify w = .ok (l.kind w))
    (reads : ∀ c ∈ cs, l.Reads c) :
    l.read (cs.flatMap Clause.words) =
      cs.foldlM (fun st c => l.take c.option c.value.toList st) ⟨[], [], none⟩ := by
  have enough : cs.length ≤ (cs.flatMap Clause.words).length + 1 :=
    Nat.le_succ_of_le (length_le_words cs)
  unfold read
  rw [classifyAll_eq_map readable, pure_bind, walk_clauses (by simp) reads enough]
  cases cs.foldlM (fun st c => l.take c.option c.value.toList st) ⟨[], [], none⟩ with
  | error e => rfl
  | ok st =>
    simp only [Nat.zero_add, consumePlain, bare]
    show Except.ok { st with leftover :=
      st.leftover ++ List.drop (cs.flatMap Clause.words).length (cs.flatMap Clause.words) } =
        Except.ok st
    rw [List.drop_length, List.append_nil]

theorem read_command {l : Level} {dest first : String} {names rest : List String}
    (commands : l.commands = some (dest, names)) (named : first ∈ names)
    (readable : ∀ w ∈ first :: rest, w ≠ "--" ∧ l.classify w = .ok (l.kind w))
    (plain : l.kind first = .plain) :
    l.read (first :: rest) =
      pure ⟨setAnswer [] dest (.given (.word first)), [], some (first, rest)⟩ := by
  have front : (first :: rest).map l.kind = .plain :: rest.map l.kind := by
    rw [List.map_cons, plain]
  have taken : l.consumePlain (first :: rest) ((first :: rest).map l.kind) 0 ⟨[], [], none⟩ =
      pure ((first :: rest).length, ⟨setAnswer [] dest (.given (.word first)), [], some (first, rest)⟩) := by
    unfold consumePlain
    rw [commands, front]
    simp [named]
  have chosen : ∀ i, l.consumePlain (first :: rest) ((first :: rest).map l.kind) i
      ⟨setAnswer [] dest (.given (.word first)), [], some (first, rest)⟩ =
        pure (i, ⟨setAnswer [] dest (.given (.word first)), [], some (first, rest)⟩) := by
    intro i
    unfold consumePlain
    rw [commands]
  have ended : nextOption ((first :: rest).map l.kind) (rest.length + 1) = none :=
    nextOption_end (by simp)
  unfold read
  rw [classifyAll_eq_map readable, pure_bind]
  cases next : nextOption ((first :: rest).map l.kind) 0 with
  | none =>
    simp only [walk, next, pure_bind, taken, commands, Option.isNone_some, Bool.false_eq_true,
      if_false, List.length_cons, List.drop_succ_cons, List.drop_length, List.append_nil]
  | some j =>
    have moved : j ≠ 0 := by
      rintro rfl
      obtain ⟨-, s, n, a, option⟩ := nextOption_some next
      rw [front] at option
      cases option
    simp only [walk, next, Ne.symm moved, taken, pure_bind, List.length_cons, if_true, ne_eq,
      not_false_eq_true, gt_iff_lt, Nat.zero_lt_succ, ended, chosen, commands, Option.isNone_some,
      Bool.false_eq_true, if_false, List.drop_succ_cons, List.drop_length, List.append_nil]

end Level

theorem lookup_setAnswer (answers : List (String × Answer)) (dest d : String) (a : Answer) :
    (setAnswer answers dest a).lookup d = if d = dest then some a else answers.lookup d :=
  lookup_setInPlace answers dest d a

/-- The program reads a command's name and hands the words after it to the command's level;
when neither level leaves a word over, every option of the command is answered: what was
given, or its default. -/
theorem Program.read_command {p : Program} {width : Nat} {c : Command} {rest : List String}
    {sub : Progress} (listed : p.commands.find? (·.name == c.name) = some c)
    (readable : ∀ w ∈ c.name :: rest,
      w ≠ "--" ∧ (p.level width).classify w = .ok ((p.level width).kind w))
    (plain : (p.level width).kind c.name = .plain)
    (read : (p.commandLevel c width).read rest = .ok sub) (clean : sub.leftover = []) :
    p.read width (c.name :: rest) = .ok ⟨c, (c.options.filter (·.kind ≠ .help)).map fun o =>
      (o.dest, (sub.answers.lookup o.dest).getD o.default)⟩ := by
  have named : c.name ∈ p.commands.map (·.name) :=
    List.mem_map.mpr ⟨c, List.mem_of_find?_eq_some listed, rfl⟩
  have read : (p.commandLevel c width).read rest = pure sub := read
  unfold Program.read
  rw [Level.read_command rfl named readable plain, pure_bind]
  simp only [Option.getD_some, listed, read, pure_bind, clean, List.append_nil, List.isEmpty_nil,
    Bool.not_true, Bool.false_eq_true, if_false]
  rfl

end RestConfig.Console

import Mathlib
import RestConfig.Proofs.RenderedSettings
import RestConfig.Source.Flatten

/-!
# Values written by the loader, read as kinds

The loader writes every value it is handed as text before a key reads it: a boolean in lower
case, a text as itself, a number by its display, a list or a tuple item by item joined by
commas. For every kind but password, reading the written text gives what reading the value
gives. A flag's word reads as the flag. The decimal of an integer reads as the integer, and
as a double it rounds to the nearest binary64 number just as the integer does. The shortest
text of a double reads as the double. Cutting the written list at its commas and trimming the
pieces finds the trimmed items again, as long as no item's text holds a comma and the list
is not one item that trims to nothing: trimming the whole text first only takes blanks off
the first and the last piece.

Main statement: `Kind.read_stringified`.
-/

namespace RestConfig

open Text Reading

/-! ## The values in question -/

/-- A text or a number: what the items of a list may be. -/
def Value.Plain : Value → Prop
  | .str _ | .int _ | .float _ => True
  | _ => False

/-- A text, a number or a boolean, or a list or a tuple of texts and numbers. -/
def Value.Simple : Value → Prop
  | .str _ | .int _ | .float _ | .bool _ => True
  | .list vs | .tuple vs => ∀ v ∈ vs, v.Plain
  | _ => False

/-! ## Writing -/

namespace Flatten

theorem stringifyIn_plain {v : Value} (plain : v.Plain) (cited : v.citable = true) (r : Nat)
    (name : String) : stringifyIn treeShape name (r + 1) v = .ok v.display := by
  cases v <;> simp only [Value.Plain] at plain
  case str s => rfl
  case float x => rfl
  case int i =>
    have short : ¬ (toString i.natAbs).length > integerDigitLimit := by
      simpa [Value.citable] using cited
    show intText i = _
    rw [intText, if_neg short]
    rfl

theorem stringify_bool (b : Bool) (room : Nat) (name : String) :
    stringify room name (.bool b) = .ok (if b then "true" else "false") := by
  cases room <;> rfl

theorem mapM_stringifyIn {vs : List Value} (plain : ∀ v ∈ vs, v.Plain)
    (cited : Value.citableItems vs = true) (r : Nat) (name : String) :
    vs.mapM (stringifyIn treeShape name (r + 1)) = .ok (vs.map Value.display) := by
  induction vs with
  | nil => rfl
  | cons v vs ih =>
    simp only [Value.citableItems, Bool.and_eq_true] at cited
    have head := stringifyIn_plain (plain v List.mem_cons_self) cited.1 r name
    have tail := ih (fun w hw => plain w (List.mem_cons_of_mem v hw)) cited.2
    simp [List.mapM_cons, head, tail]

theorem stringify_sequence {x : Value} {vs : List Value} (seq : x = .list vs ∨ x = .tuple vs)
    (plain : ∀ v ∈ vs, v.Plain) (cited : x.citable = true) (r : Nat) (name : String) :
    stringify (r + 4) name x = .ok (",".intercalate (vs.map Value.display)) := by
  have items : Value.citableItems vs = true := by
    rcases seq with rfl | rfl <;> simpa [Value.citable] using cited
  have written := mapM_stringifyIn plain items r name
  rcases seq with rfl | rfl <;> cases vs with
  | nil => rfl
  | cons v vs =>
    show (",".intercalate ·) <$> (v :: vs).mapM (stringifyIn treeShape name (r + 1)) = _
    rw [written]
    rfl

end Flatten

/-! ## The decimal of an integer read as a double -/

namespace Binary64

theorem isInfinite_infinity (neg : Bool) : (infinity neg).isInfinite = true := by
  cases neg <;> rfl

theorem ofRatio_of_large {neg : Bool} {num den : Nat} (hd : den ≠ 0)
    (large : 2 ^ 1024 * den ≤ num) : ofRatio neg num den = infinity neg := by
  have hn : num ≠ 0 := by
    have : 0 < 2 ^ 1024 * den := Nat.mul_pos (by positivity) (Nat.pos_of_ne_zero hd)
    omega
  have scale : 972 ≤ scaleOf num den := by
    apply le_scaleOf_of_le hn hd
    have dpos : (0 : ℚ) < den := by exact_mod_cast Nat.pos_of_ne_zero hd
    have cast : (2 : ℚ) ^ 1024 * den ≤ num := by exact_mod_cast large
    rw [le_div_iff₀ dpos]
    calc (2 : ℚ) ^ ((972 : ℤ) + 52) * den = 2 ^ 1024 * den := by norm_num
      _ ≤ num := cast
  unfold ofRatio
  rw [if_neg (by omega)]
  dsimp only
  rw [if_pos]
  split <;> dsimp only <;> omega

end Binary64

theorem readFloatNumeral_toString (i : Int) :
    readFloatNumeral (toString i).toList =
      some (.finite { negative := decide (i < 0), digits := i.natAbs, exponent := 0 }) := by
  have digits : ∀ c ∈ decimalDigits i.natAbs, c.isDigit = true :=
    fun c hc => Nat.isDigit_of_mem_toDigits (by decide) (by decide) hc
  obtain ⟨d, ds, hd⟩ : ∃ d ds, decimalDigits i.natAbs = d :: ds :=
    List.exists_cons_of_ne_nil Nat.toDigits_ne_nil
  have head : (decimalDigits i.natAbs).head? = some d := by simp [hd]
  have words := Numeral.asciiLower_ne_words head (digits d (by simp [hd]))
  unfold readFloatNumeral
  rw [readSign_toString]
  dsimp only
  rw [if_neg (not_or.mpr ⟨words.1, words.2.1⟩), if_neg words.2.2, digitRun_of_digits digits]
  simp
  exact ⟨by simp [hd], digitsValue_digitValues i.natAbs⟩

theorem readFloat?_toString {i : Int} (finite : (Binary64.ofInt i).isInfinite = false) :
    readFloat? (toString i) = some (Binary64.ofInt i) := by
  rw [readFloat?, numeralChars_toString, readFloatNumeral_toString]
  simp only [Option.map_some, FloatNumeral.toBinary64, Option.some.injEq]
  unfold Decimal.toBinary64
  dsimp only
  by_cases zero : i.natAbs = 0
  · obtain rfl : i = 0 := by omega
    rfl
  rw [if_neg zero]
  have few : ¬ ((Nat.toDigits 10 i.natAbs).length : Int) + 0 > 310 := by
    intro many
    have long : ¬ (Nat.toDigits 10 i.natAbs).length ≤ 310 := by omega
    rw [Nat.length_toDigits_le_iff (by decide) (by decide)] at long
    have huge : Binary64.ofInt i = Binary64.infinity (decide (i < 0)) :=
      Binary64.ofRatio_of_large one_ne_zero (by norm_num; omega)
    rw [huge, Binary64.isInfinite_infinity] at finite
    cases finite
  rw [if_neg few, if_neg (by omega)]
  simp [Binary64.ofInt]

/-! ## Pieces joined by commas -/

namespace Text

theorem dropBlanks_append_cons (a rest : List Char) {c : Char} (hc : isBlank c = false) :
    dropBlanks (a ++ c :: rest) = dropBlanks a ++ c :: rest := by
  unfold dropBlanks
  rw [List.dropWhile_append]
  split
  · rename_i empty
    rw [List.isEmpty_iff.mp empty, List.dropWhile_cons_of_neg (by simpa using hc)]
    rfl
  · rfl

theorem trimBlanksEnd_append_cons (a rest : List Char) {c : Char} (hc : isBlank c = false) :
    trimBlanksEnd (a ++ c :: rest) = a ++ c :: trimBlanksEnd rest := by
  have flipped : (a ++ c :: rest).reverse = rest.reverse ++ c :: a.reverse := by simp
  rw [trimBlanksEnd, flipped, dropBlanks_append_cons _ _ hc, trimBlanksEnd]
  simp

/-- A character list is another with some blanks taken off its two ends. -/
def Unpadded (m l : List Char) : Prop :=
  ∃ front back, l = front ++ m ++ back ∧ (∀ c ∈ front, isBlank c = true) ∧
    ∀ c ∈ back, isBlank c = true

theorem Unpadded.refl (l : List Char) : Unpadded l l :=
  ⟨[], [], by simp, by simp, by simp⟩

theorem Unpadded.trans {m l n : List Char} (hm : Unpadded m l) (hl : Unpadded l n) :
    Unpadded m n := by
  obtain ⟨a, b, rfl, ha, hb⟩ := hm
  obtain ⟨c, d, rfl, hc, hd⟩ := hl
  refine ⟨c ++ a, b ++ d, by simp, ?_, ?_⟩
  · intro x hx
    rcases List.mem_append.mp hx with hx | hx
    · exact hc x hx
    · exact ha x hx
  · intro x hx
    rcases List.mem_append.mp hx with hx | hx
    · exact hb x hx
    · exact hd x hx

theorem Unpadded.mem {m l : List Char} (h : Unpadded m l) {c : Char} (hc : c ∈ m) : c ∈ l := by
  obtain ⟨a, b, rfl, -, -⟩ := h
  simp [hc]

theorem unpadded_dropBlanks (l : List Char) : Unpadded (dropBlanks l) l := by
  refine ⟨l.takeWhile isBlank, [], ?_, fun c hc => List.mem_takeWhile_imp hc, by simp⟩
  simp [dropBlanks, List.takeWhile_append_dropWhile]

theorem trimBlanksEnd_append_trailing (l : List Char) :
    ∃ back, (∀ c ∈ back, isBlank c = true) ∧ trimBlanksEnd l ++ back = l := by
  have split : l.reverse.takeWhile isBlank ++ l.reverse.dropWhile isBlank = l.reverse :=
    List.takeWhile_append_dropWhile
  refine ⟨(l.reverse.takeWhile isBlank).reverse, fun c hc =>
    List.mem_takeWhile_imp (List.mem_reverse.mp hc), ?_⟩
  have back := congrArg List.reverse split
  rw [List.reverse_append, List.reverse_reverse] at back
  simpa [trimBlanksEnd, dropBlanks] using back

theorem unpadded_trimBlanksEnd (l : List Char) : Unpadded (trimBlanksEnd l) l := by
  obtain ⟨back, blank, eq⟩ := trimBlanksEnd_append_trailing l
  exact ⟨[], back, by rw [List.nil_append, eq], by simp, blank⟩

theorem dropBlanks_blank_append {front : List Char} (hf : ∀ c ∈ front, isBlank c = true)
    (m : List Char) : dropBlanks (front ++ m) = dropBlanks m :=
  List.dropWhile_append_of_pos hf

theorem dropBlanks_eq_nil {l : List Char} (hl : ∀ c ∈ l, isBlank c = true) : dropBlanks l = [] := by
  have gone := dropBlanks_blank_append hl []
  rw [List.append_nil] at gone
  exact gone.trans rfl

theorem trimBlanksEnd_append_blank (m : List Char) {back : List Char}
    (hb : ∀ c ∈ back, isBlank c = true) : trimBlanksEnd (m ++ back) = trimBlanksEnd m := by
  rw [trimBlanksEnd, List.reverse_append, dropBlanks_blank_append (by simpa using hb),
    trimBlanksEnd]

theorem dropBlanks_trimBlanksEnd (l : List Char) :
    dropBlanks (trimBlanksEnd l) = trimBlanksEnd (dropBlanks l) := by
  have split : l.takeWhile isBlank ++ dropBlanks l = l := List.takeWhile_append_dropWhile
  have front : ∀ c ∈ l.takeWhile isBlank, isBlank c = true := fun c hc => List.mem_takeWhile_imp hc
  cases hd : dropBlanks l with
  | nil =>
    rw [hd, List.append_nil] at split
    have blank : ∀ c ∈ l.reverse, isBlank c = true := by
      intro c hc
      rw [List.mem_reverse, ← split] at hc
      exact front c hc
    have gone : trimBlanksEnd l = [] := by
      rw [trimBlanksEnd, dropBlanks_eq_nil blank]
      rfl
    rw [gone]
    rfl
  | cons c r =>
    have hc : isBlank c = false := head_dropBlanks l c (by simp [hd])
    rw [hd] at split
    have bare : dropBlanks (l.takeWhile isBlank) = [] := dropBlanks_eq_nil front
    calc dropBlanks (trimBlanksEnd l)
        = dropBlanks (trimBlanksEnd (l.takeWhile isBlank ++ c :: r)) := by rw [split]
      _ = c :: trimBlanksEnd r := by
          rw [trimBlanksEnd_append_cons _ _ hc, dropBlanks_append_cons _ _ hc, bare]
          rfl
      _ = trimBlanksEnd ([] ++ c :: r) := by rw [trimBlanksEnd_append_cons _ _ hc]; rfl

theorem Unpadded.trimBlanks_eq {m l : List Char} (h : Unpadded m l) :
    trimBlanks m = trimBlanks l := by
  obtain ⟨front, back, rfl, hf, hb⟩ := h
  calc trimBlanks m = dropBlanks (trimBlanksEnd m) := (dropBlanks_trimBlanksEnd m).symm
    _ = dropBlanks (trimBlanksEnd (m ++ back)) := by rw [trimBlanksEnd_append_blank m hb]
    _ = trimBlanksEnd (dropBlanks (m ++ back)) := dropBlanks_trimBlanksEnd _
    _ = trimBlanksEnd (dropBlanks (front ++ (m ++ back))) := by rw [dropBlanks_blank_append hf]
    _ = trimBlanks (front ++ m ++ back) := by rw [List.append_assoc]; rfl

theorem dropBlanks_commaJoin (p : List Char) (rest : List (List Char)) :
    dropBlanks ([','].intercalate (p :: rest)) = [','].intercalate (dropBlanks p :: rest) := by
  cases rest with
  | nil => simp
  | cons q more =>
    simp only [List.intercalate_cons_cons, List.append_assoc, List.singleton_append]
    exact dropBlanks_append_cons _ _ (by decide)

theorem trimBlanksEnd_commaJoin {M : List (List Char)} (ne : M ≠ []) :
    ∃ M', trimBlanksEnd ([','].intercalate M) = [','].intercalate M' ∧
      List.Forall₂ Unpadded M' M := by
  induction M with
  | nil => exact absurd rfl ne
  | cons m rest ih =>
    cases rest with
    | nil => exact ⟨[trimBlanksEnd m], by simp, .cons (unpadded_trimBlanksEnd m) .nil⟩
    | cons q more =>
      obtain ⟨M', joined, rel⟩ := ih (List.cons_ne_nil q more)
      obtain ⟨m', M'', rfl⟩ : ∃ a b, M' = a :: b := by
        cases rel with
        | cons _ _ => exact ⟨_, _, rfl⟩
      refine ⟨m :: m' :: M'', ?_, .cons (Unpadded.refl m) rel⟩
      simp only [List.intercalate_cons_cons, List.append_assoc, List.singleton_append] at joined ⊢
      rw [trimBlanksEnd_append_cons _ _ (by decide), joined]

theorem trimBlanks_commaJoin {L : List (List Char)} (ne : L ≠ []) :
    ∃ M, trimBlanks ([','].intercalate L) = [','].intercalate M ∧ List.Forall₂ Unpadded M L := by
  obtain ⟨p, rest, rfl⟩ := List.exists_cons_of_ne_nil ne
  obtain ⟨M, joined, rel⟩ := @trimBlanksEnd_commaJoin (dropBlanks p :: rest) (List.cons_ne_nil _ _)
  refine ⟨M, ?_, ?_⟩
  · show trimBlanksEnd (dropBlanks _) = _
    rw [dropBlanks_commaJoin, joined]
  · cases rel with
    | cons first others => exact .cons (first.trans (unpadded_dropBlanks p)) others

theorem Unpadded.free_of_forall₂ {M L : List (List Char)} (rel : List.Forall₂ Unpadded M L)
    {c : Char} (free : ∀ l ∈ L, c ∉ l) : ∀ m ∈ M, c ∉ m := by
  induction rel with
  | nil => simp
  | cons loose _ ih =>
    intro m hm
    rcases List.mem_cons.mp hm with rfl | hm
    · exact fun inside => free _ List.mem_cons_self (loose.mem inside)
    · exact ih (fun l hl => free l (List.mem_cons_of_mem _ hl)) m hm

end Text

/-- Pieces holding no comma, joined by commas, read as a list of the trimmed pieces, unless
they are one piece that trims to nothing. -/
theorem Kind.read_commaJoined {ps : List String} (comma : ∀ p ∈ ps, ',' ∉ p.toList)
    (single : ∀ p, ps = [p] → trim p ≠ "") :
    Kind.list.readCitable (.str (",".intercalate ps)) = .ok (.items (ps.map trim)) := by
  cases ps with
  | nil => rfl
  | cons p rest =>
    have joined : (",".intercalate (p :: rest)).toList =
        [','].intercalate ((p :: rest).map String.toList) := by simp
    obtain ⟨M, trimmed, rel⟩ := @trimBlanks_commaJoin ((p :: rest).map String.toList) (by simp)
    have free : ∀ m ∈ M, ',' ∉ m := by
      apply Unpadded.free_of_forall₂ rel
      intro l hl
      obtain ⟨q, hq, rfl⟩ := List.mem_map.mp hl
      exact comma q hq
    have filled : M ≠ [] := by
      rintro rfl
      simp at rel
    have full : [','].intercalate M ≠ [] := by
      cases rest with
      | nil =>
        simp only [List.map_cons, List.map_nil] at rel
        obtain ⟨m, M', loose, none, rfl⟩ := List.forall₂_cons_right_iff.mp rel
        obtain rfl := List.forall₂_nil_right_iff.mp none
        intro empty
        apply single p rfl
        rw [List.intercalate_singleton] at empty
        rw [trim, ← loose.trimBlanks_eq, empty]
        rfl
      | cons q more =>
        simp only [List.map_cons] at rel
        obtain ⟨m, M', -, others, rfl⟩ := List.forall₂_cons_right_iff.mp rel
        obtain ⟨m', M'', -, -, rfl⟩ := List.forall₂_cons_right_iff.mp others
        simp [List.intercalate_cons_cons]
    have pieces : M.map (fun piece => String.ofList (trimBlanks piece)) = (p :: rest).map trim := by
      have same : List.Forall₂ (fun m q => String.ofList (trimBlanks m) = trim q) M (p :: rest) :=
        (List.forall₂_map_right_iff.mp rel).imp fun m q loose => by rw [loose.trimBlanks_eq]; rfl
      exact List.forall₂_eq_eq_eq ▸ List.forall₂_map_left_iff.mpr
        (List.forall₂_map_right_iff.mpr same)
    simp only [Kind.readCitable, joined, trimmed, List.isEmpty_eq_false_iff.mpr full,
      Bool.false_eq_true, if_false, List.splitOn_intercalate ',' free filled, pieces]

/-! ## Reading the written text -/

theorem Kind.read_decimal {k : Kind} {i : Int} {s : Setting} (read : k.readCitable (.int i) = .ok s) :
    k.readCitable (.str (toString i)) = .ok s := by
  cases k with
  | int | long =>
    obtain ⟨rfl, within⟩ := Kind.wholeWithin_ok read
    exact Kind.read_toString (by simp) within
  | double =>
    simp only [Kind.readCitable] at read
    split at read
    · cases read
    · rename_i finite
      replace finite : (Binary64.ofInt i).isInfinite = false := by simpa using finite
      cases read
      simp only [Kind.readCitable, trim_toString, readFloat?_toString finite, Binary64.isFinite_ofInt finite,
        if_true]
  | _ => simp [Kind.readCitable] at read

theorem Kind.read_shortest {k : Kind} {x : Binary64} {s : Setting}
    (read : k.readCitable (.float x) = .ok s) : k.readCitable (.str x.text) = .ok s := by
  cases k <;> simp only [Kind.readCitable, reduceCtorEq] at read
  case double =>
    split at read
    · rename_i finite
      cases read
      simp [Kind.readCitable, Binary64.trim_text finite, Binary64.readFloat?_text finite, finite]
    · cases read

theorem Kind.read_flagWord {k : Kind} {b : Bool} {s : Setting}
    (read : k.readCitable (.bool b) = .ok s) :
    k.readCitable (.str (if b then "true" else "false")) = .ok s := by
  cases k <;> simp only [Kind.readCitable, reduceCtorEq] at read
  case boolean =>
    cases read
    cases b <;> rfl

/-- The displays of the members of a list or a tuple, joined by commas, read as whatever
the list or the tuple reads as, when no display holds a comma and the members are not one
member whose display trims to nothing. -/
theorem Kind.read_joinedMembers {k : Kind} {x : Value} {vs : List Value}
    (seq : x = .list vs ∨ x = .tuple vs) (comma : ∀ v ∈ vs, ',' ∉ v.display.toList)
    (single : ∀ v, vs = [v] → trim v.display ≠ "") {s : Setting} (read : k.readCitable x = .ok s) :
    k.readCitable (.str (",".intercalate (vs.map Value.display))) = .ok s := by
  have pieces : ∀ p ∈ vs.map Value.display, ',' ∉ p.toList := by
    intro p hp
    obtain ⟨v, hv, rfl⟩ := List.mem_map.mp hp
    exact comma v hv
  have one : ∀ p, vs.map Value.display = [p] → trim p ≠ "" := by
    intro p hp
    obtain ⟨v, rfl, rfl⟩ := List.map_eq_singleton_iff.mp hp
    exact single v rfl
  rcases seq with rfl | rfl <;> cases k <;> simp only [Kind.readCitable, reduceCtorEq] at read
  all_goals
    cases read
    rw [Kind.read_commaJoined pieces one, List.map_map]
    rfl

/-- Typing a value directly and typing the text the loader writes for it agree. For every
kind and every text, number or boolean, or list or tuple of texts and numbers, whatever the
value reads as with some room, the loader's text for it (given the room its writing takes)
reads as the same with that room; for a list or a tuple, provided no member's display holds a comma and the value is not
one member whose display trims to nothing. -/
theorem Kind.read_stringified {k : Kind} {x : Value} (simple : x.Simple)
    (members : ∀ vs, x = .list vs ∨ x = .tuple vs →
      (∀ v ∈ vs, ',' ∉ v.display.toList) ∧ ∀ v, vs = [v] → trim v.display ≠ "")
    {room' : Nat} {s : Setting} (h : k.read room' x = .ok s) {room : Nat} (roomy : 4 ≤ room)
    (name : String) :
    ∃ t, Flatten.stringify room name x = .ok t ∧ k.read room' (.str t) = .ok s := by
  have cited := Kind.citable_of_read h
  have read := Kind.readCitable_of_read h
  simp only [Kind.read_text (Kind.room_pos_of_read h)]
  obtain ⟨r, rfl⟩ : ∃ r, room = r + 4 := ⟨room - 4, by omega⟩
  cases x with
  | str t => exact ⟨t, Flatten.stringifyIn_plain (by trivial) cited (r + 3) name, read⟩
  | int i =>
    exact ⟨_, Flatten.stringifyIn_plain (by trivial) cited (r + 3) name, Kind.read_decimal read⟩
  | float x =>
    exact ⟨_, Flatten.stringifyIn_plain (by trivial) cited (r + 3) name, Kind.read_shortest read⟩
  | bool b => exact ⟨_, Flatten.stringify_bool b _ name, Kind.read_flagWord read⟩
  | list vs =>
    obtain ⟨comma, single⟩ := members vs (.inl rfl)
    exact ⟨_, Flatten.stringify_sequence (.inl rfl) simple cited r name,
      Kind.read_joinedMembers (.inl rfl) comma single read⟩
  | tuple vs =>
    obtain ⟨comma, single⟩ := members vs (.inr rfl)
    exact ⟨_, Flatten.stringify_sequence (.inr rfl) simple cited r name,
      Kind.read_joinedMembers (.inr rfl) comma single read⟩
  | _ => exact simple.elim

/-- A list holding a padded host and a port number reads as the trimmed host and the port's
decimal, and so does the text `" host ,9092"` the loader writes for it. -/
theorem padded_host_and_port_read_alike :
    (Value.list [.str " host ", .int 9092]).Simple ∧
      (∀ v ∈ [Value.str " host ", .int 9092], ',' ∉ v.display.toList) ∧
      Kind.list.read 10 (.list [.str " host ", .int 9092]) = .ok (.items ["host", "9092"]) ∧
      ∃ t, Flatten.stringify 4 "bootstrap.servers" (.list [.str " host ", .int 9092]) = .ok t ∧
        Kind.list.read 10 (.str t) = .ok (.items ["host", "9092"]) := by
  have simple : (Value.list [.str " host ", .int 9092]).Simple := by
    simp [Value.Simple, Value.Plain]
  have comma : ∀ v ∈ [Value.str " host ", .int 9092], ',' ∉ v.display.toList := by
    decide +kernel
  have read : Kind.list.read 10 (.list [.str " host ", .int 9092]) =
      .ok (.items ["host", "9092"]) := by
    rfl
  refine ⟨simple, comma, read, Kind.read_stringified simple ?_ read (le_refl 4) _⟩
  rintro vs (same | same) <;> cases same
  exact ⟨comma, fun v one => by cases one⟩

end RestConfig

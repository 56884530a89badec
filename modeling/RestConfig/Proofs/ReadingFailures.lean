import RestConfig.Proofs.Validation
import RestConfig.Proofs.Rendering

/-!
# What reading a value can raise

Reading a value as a kind refuses it with a bad-value message that cites the value, with three
exceptions. A value that cannot be cited with the room the reading has (it holds an integer of
more than 4300 digits, or nests deeper than the room) is refused first, whatever the kind, with
the fault met: a plain value error or a recursion error. A text for an int or long key whose
digits number more than 4300 meets the conversion limit of the integer reader, a plain value
error; an integer for a double key too large for binary64 cannot be converted, an overflow
error. None is a bad value, so validation does not turn them into issues: it stops at the first
key, in schema order, whose supplied value overflows, with that key's failure. When no supplied
value overflows, and the constraints refuse only with bad-value messages, validation always
answers a verdict.

Main statement: `Schema.validate_fails_only_on_overflow`.
-/

namespace RestConfig

open Text Reading

/-- A value a kind's reading cannot convert with a room: a value that cannot be cited with that
room, a whole-number text with more digits than integers are read from, or an integer beyond
binary64 for a double. -/
def Kind.Overflows (k : Kind) (room : Nat) (raw : Value) : Prop :=
  raw.reprFault room ≠ none ∨
    ((k = .int ∨ k = .long) ∧ ∃ s neg ds, raw = .str s ∧
      wholeDigits? (trimBlanks s.toList) = some (neg, ds) ∧ integerDigitLimit < ds.length) ∨
    (k = .double ∧ ∃ i, raw = .int i ∧ (Binary64.ofInt i).isInfinite = true)

theorem Value.zoneFault_kind {r : Nat} {offset : Option Int} {f : Failure}
    (h : Value.zoneFault r offset = some f) : f.kind = "RecursionError" := by
  unfold Value.zoneFault at h
  split at h
  · cases h
  · split at h
    · cases h
      rfl
    · split at h
      · cases h
      · cases h
        rfl
    · cases h

mutual
/-- A fault met citing a value is a value error, for an integer too long to write, or a
recursion error, for the room that ran out. -/
theorem Value.reprFault_kind : ∀ {r : Nat} {f : Failure} (v : Value), v.reprFault r = some f →
    f.kind = "ValueError" ∨ f.kind = "RecursionError"
  | 0, _, _, h => by
    rw [Value.reprFault_zero] at h
    cases h
    exact .inr rfl
  | _ + 1, _, .int i, h => by
    change (if (toString i.natAbs).length ≤ integerDigitLimit then Option.none
      else some writeLimitFailure) = _ at h
    split at h
    · cases h
    · cases h
      exact .inl rfl
  | _ + 1, _, .list items, h | _ + 1, _, .tuple items, h => Value.reprFaultItems_kind items h
  | _ + 1, _, .map entries, h => Value.reprFaultEntries_kind entries h
  | 1, _, .set [], h => by cases h
  | 1, _, .set (_ :: _), h => by
    cases h
    exact .inr rfl
  | _ + 2, _, .set items, h => by
    rw [Value.reprFault] at h
    exact Value.reprFaultItems_kind items h
  | 1, _, .password _, h | 1, _, .required, h => by
    cases h
    exact .inr rfl
  | _ + 2, _, .password _, h | _ + 2, _, .required, h => by cases h
  | _ + 1, _, .time _, h | _ + 1, _, .datetime _ _, h => .inr (Value.zoneFault_kind h)
  | _ + 1, _, .none, h | _ + 1, _, .bool _, h | _ + 1, _, .float _, h | _ + 1, _, .str _, h
  | _ + 1, _, .bytes _, h | _ + 1, _, .date _, h => by cases h

theorem Value.reprFaultItems_kind : ∀ {r : Nat} {f : Failure} (items : List Value),
    Value.reprFaultItems r items = some f → f.kind = "ValueError" ∨ f.kind = "RecursionError"
  | _, _, [], h => by cases h
  | _, _, v :: rest, h => by
    rcases Option.or_eq_some_iff.mp h with here | ⟨-, later⟩
    · exact Value.reprFault_kind v here
    · exact Value.reprFaultItems_kind rest later

theorem Value.reprFaultEntries_kind : ∀ {r : Nat} {f : Failure} (entries : List (Value × Value)),
    Value.reprFaultEntries r entries = some f → f.kind = "ValueError" ∨ f.kind = "RecursionError"
  | _, _, [], h => by cases h
  | _, _, (k, v) :: rest, h => by
    rcases Option.or_eq_some_iff.mp h with here | ⟨-, later⟩
    · rcases Option.or_eq_some_iff.mp here with key | ⟨-, value⟩
      · exact Value.reprFault_kind k key
      · exact Value.reprFault_kind v value
    · exact Value.reprFaultEntries_kind rest later
end

theorem Kind.readCitable_double_int (i : Int) :
    Kind.double.readCitable (.int i) =
      if (Binary64.ofInt i).isInfinite then .error .tooLargeForDouble
      else .ok (.real (Binary64.ofInt i)) := rfl

theorem Kind.read_of_reprFault_some {k : Kind} {room : Nat} {raw : Value} {f : Failure}
    (h : raw.reprFault room = some f) : k.read room raw = .error (.uncited f) := by
  simp [Kind.read, h]

theorem Kind.wholeWithin_error {k : Kind} {raw : Value} {i : Int} {e : ReadError}
    (h : k.wholeWithin raw i = .error e) : e = .mismatch k raw := by
  unfold Kind.wholeWithin at h
  split at h
  · cases h
  · cases h
    rfl

/-- How reading a value that can be cited refuses it: with a mismatch, or for a whole-number
kind a numeral of too many digits, or for a double an integer beyond binary64. -/
theorem Kind.readCitable_error_cases {k : Kind} {raw : Value} {e : ReadError}
    (h : k.readCitable raw = .error e) :
    e = .mismatch k raw ∨
    ((k = .int ∨ k = .long) ∧ ∃ s neg ds, raw = .str s ∧
      wholeDigits? (trimBlanks s.toList) = some (neg, ds) ∧ integerDigitLimit < ds.length ∧
      e = .tooManyDigits ds.length) ∨
    (k = .double ∧ ∃ i, raw = .int i ∧ (Binary64.ofInt i).isInfinite = true ∧
      e = .tooLargeForDouble) := by
  unfold Kind.readCitable at h
  split at h <;> dsimp only at h
  case h_1 | h_2 | h_3 | h_4 | h_13 | h_14 => cases h
  case h_15 => split at h <;> cases h
  case h_5 | h_11 =>
    split at h
    · cases h
    · cases h
      exact .inl rfl
  case h_6 | h_7 => exact .inl (Kind.wholeWithin_error h)
  case h_12 =>
    split at h
    · split at h
      · cases h
      · cases h
        exact .inl rfl
    · cases h
      exact .inl rfl
  case h_16 =>
    cases h
    exact .inl rfl
  case h_8 | h_9 =>
    rename_i s
    split at h
    · rename_i neg ds found
      split at h
      · rename_i long
        cases h
        exact .inr (.inl ⟨by simp, s, neg, ds, rfl, found, long, rfl⟩)
      · exact .inl (Kind.wholeWithin_error h)
    · cases h
      exact .inl rfl
  case h_10 =>
    rename_i i
    split at h
    · rename_i infinite
      cases h
      exact .inr (.inr ⟨rfl, i, rfl, infinite, rfl⟩)
    · cases h

theorem Kind.read_error_cases {k : Kind} {room : Nat} {raw : Value} {e : ReadError}
    (h : k.read room raw = .error e) :
    e = .mismatch k raw ∨ (∃ f, raw.reprFault room = some f ∧ e = .uncited f) ∨
    ((k = .int ∨ k = .long) ∧ ∃ s neg ds, raw = .str s ∧
      wholeDigits? (trimBlanks s.toList) = some (neg, ds) ∧ integerDigitLimit < ds.length ∧
      e = .tooManyDigits ds.length) ∨
    (k = .double ∧ ∃ i, raw = .int i ∧ (Binary64.ofInt i).isInfinite = true ∧
      e = .tooLargeForDouble) := by
  cases cited : raw.reprFault room with
  | some f =>
    rw [Kind.read_of_reprFault_some cited] at h
    cases h
    exact .inr (.inl ⟨f, rfl, rfl⟩)
  | none =>
    rw [Kind.read_of_reprFault cited] at h
    rcases Kind.readCitable_error_cases h with mismatch | digits | double
    · exact .inl mismatch
    · exact .inr (.inr (.inl digits))
    · exact .inr (.inr (.inr double))

theorem Kind.read_of_overflows {k : Kind} {room : Nat} {raw : Value} (h : k.Overflows room raw) :
    ∃ e, k.read room raw = .error e ∧ (e.toFailure.kind = "ValueError" ∨
      e.toFailure.kind = "OverflowError" ∨ e.toFailure.kind = "RecursionError") := by
  cases cited : raw.reprFault room with
  | some f =>
    refine ⟨.uncited f, Kind.read_of_reprFault_some cited, ?_⟩
    rcases Value.reprFault_kind raw cited with value | deep
    · exact .inl value
    · exact .inr (.inr deep)
  | none =>
    rw [Kind.read_of_reprFault cited]
    rcases h with uncited | ⟨whole, s, neg, ds, rfl, found, long⟩ | ⟨rfl, i, rfl, infinite⟩
    · exact absurd cited uncited
    · refine ⟨.tooManyDigits ds.length, ?_, .inl rfl⟩
      rw [Kind.read_whole_str whole, found]
      simp [long]
    · exact ⟨.tooLargeForDouble, by rw [Kind.readCitable_double_int, if_pos infinite], .inr (.inl rfl)⟩

theorem Kind.read_refusal_kind {k : Kind} {room : Nat} {raw : Value} {e : ReadError}
    (h : k.read room raw = .error e) :
    (e.toFailure.kind = "ConfigValueError" ↔ ¬ k.Overflows room raw) ∧
      (k.Overflows room raw → e.toFailure.kind = "ValueError" ∨
        e.toFailure.kind = "OverflowError" ∨ e.toFailure.kind = "RecursionError") := by
  have overflowing : k.Overflows room raw → e.toFailure.kind = "ValueError" ∨
      e.toFailure.kind = "OverflowError" ∨ e.toFailure.kind = "RecursionError" := by
    intro spills
    obtain ⟨e', refused, kind⟩ := Kind.read_of_overflows spills
    rw [h] at refused
    cases refused
    exact kind
  refine ⟨⟨fun bad spills => ?_, fun fits => ?_⟩, overflowing⟩
  · rcases overflowing spills with wrong | wrong | wrong <;> rw [bad] at wrong <;>
      exact absurd wrong (by decide)
  · rcases Kind.read_error_cases h with rfl | ⟨f, cited, rfl⟩ |
      ⟨whole, s, neg, ds, rfl, found, long, rfl⟩ | ⟨rfl, i, rfl, infinite, rfl⟩
    · rfl
    · exact absurd (.inl (by simp [cited])) fits
    · exact absurd (.inr (.inl ⟨whole, s, neg, ds, rfl, found, long⟩)) fits
    · exact absurd (.inr (.inr ⟨rfl, i, rfl, infinite⟩)) fits

/- Room for two levels only: a list in a list in a list is refused for want of room, whatever the
kind. -/
example : Kind.string.read 2 (.list [.list [.list []]]) =
    .error (.uncited Site.representation.failure) := rfl

/-- A key's constraint refuses the key's default, and every setting read for the key, only with
bad-value messages. -/
def Key.ConstraintReports (k : Key) : Prop :=
  ∀ c, k.constraint = some c → ∀ s f,
    (k.default = some s ∨ ∃ room raw, k.kind.read room raw = .ok s) →
    c.check s.toValue = .error f → ∃ m, f = .badValue m

/-- The value supplied for a key overflows the key's kind, read with a room. -/
def Key.Overflowing (k : Key) (room : Nat) (props : Props) : Prop :=
  ∃ raw, props.get? k.name = some raw ∧ k.kind.Overflows room raw

theorem Key.resolve_of_overflowing {k : Key} {room : Nat} {props : Props} {raw : Value}
    {e : ReadError} (hv : props.get? k.name = some raw) (spills : k.kind.Overflows room raw)
    (refused : k.kind.read room raw = .error e) : k.resolve room props = .error e.toFailure := by
  rcases Kind.read_error_cases refused with rfl | ⟨f, -, rfl⟩ | ⟨-, s, neg, ds, -, -, -, rfl⟩ |
    ⟨-, i, -, -, rfl⟩
  · exact absurd spills ((Kind.read_refusal_kind refused).1.mp rfl)
  · simp [Key.resolve, hv, refused]
  · simp [Key.resolve, hv, refused]
  · simp [Key.resolve, hv, refused]

theorem Key.resolve_ok_of_not_overflowing {k : Key} {room : Nat} {props : Props}
    (reports : k.ConstraintReports) (fits : ¬ k.Overflowing room props) :
    ∃ out, k.resolve room props = .ok out := by
  unfold Key.resolve
  cases hv : props.get? k.name with
  | none =>
    cases hd : k.default with
    | none => simp
    | some s =>
      cases hc : k.constraint with
      | none => simp
      | some c =>
        cases hk : c.check s.toValue with
        | ok u => simp [hk]
        | error f =>
          obtain ⟨m, rfl⟩ := reports c hc s f (.inl hd) hk
          simp [hk]
  | some raw =>
    cases hr : k.kind.read room raw with
    | error e =>
      have mismatch : e = .mismatch k.kind raw := by
        rcases Kind.read_error_cases hr with same | ⟨f, cited, -⟩ |
          ⟨whole, s, neg, ds, rfl, found, long, -⟩ | ⟨double, i, rfl, infinite, -⟩
        · exact same
        · exact absurd ⟨_, hv, .inl (by simp [cited])⟩ fits
        · exact absurd ⟨_, hv, .inr (.inl ⟨whole, s, neg, ds, rfl, found, long⟩)⟩ fits
        · exact absurd ⟨_, hv, .inr (.inr ⟨double, i, rfl, infinite⟩)⟩ fits
      subst mismatch
      cases k.constraint <;> simp [hr]
    | ok s =>
      cases hc : k.constraint with
      | none => simp [hr]
      | some c =>
        cases hk : c.check s.toValue with
        | ok u => simp [hr, hk]
        | error f =>
          obtain ⟨m, rfl⟩ := reports c hc s f (.inr ⟨room, raw, hr⟩) hk
          simp [hr, hk]

section Run

variable {room : Nat} {props : Props}

theorem Key.Overflowing.fails {k : Key} (h : k.Overflowing room props) :
    ∃ raw e, props.get? k.name = some raw ∧ k.kind.Overflows room raw ∧
      k.kind.read room raw = .error e ∧ k.resolve room props = .error e.toFailure := by
  obtain ⟨raw, hv, overflows⟩ := h
  obtain ⟨e, refused, -⟩ := Kind.read_of_overflows overflows
  exact ⟨raw, e, hv, overflows, refused, Key.resolve_of_overflowing hv overflows refused⟩

theorem resolveAll_cons_of_resolve {k : Key} {ks : List Key} {out : Except Issue Setting}
    (h : k.resolve room props = .ok out) :
    resolveAll room props (k :: ks) = (resolveAll room props ks).map fun r =>
      match out with
      | .ok s => ((k.name, s) :: r.1, r.2)
      | .error i => (r.1, i :: r.2) := by
  simp only [resolveAll, h, Except.ok_bind]
  cases resolveAll room props ks <;> cases out <;> rfl

theorem Except.map_eq_error_iff {ε α β : Type} {g : α → β} {x : Except ε α} {e : ε} :
    x.map g = .error e ↔ x = .error e := by
  cases x <;> simp [Except.map]

theorem Except.map_answers_iff {ε α β : Type} {g : α → β} {x : Except ε α} :
    (∃ b, x.map g = .ok b) ↔ ∃ a, x = .ok a := by
  cases x <;> simp [Except.map]

theorem resolveAll_answers_iff {ks : List Key} (reports : ∀ k ∈ ks, k.ConstraintReports) :
    (∃ r, resolveAll room props ks = .ok r) ↔ ∀ k ∈ ks, ¬ k.Overflowing room props := by
  induction ks with
  | nil => simp [resolveAll]
  | cons k ks ih =>
    have rest := ih fun k' mem => reports k' (List.mem_cons_of_mem k mem)
    by_cases spills : k.Overflowing room props
    · obtain ⟨raw, e, hv, overflows, -, fails⟩ := spills.fails
      simp only [resolveAll, fails, Except.error_bind, reduceCtorEq, exists_false, false_iff,
        not_forall, not_not]
      exact ⟨k, List.mem_cons_self, raw, hv, overflows⟩
    · obtain ⟨out, resolved⟩ :=
        Key.resolve_ok_of_not_overflowing (reports k List.mem_cons_self) spills
      rw [resolveAll_cons_of_resolve resolved, Except.map_answers_iff, rest]
      simp [spills]

theorem resolveAll_error_iff {ks : List Key} (reports : ∀ k ∈ ks, k.ConstraintReports)
    (f : Failure) :
    resolveAll room props ks = .error f ↔
      ∃ pre k post raw e, ks = pre ++ k :: post ∧ (∀ k' ∈ pre, ¬ k'.Overflowing room props) ∧
        props.get? k.name = some raw ∧ k.kind.Overflows room raw ∧
        k.kind.read room raw = .error e ∧ f = e.toFailure := by
  induction ks with
  | nil =>
    simp only [resolveAll, Except.pure_eq_ok, reduceCtorEq, false_iff, not_exists, not_and]
    intro pre k post _ _ listed
    simp at listed
  | cons k ks ih =>
    have rest := ih fun k' mem => reports k' (List.mem_cons_of_mem k mem)
    by_cases spills : k.Overflowing room props
    · obtain ⟨raw, e, hv, overflows, refused, fails⟩ := spills.fails
      simp only [resolveAll, fails, Except.error_bind, Except.error.injEq]
      constructor
      · rintro rfl
        exact ⟨[], k, ks, raw, e, rfl, by simp, hv, overflows, refused, rfl⟩
      · rintro ⟨pre, k', post, raw', e', split, before, hv', overflows', refused', rfl⟩
        cases pre with
        | nil =>
          obtain ⟨rfl, rfl⟩ := List.cons.inj split
          rw [hv] at hv'
          cases hv'
          rw [refused] at refused'
          cases refused'
          rfl
        | cons first pre =>
          obtain ⟨rfl, -⟩ := List.cons.inj split
          exact absurd ⟨raw, hv, overflows⟩ (before k List.mem_cons_self)
    · obtain ⟨out, resolved⟩ :=
        Key.resolve_ok_of_not_overflowing (reports k List.mem_cons_self) spills
      rw [resolveAll_cons_of_resolve resolved, Except.map_eq_error_iff, rest]
      constructor
      · rintro ⟨pre, k', post, raw, e, rfl, before, hv, overflows, refused, rfl⟩
        refine ⟨k :: pre, k', post, raw, e, rfl, ?_, hv, overflows, refused, rfl⟩
        intro k'' mem
        rcases List.mem_cons.mp mem with rfl | earlier
        · exact spills
        · exact before k'' earlier
      · rintro ⟨pre, k', post, raw, e, split, before, hv, overflows, refused, rfl⟩
        cases pre with
        | nil =>
          obtain ⟨rfl, rfl⟩ := List.cons.inj split
          exact absurd ⟨raw, hv, overflows⟩ spills
        | cons first pre =>
          obtain ⟨rfl, rfl⟩ := List.cons.inj split
          exact ⟨pre, k', post, raw, e, rfl, fun k'' mem => before k'' (List.mem_cons_of_mem _ mem),
            hv, overflows, refused, rfl⟩

end Run

theorem Schema.validate_error_iff {s : Schema} {room : Nat} {props : Props} {f : Failure} :
    s.validate room props = .error f ↔ resolveAll room props s.keys = .error f := by
  unfold Schema.validate
  cases resolveAll room props s.keys with
  | error f' => simp
  | ok result =>
    simp only [Except.ok_bind]
    split <;> simp

theorem Schema.validate_answers_iff {s : Schema} {room : Nat} {props : Props} :
    (∃ r, s.validate room props = .ok r) ↔ ∃ r, resolveAll room props s.keys = .ok r := by
  unfold Schema.validate
  cases resolveAll room props s.keys with
  | error f => simp
  | ok result =>
    simp only [Except.ok_bind]
    split <;> simp

/-- Validation with a room, for a schema whose constraints refuse defaults and read settings
only with bad-value messages, answers a verdict exactly when no supplied value overflows its
key's kind. Otherwise it fails with the reading failure of the first key, in schema order,
whose supplied value overflows: a value error for a value holding an integer too long to write
or for a whole-number text of too many digits, a recursion error for a value nested deeper than
the room, an overflow error for an integer beyond binary64 given to a double, never a bad value.
Reading alone refuses every other value with a bad value. -/
theorem Schema.validate_fails_only_on_overflow {s : Schema}
    (reports : ∀ k ∈ s.keys, k.ConstraintReports) (room : Nat) (props : Props) :
    (∀ (k : Kind) raw e, k.read room raw = .error e →
      (e.toFailure.kind = "ConfigValueError" ↔ ¬ k.Overflows room raw)) ∧
    ((∃ r, s.validate room props = .ok r) ↔ ∀ k ∈ s.keys, ¬ k.Overflowing room props) ∧
    (∀ f, s.validate room props = .error f ↔
      ∃ pre k post raw e, s.keys = pre ++ k :: post ∧
        (∀ k' ∈ pre, ¬ k'.Overflowing room props) ∧
        props.get? k.name = some raw ∧ k.kind.Overflows room raw ∧
        k.kind.read room raw = .error e ∧ f = e.toFailure) ∧
    (∀ f, s.validate room props = .error f →
      f.kind = "ValueError" ∨ f.kind = "OverflowError" ∨ f.kind = "RecursionError") := by
  have fails : ∀ f, s.validate room props = .error f ↔ _ := fun f =>
    Schema.validate_error_iff.trans (resolveAll_error_iff reports f)
  refine ⟨fun k raw e h => (Kind.read_refusal_kind h).1,
    Schema.validate_answers_iff.trans (resolveAll_answers_iff reports), fails, ?_⟩
  intro f failed
  obtain ⟨pre, k, post, raw, e, -, -, -, overflows, refused, rfl⟩ := (fails f).mp failed
  exact (Kind.read_refusal_kind refused).2 overflows

/-- A schema of one required double key, `ratio`, with no constraint. -/
def ratioSchema : Schema :=
  ⟨[{ name := "ratio", kind := .double, default := none, importance := .low, doc := "",
      constraint := none }]⟩

/-- `2 ^ 1024` given for a double is beyond binary64: reading it is an overflow error, not a
bad value, and validation fails with that overflow instead of answering a verdict. A list
nested three deep, read with room for two levels, fails for want of room. -/
theorem huge_integer_ratio_fails_validation :
    (∀ k ∈ ratioSchema.keys, k.ConstraintReports) ∧
    Kind.double.read 10 (.int (2 ^ 1024)) = .error .tooLargeForDouble ∧
    ReadError.tooLargeForDouble.toFailure.kind = "OverflowError" ∧
    ratioSchema.validate 10 [("ratio", .int (2 ^ 1024))] =
      .error ReadError.tooLargeForDouble.toFailure ∧
    ratioSchema.validate 2 [("ratio", .list [.list [.list []]])] =
      .error Site.representation.failure := by
  have reports : ∀ k ∈ ratioSchema.keys, k.ConstraintReports := by
    intro k mem c hc
    simp only [ratioSchema, List.mem_singleton] at mem
    subst mem
    cases hc
  have infinite : (Binary64.ofInt (2 ^ 1024)).isInfinite = true := by decide +kernel
  have cited : (Value.int (2 ^ 1024)).reprFault 10 = none := by
    rw [Value.reprFault, if_pos (by decide +kernel)]
  have read : Kind.double.read 10 (.int (2 ^ 1024)) = .error .tooLargeForDouble := by
    rw [Kind.read_of_reprFault cited, Kind.readCitable_double_int, if_pos infinite]
  have deep : (Value.list [.list [.list []]]).reprFault 2 = some Site.representation.failure :=
    rfl
  obtain ⟨-, -, fails, -⟩ := Schema.validate_fails_only_on_overflow reports 10
    [("ratio", .int (2 ^ 1024))]
  obtain ⟨-, -, failsDeep, -⟩ := Schema.validate_fails_only_on_overflow reports 2
    [("ratio", .list [.list [.list []]])]
  have overflows : Kind.double.Overflows 10 (.int (2 ^ 1024)) :=
    .inr (.inr ⟨rfl, _, rfl, infinite⟩)
  have tooDeep : Kind.double.Overflows 2 (.list [.list [.list []]]) := .inl (by simp [deep])
  refine ⟨reports, read, rfl, (fails _).mpr ?_, (failsDeep _).mpr ?_⟩
  · exact ⟨[], _, [], _, _, rfl, (fun _ mem => nomatch mem), rfl, overflows, read, rfl⟩
  · exact ⟨[], _, [], _, _, rfl, (fun _ mem => nomatch mem), rfl, tooDeep,
      Kind.read_of_reprFault_some deep, rfl⟩

end RestConfig

import Mathlib
import RestConfig.Schema.Docs
import RestConfig.Proofs.Basic

/-!
# The reference documentation of a schema

Documentation lists the keys of a schema required keys first, then by importance, then by
name, and shows each key's default by the first of four rules that applies
(`Key.ShownDefault`). Table rows are always written. The reStructuredText reference and the
records also show each key's valid values, and are written exactly when every one-of
constraint lists only texts: the choices of any other one-of cannot be joined into a text.

Main statement: `Schema.documented_keys`.
-/

namespace RestConfig

/-! ## Traversals that may fail -/

theorem mapM_eq_ok_iff {α β ε : Type} {f : α → Except ε β} {l : List α} {r : List β} :
    l.mapM f = .ok r ↔ List.Forall₂ (fun a b => f a = .ok b) l r := by
  induction l generalizing r with
  | nil =>
    rw [List.mapM_nil, Except.pure_eq_ok, Except.ok.injEq, List.forall₂_nil_left_iff]
    exact eq_comm
  | cons a l ih =>
    simp only [List.mapM_cons, Except.bind_eq_ok_iff, Except.pure_eq_ok, Except.ok.injEq, ih,
      List.forall₂_cons_left_iff]
    constructor
    · rintro ⟨b, hb, bs, rest, rfl⟩
      exact ⟨b, bs, hb, rest, rfl⟩
    · rintro ⟨b, bs, hb, rest, rfl⟩
      exact ⟨b, hb, bs, rest, rfl⟩

theorem mapM_eq_ok_map {α β ε : Type} {f : α → Except ε β} {g : α → β} {l : List α}
    (each : ∀ a ∈ l, f a = .ok (g a)) : l.mapM f = .ok (l.map g) := by
  rw [mapM_eq_ok_iff, List.forall₂_map_right_iff, List.forall₂_same]
  exact each

theorem mapM_ok_iff {α β ε : Type} {f : α → Except ε β} {l : List α} :
    (∃ r, l.mapM f = .ok r) ↔ ∀ a ∈ l, ∃ b, f a = .ok b := by
  induction l with
  | nil => exact ⟨fun _ a ha => absurd ha List.not_mem_nil, fun _ => ⟨[], rfl⟩⟩
  | cons a l ih =>
    simp only [List.mapM_cons, Except.bind_eq_ok_iff, Except.pure_eq_ok, List.mem_cons,
      forall_eq_or_imp, ← ih]
    constructor
    · rintro ⟨_, b, hb, bs, rest, -⟩
      exact ⟨⟨b, hb⟩, bs, rest⟩
    · rintro ⟨⟨b, hb⟩, bs, rest⟩
      exact ⟨_, b, hb, bs, rest, rfl⟩

/-! ## The order of documentation -/

/-- Where a key stands in documentation: whether it has a default, its importance's rank and
its name, compared in that order. -/
def Key.docKey (k : Key) : Lex (Nat × Lex (Nat × String)) :=
  toLex (if k.hasDefault then 1 else 0, toLex (k.importance.rank, k.name))

theorem Key.docBefore_iff (a b : Key) : a.docBefore b = true ↔ a.docKey ≤ b.docKey := by
  simp only [docBefore, docKey, Prod.Lex.toLex_le_toLex]
  split_ifs <;> simp_all

theorem Key.name_eq_of_docKey_eq {a b : Key} (h : a.docKey = b.docKey) : a.name = b.name := by
  simp only [docKey, toLex_inj, Prod.mk.injEq] at h
  exact h.2.2

theorem Schema.docOrder_perm (s : Schema) : s.docOrder.Perm s.keys :=
  List.mergeSort_perm _ _

theorem Schema.docOrder_sorted (s : Schema) :
    s.docOrder.Pairwise fun a b => a.docKey ≤ b.docKey := by
  have sorted := List.pairwise_mergeSort
    (fun a b c (hab : a.docBefore b = true) hbc => by
      rw [Key.docBefore_iff] at *
      exact le_trans hab hbc)
    (fun a b => by
      rw [Bool.or_eq_true, Key.docBefore_iff, Key.docBefore_iff]
      exact le_total _ _) s.keys
  unfold Schema.docOrder
  simpa only [Key.docBefore_iff] using sorted

theorem Schema.docOrder_strict {s : Schema} (nodup : s.names.Nodup) :
    s.docOrder.Pairwise fun a b => a.docKey < b.docKey := by
  have names : (s.docOrder.map Key.name).Nodup :=
    (s.docOrder_perm.map Key.name).nodup_iff.mpr nodup
  refine (s.docOrder_sorted.and (List.pairwise_map.mp names)).imp fun ⟨le, ne⟩ => ?_
  exact lt_of_le_of_ne le fun same => ne (Key.name_eq_of_docKey_eq same)

/-! ## The default shown -/

/-- What the documentation of a key shows as its default, by the first rule that applies. -/
inductive Key.ShownDefault (k : Key) : String → Prop
  /-- A key without a default is marked as required. -/
  | required : k.default = none → ShownDefault k "(required)"
  /-- The default of a secret is hidden, and so is a default that is a secret. -/
  | hidden {d : Setting} : k.default = some d → (k.kind = .password ∨ ∃ p, d = .secret p) →
      ShownDefault k hiddenText
  /-- An empty text is shown as a pair of quotes. -/
  | quoted : k.kind = .string → k.default = some (.text "") → ShownDefault k "\"\""
  /-- Any other default is shown rendered, when it can be written. -/
  | rendered {d : Setting} : k.default = some d → k.kind ≠ .password → (∀ p, d ≠ .secret p) →
      (k.kind = .string → d ≠ .text "") → d.toValue.citable = true →
      ShownDefault k d.toValue.propertyText

theorem Setting.render_eq_ok_iff (d : Setting) (t : String) :
    d.render = .ok t ↔ d.toValue.citable = true ∧ d.toValue.propertyText = t := by
  unfold Setting.render Value.render
  cases d.toValue.citable <;> simp

theorem Key.shownDefault_of_ok {k : Key} {t : String} (h : k.defaultOrRequired = .ok t) :
    k.ShownDefault t := by
  unfold defaultOrRequired hasDefault at h
  cases hd : k.default with
  | none =>
    simp only [hd, Option.isSome_none, Bool.false_eq_true, if_false, Except.ok.injEq] at h
    exact h ▸ .required hd
  | some d =>
    simp only [Option.isSome_some, if_true, defaultText, hd] at h
    split at h
    · exact Except.ok.inj h ▸ .hidden hd (.inl ‹_›)
    · exact Except.ok.inj h ▸ .hidden hd (.inr ⟨_, rfl⟩)
    · exact Except.ok.inj h ▸ .quoted ‹_› hd
    · rename_i d _ _ not_secret not_password not_quoted
      obtain ⟨citable, rfl⟩ := (Setting.render_eq_ok_iff d t).mp h
      refine .rendered hd not_password (fun p h => not_secret p h) ?_ citable
      rintro string rfl
      exact not_quoted string rfl

theorem Key.defaultOrRequired_of_shown {k : Key} {t : String} (shown : k.ShownDefault t) :
    k.defaultOrRequired = .ok t := by
  unfold defaultOrRequired hasDefault
  cases shown with
  | required none => simp [none]
  | hidden some secret =>
    simp only [some, Option.isSome_some, if_true, defaultText]
    rcases secret with password | ⟨p, rfl⟩
    · rw [password]
    · split <;> simp_all
  | quoted string empty => simp [empty, defaultText, string]
  | rendered some not_password not_secret not_quoted citable =>
    simp only [some, Option.isSome_some, if_true, defaultText]
    exact (Setting.render_eq_ok_iff _ _).mpr ⟨citable, rfl⟩

theorem Key.defaultOrRequired_eq_ok_iff (k : Key) (t : String) :
    k.defaultOrRequired = .ok t ↔ k.ShownDefault t :=
  ⟨Key.shownDefault_of_ok, Key.defaultOrRequired_of_shown⟩

theorem Key.ShownDefault.secret_hidden {k : Key} {t : String} (shown : k.ShownDefault t)
    {p : String} (hp : k.default = some (.secret p)) : t = hiddenText := by
  cases shown with
  | required none => simp [hp] at none
  | hidden => rfl
  | quoted _ empty => simp [hp] at empty
  | rendered some _ not_secret _ _ =>
    rw [hp, Option.some.injEq] at some
    exact absurd some.symm (not_secret p)

theorem Key.defaultOrRequired_of_secret {k : Key} {p : String} (hp : k.default = some (.secret p)) :
    k.defaultOrRequired = .ok hiddenText :=
  Key.defaultOrRequired_of_shown (.hidden hp (.inr ⟨p, rfl⟩))

theorem Key.defaultOrRequired_of_hasDefault {k : Key} (h : k.hasDefault = true) :
    k.defaultOrRequired = k.defaultText := if_pos h

/-! ## Valid values -/

/-- Whether documentation can write a constraint's valid values: every bound of a range can
be written, and every choice of a one-of is a text. -/
def Constraint.Showable : Constraint → Prop
  | .range lo hi => ∀ v, (lo = some v ∨ hi = some v) → v.citable = true
  | .oneOf cs => ∀ v ∈ cs, ∃ t, v = .str t

/-- Whether the valid values of a key, if it has a constraint, can be written. -/
def Key.ValuesShowable (k : Key) : Prop := ∀ c, k.constraint = some c → c.Showable

theorem Value.toText_ok_iff (v : Value) : (∃ t, v.toText = .ok t) ↔ v.citable = true := by
  unfold Value.toText
  cases v.citable <;> simp

theorem Constraint.joinTexts_go_ok_iff :
    ∀ (i : Nat) (items : List Value),
      (∃ r, joinTexts.go i items = .ok r) ↔ ∀ v ∈ items, ∃ t, v = .str t
  | _, [] => by simp [joinTexts.go]
  | i, v :: rest => by
    have ih := joinTexts_go_ok_iff (i + 1) rest
    cases v
    case str t =>
      rw [List.forall_mem_cons, ← ih]
      cases h : joinTexts.go (i + 1) rest <;> simp [joinTexts.go, h, Except.map]
    all_goals simp [joinTexts.go]

theorem Constraint.rangeText_ok_iff (lo hi : Option Value) :
    (∃ t, rangeText lo hi = .ok t) ↔ ∀ v, (lo = some v ∨ hi = some v) → v.citable = true := by
  cases lo <;> cases hi
  case none.none => simp [rangeText]
  case some.none l =>
    simp only [rangeText, Option.some.injEq, reduceCtorEq, or_false, forall_eq']
    cases hl : l.citable <;> simp [Value.toText, hl, Except.map]
  case none.some h =>
    simp only [rangeText, Option.some.injEq, reduceCtorEq, false_or, forall_eq']
    cases hh : h.citable <;> simp [Value.toText, hh, Except.map]
  case some.some l h =>
    have both : (∀ v, some l = some v ∨ some h = some v → v.citable = true) ↔
        l.citable = true ∧ h.citable = true := by
      constructor
      · intro all
        exact ⟨all l (.inl rfl), all h (.inr rfl)⟩
      · rintro ⟨cl, ch⟩ v (same | same) <;> cases same <;> assumption
    rw [both]
    cases hl : l.citable <;> cases hh : h.citable <;> simp [rangeText, Value.toText, hl, hh]

theorem Constraint.text_ok_iff (c : Constraint) : (∃ t, c.text = .ok t) ↔ c.Showable := by
  cases c with
  | range lo hi => exact rangeText_ok_iff lo hi
  | oneOf cs =>
    simp only [text, joinTexts, Showable]
    rw [← joinTexts_go_ok_iff 0 cs]
    cases joinTexts.go 0 cs <;> simp [Except.map]

theorem Key.validValues_ok_iff (k : Key) : (∃ v, k.validValues = .ok v) ↔ k.ValuesShowable := by
  unfold validValues ValuesShowable
  cases k.constraint with
  | none => simp
  | some c =>
    simp only [Option.some.injEq, forall_eq', ← c.text_ok_iff]
    cases c.text <;> simp

/-! ## The three forms -/

theorem Key.defaultOrRequired_ok_iff (k : Key) :
    (∃ t, k.defaultOrRequired = .ok t) ↔ ∃ t, k.ShownDefault t := by
  simp only [k.defaultOrRequired_eq_ok_iff]

theorem Key.row_ok_iff (k : Key) : (∃ r, k.row = .ok r) ↔ ∃ t, k.ShownDefault t := by
  rw [← k.defaultOrRequired_ok_iff]
  unfold row
  cases k.defaultOrRequired <;> simp

theorem Key.row_shows {k : Key} {r : List String} (h : k.row = .ok r) :
    r.head? = some k.name ∧ ∃ t, k.ShownDefault t ∧ r[3]? = some t := by
  unfold row at h
  cases hd : k.defaultOrRequired with
  | error e => simp [hd] at h
  | ok t =>
    simp only [hd, Except.ok_bind, Except.pure_eq_ok, Except.ok.injEq] at h
    subst h
    exact ⟨rfl, t, k.shownDefault_of_ok hd, rfl⟩

theorem Key.rstLines_ok_iff (k : Key) :
    (∃ b, k.rstLines = .ok b) ↔ (∃ t, k.ShownDefault t) ∧ k.ValuesShowable := by
  rw [← k.defaultOrRequired_ok_iff, ← k.validValues_ok_iff]
  unfold rstLines
  cases k.defaultOrRequired <;> cases k.validValues <;> simp

theorem Key.rstLines_shows {k : Key} {b : List String} (h : k.rstLines = .ok b) :
    b.head? = some ("``" ++ k.name ++ "``") ∧ ∃ t, k.ShownDefault t ∧ ("  * Default: " ++ t) ∈ b := by
  unfold rstLines at h
  cases hd : k.defaultOrRequired with
  | error e => simp [hd] at h
  | ok t =>
    cases hv : k.validValues with
    | error e => simp [hd, hv] at h
    | ok v =>
      simp only [hd, hv, Except.ok_bind, Except.pure_eq_ok, Except.ok.injEq] at h
      subst h
      exact ⟨rfl, t, k.shownDefault_of_ok hd, by simp⟩

theorem Key.record_eq {k : Key} {t : String} {v : Option String}
    (hd : k.defaultOrRequired = .ok t) (hv : k.validValues = .ok v) :
    k.record = .ok ⟨k.name, k.kind.name, k.importance.name, !k.hasDefault,
      if k.hasDefault then some t else none, v, k.doc⟩ := by
  unfold record
  by_cases has : k.hasDefault = true
  · rw [defaultOrRequired_of_hasDefault has] at hd
    simp [has, hd, hv]
  · rw [defaultOrRequired, if_neg has] at hd
    cases hd
    simp [has, hv]

theorem Key.written_of_record {k : Key} {r : DocRecord} (h : k.record = .ok r) :
    (∃ t, k.defaultOrRequired = .ok t) ∧ ∃ v, k.validValues = .ok v := by
  unfold record at h
  by_cases has : k.hasDefault = true
  · rw [defaultOrRequired_of_hasDefault has]
    cases hd : k.defaultText <;> cases hv : k.validValues <;> simp_all
  · rw [defaultOrRequired, if_neg has]
    cases hv : k.validValues <;> simp_all

theorem Key.record_ok_iff (k : Key) :
    (∃ r, k.record = .ok r) ↔ (∃ t, k.ShownDefault t) ∧ k.ValuesShowable := by
  rw [← k.defaultOrRequired_ok_iff, ← k.validValues_ok_iff]
  constructor
  · rintro ⟨r, h⟩
    exact Key.written_of_record h
  · rintro ⟨⟨t, hd⟩, ⟨v, hv⟩⟩
    exact ⟨_, Key.record_eq hd hv⟩

theorem Key.record_shows {k : Key} {r : DocRecord} (h : k.record = .ok r) :
    r.name = k.name ∧ r.required = !k.hasDefault ∧
      ∃ t, k.ShownDefault t ∧ r.default = if k.hasDefault then some t else none := by
  obtain ⟨⟨t, hd⟩, ⟨v, hv⟩⟩ := Key.written_of_record h
  rw [Key.record_eq hd hv, Except.ok.injEq] at h
  subst h
  exact ⟨rfl, rfl, t, k.shownDefault_of_ok hd, rfl⟩

theorem Schema.rows_ok_iff (s : Schema) :
    (∃ rows, s.rows = .ok rows) ↔ ∀ k ∈ s.keys, ∃ t, k.ShownDefault t := by
  rw [rows, mapM_ok_iff]
  simp only [Key.row_ok_iff, s.docOrder_perm.mem_iff]

theorem Schema.rows_show {s : Schema} {rows : List (List String)} (h : s.rows = .ok rows) :
    List.Forall₂ (fun k row => row.head? = some k.name ∧ ∃ t, k.ShownDefault t ∧ row[3]? = some t)
      s.docOrder rows :=
  (mapM_eq_ok_iff.mp h).imp fun _ _ => Key.row_shows

theorem Schema.rst_ok_iff (s : Schema) :
    (∃ text, s.rst = .ok text) ↔ ∀ k ∈ s.keys, (∃ t, k.ShownDefault t) ∧ k.ValuesShowable := by
  have written : (∃ text, s.rst = .ok text) ↔ ∃ blocks, s.docOrder.mapM Key.rstLines = .ok blocks := by
    unfold rst
    cases s.docOrder.mapM Key.rstLines <;> simp
  rw [written, mapM_ok_iff]
  simp only [Key.rstLines_ok_iff, s.docOrder_perm.mem_iff]

theorem Schema.rst_blocks {s : Schema} {text : String} (h : s.rst = .ok text) :
    ∃ blocks, text = "\n".intercalate blocks.flatten ∧
      List.Forall₂ (fun k b => b.head? = some ("``" ++ k.name ++ "``") ∧
        ∃ t, k.ShownDefault t ∧ ("  * Default: " ++ t) ∈ b) s.docOrder blocks := by
  unfold rst at h
  obtain ⟨blocks, written, joined⟩ := Except.bind_eq_ok_iff.mp h
  refine ⟨blocks, (Except.ok.inj joined).symm, ?_⟩
  exact (mapM_eq_ok_iff.mp written).imp fun _ _ => Key.rstLines_shows

theorem Schema.records_ok_iff (s : Schema) :
    (∃ rs, s.records = .ok rs) ↔ ∀ k ∈ s.keys, (∃ t, k.ShownDefault t) ∧ k.ValuesShowable := by
  rw [records, mapM_ok_iff]
  simp only [Key.record_ok_iff, s.docOrder_perm.mem_iff]

theorem Schema.records_show {s : Schema} {rs : List DocRecord} (h : s.records = .ok rs) :
    List.Forall₂ (fun k r => r.name = k.name ∧ r.required = !k.hasDefault ∧
      ∃ t, k.ShownDefault t ∧ r.default = if k.hasDefault then some t else none) s.docOrder rs :=
  (mapM_eq_ok_iff.mp h).imp fun _ _ => Key.record_shows

/-- The documentation of a schema with one key per name. Its keys are documented once each,
in strictly increasing order of (has a default, importance rank, name), so required keys come
first. Each key's shown default is the one text `Key.ShownDefault` gives, if any: a rendered
default must be written, so no secret is ever shown. The table rows are written exactly when
every key has a shown default, one per key in that order, the default in the fourth column.
The reference and the records are written exactly when, besides, every key's valid values can
be written (range bounds that can be written, one-of choices that are texts); the reference
is then the keys' blocks in that order, each opening with the key's name and showing its
default, and the records follow the same order, each flagging a key as required exactly when
it has no default and showing the default otherwise. -/
theorem Schema.documented_keys {s : Schema} (nodup : s.names.Nodup) :
    s.docOrder.Perm s.keys ∧
    s.docOrder.Pairwise (fun a b => a.docKey < b.docKey) ∧
    (∀ k ∈ s.keys, (∀ t, k.defaultOrRequired = .ok t ↔ k.ShownDefault t) ∧
      ∀ p, k.default = some (.secret p) → k.defaultOrRequired = .ok hiddenText) ∧
    ((∃ rows, s.rows = .ok rows) ↔ ∀ k ∈ s.keys, ∃ t, k.ShownDefault t) ∧
    (∀ rows, s.rows = .ok rows → List.Forall₂ (fun k row => row.head? = some k.name ∧
      ∃ t, k.ShownDefault t ∧ row[3]? = some t) s.docOrder rows) ∧
    ((∃ text, s.rst = .ok text) ↔ ∀ k ∈ s.keys, (∃ t, k.ShownDefault t) ∧ k.ValuesShowable) ∧
    (∀ text, s.rst = .ok text → ∃ blocks, text = "\n".intercalate blocks.flatten ∧
      List.Forall₂ (fun k b => b.head? = some ("``" ++ k.name ++ "``") ∧
        ∃ t, k.ShownDefault t ∧ ("  * Default: " ++ t) ∈ b) s.docOrder blocks) ∧
    ((∃ rs, s.records = .ok rs) ↔ ∀ k ∈ s.keys, (∃ t, k.ShownDefault t) ∧ k.ValuesShowable) ∧
    (∀ rs, s.records = .ok rs → List.Forall₂ (fun k r => r.name = k.name ∧
      r.required = !k.hasDefault ∧
      ∃ t, k.ShownDefault t ∧ r.default = if k.hasDefault then some t else none) s.docOrder rs) :=
  ⟨s.docOrder_perm, s.docOrder_strict nodup,
    fun k _ => ⟨k.defaultOrRequired_eq_ok_iff, fun _ => Key.defaultOrRequired_of_secret⟩,
    s.rows_ok_iff, fun _ => Schema.rows_show, s.rst_ok_iff, fun _ => Schema.rst_blocks,
    s.records_ok_iff, fun _ => Schema.records_show⟩

/-- A required key whose one-of constraint lists the number 1 has its row written, but its
valid values cannot be shown, so neither the reference nor the records are written. -/
theorem numeric_choice_undocumented :
    (Schema.names ⟨[⟨"a", .int, none, .high, "", some (.oneOf [.int 1])⟩]⟩).Nodup ∧
      Schema.rows ⟨[⟨"a", .int, none, .high, "", some (.oneOf [.int 1])⟩]⟩ =
        .ok [["a", "int", "high", "(required)", ""]] ∧
      (¬∃ text, Schema.rst ⟨[⟨"a", .int, none, .high, "", some (.oneOf [.int 1])⟩]⟩ = .ok text) ∧
      ¬∃ rs, Schema.records ⟨[⟨"a", .int, none, .high, "", some (.oneOf [.int 1])⟩]⟩ = .ok rs := by
  have nodup : (Schema.names ⟨[⟨"a", .int, none, .high, "", some (.oneOf [.int 1])⟩]⟩).Nodup := by
    simp [Schema.names]
  have facts := Schema.documented_keys nodup
  have numeric : ¬(⟨"a", .int, none, .high, "", some (.oneOf [.int 1])⟩ : Key).ValuesShowable :=
    fun shown => by
      obtain ⟨t, ht⟩ := shown (.oneOf [.int 1]) rfl (.int 1) List.mem_cons_self
      cases ht
  have row : Schema.rows ⟨[⟨"a", .int, none, .high, "", some (.oneOf [.int 1])⟩]⟩ =
      .ok [["a", "int", "high", "(required)", ""]] := by
    rw [Schema.rows, Schema.docOrder, List.mergeSort_singleton]
    rfl
  refine ⟨nodup, row, fun written => ?_, fun written => ?_⟩
  · exact numeric (facts.2.2.2.2.2.1.mp written _ List.mem_cons_self).2
  · exact numeric (facts.2.2.2.2.2.2.2.1.mp written _ List.mem_cons_self).2

/-- The reference of a schema whose only key is constrained to the number 1 is refused with a
type error: its choice cannot be joined into a text. -/
theorem numeric_choice_rst_refused :
    Schema.rst ⟨[⟨"a", .int, none, .high, "", some (.oneOf [.int 1])⟩]⟩ =
      .error (.wrongType "sequence item 0: expected str instance, int found") := by
  rw [Schema.rst, Schema.docOrder, List.mergeSort_singleton]
  rfl

end RestConfig

import RestConfig.Proofs.MaskedAssignments

/-!
# Redacted values

The log redactor walks a JSON value: under a key that names a secret the whole value becomes
the mask, and every text has its assignments masked. Redacting twice is redacting once, and
what comes out has no secret left in view.
-/

namespace RestConfig.Redact

open RestConfig.Text

/-- A key names a secret when its lower-case form contains one of the key terms. -/
def SecretKey (key : String) : Prop :=
  ∃ term ∈ keyTerms, term.toList <:+: (lower key).toList

theorem containsText_iff {s t : String} : containsText s t = true ↔ t.toList <:+: s.toList := by
  simp only [containsText, List.any_eq_true, List.mem_range, List.isPrefixOf_iff_prefix]
  constructor
  · rintro ⟨i, -, pre⟩
    exact List.infix_iff_prefix_suffix.mpr ⟨_, pre, List.drop_suffix i _⟩
  · intro inside
    obtain ⟨u, pre, suf⟩ := List.infix_iff_prefix_suffix.mp inside
    refine ⟨s.toList.length - u.length, by omega, ?_⟩
    rw [← List.suffix_iff_eq_drop.mp suf]
    exact pre

theorem secretKey_iff {key : String} : secretKey key = true ↔ SecretKey key := by
  simp only [secretKey, List.any_eq_true, containsText_iff, SecretKey]

/-- The values a log redactor receives: JSON, whose objects have text keys. -/
inductive Json : Value → Prop
  | none : Json .none
  | bool (b : Bool) : Json (.bool b)
  | int (i : Int) : Json (.int i)
  | float (x : Binary64) : Json (.float x)
  | str (s : String) : Json (.str s)
  | list {items : List Value} : (∀ v ∈ items, Json v) → Json (.list items)
  | map {entries : List (Value × Value)} : (∀ e ∈ entries, ∃ k, e.1 = .str k) →
      (∀ e ∈ entries, Json e.2) → Json (.map entries)

/-- A value with no secret left in view: every text settled, and the mask under every key
that names a secret. -/
inductive Scrubbed : Value → Prop
  | none : Scrubbed .none
  | bool (b : Bool) : Scrubbed (.bool b)
  | int (i : Int) : Scrubbed (.int i)
  | float (x : Binary64) : Scrubbed (.float x)
  | str {s : String} : Settled none s.toList → Scrubbed (.str s)
  | list {items : List Value} : (∀ v ∈ items, Scrubbed v) → Scrubbed (.list items)
  | map {entries : List (Value × Value)} :
      (∀ e ∈ entries, SecretKey e.1.display → e.2 = .str hidden) →
      (∀ e ∈ entries, Scrubbed e.2) → Scrubbed (.map entries)

theorem redactItems_eq_map (items : List Value) : redactItems items = items.map redact := by
  induction items with
  | nil => rfl
  | cons v rest ih => rw [redactItems, ih, List.map_cons]

theorem redactEntries_eq_map (entries : List (Value × Value)) :
    redactEntries entries =
      entries.map fun e => (e.1, if secretKey e.1.display then .str hidden else redact e.2) := by
  induction entries with
  | nil => rfl
  | cons e rest ih => rw [redactEntries, ih, List.map_cons]

theorem scrubbed_hidden : Scrubbed (.str hidden) :=
  .str (settled_of_unsigned fun c mem => (hidden_chars c mem).2.2)

theorem scrubbed_redact {v : Value} (json : Json v) : Scrubbed (redact v) := by
  induction json with
  | none => exact .none
  | bool b => exact .bool b
  | int i => exact .int i
  | float x => exact .float x
  | str s =>
    rw [redact]
    exact .str (settled_redactText s)
  | list _ ih =>
    rw [redact, redactItems_eq_map]
    refine .list fun u mem => ?_
    obtain ⟨v, listed, rfl⟩ := List.mem_map.mp mem
    exact ih v listed
  | map _ _ ih =>
    rw [redact, redactEntries_eq_map]
    refine .map (fun e mem named => ?_) (fun e mem => ?_) <;>
      obtain ⟨⟨k, v⟩, listed, rfl⟩ := List.mem_map.mp mem
    · rw [if_pos (secretKey_iff.mpr named)]
    · by_cases secret : secretKey k.display = true
      · rw [if_pos secret]
        exact scrubbed_hidden
      · rw [if_neg secret]
        exact ih (k, v) listed

mutual

theorem redact_redact : (v : Value) → redact (redact v) = redact v
  | .str s => by simp only [redact, redactText_redactText]
  | .list items => by simp only [redact, redactItems_redactItems items]
  | .map entries => by simp only [redact, redactEntries_redactEntries entries]
  | .none | .bool _ | .int _ | .float _ | .password _ | .required | .tuple _ | .bytes _ | .set _
  | .date _ | .time _ | .datetime _ _ => by simp only [redact]

theorem redactItems_redactItems : (items : List Value) →
    redactItems (redactItems items) = redactItems items
  | [] => rfl
  | v :: rest => by simp only [redactItems, redact_redact v, redactItems_redactItems rest]

theorem redactEntries_redactEntries : (entries : List (Value × Value)) →
    redactEntries (redactEntries entries) = redactEntries entries
  | [] => rfl
  | (k, v) :: rest => by
    simp only [redactEntries, redactEntries_redactEntries rest]
    by_cases secret : secretKey k.display = true
    · simp only [secret, if_true]
    · simp only [secret, Bool.false_eq_true, if_false, redact_redact v]

end

/-- The log redactor is idempotent on JSON values and leaves no secret behind: under every key
that names a secret stands the mask, and every assignment in every text has the mask as value
with no blank around its sign. -/
theorem redact_stable_and_scrubbed {v : Value} (json : Json v) :
    redact (redact v) = redact v ∧ Scrubbed (redact v) :=
  ⟨redact_redact v, scrubbed_redact json⟩

theorem nested_secrets_scrubbed :
    Json (.map [(.str "db.password", .str "hunter2"), (.str "note", .list [.str "token = abc"])]) ∧
      redact (redact (.map [(.str "db.password", .str "hunter2"),
        (.str "note", .list [.str "token = abc"])])) =
        redact (.map [(.str "db.password", .str "hunter2"), (.str "note", .list [.str "token = abc"])]) ∧
      Scrubbed (redact (.map [(.str "db.password", .str "hunter2"),
        (.str "note", .list [.str "token = abc"])])) := by
  have json : Json (.map [(.str "db.password", .str "hunter2"),
      (.str "note", .list [.str "token = abc"])]) := by
    refine .map (fun e mem => ?_) (fun e mem => ?_) <;>
      simp only [List.mem_cons, List.not_mem_nil, or_false] at mem <;>
      rcases mem with rfl | rfl
    · exact ⟨_, rfl⟩
    · exact ⟨_, rfl⟩
    · exact .str _
    · refine .list fun v mem => ?_
      simp only [List.mem_cons, List.not_mem_nil, or_false] at mem
      subst mem
      exact .str _
  exact ⟨json, redact_stable_and_scrubbed json⟩

end RestConfig.Redact

import Mathlib
import RestConfig.Proofs.WholeNumbers
import RestConfig.Proofs.DefaultFixpoints
import RestConfig.Proofs.IntegerReadings

/-!
# Settings have the shape of their kind

Reading a value as a kind gives a setting of the kind's shape: a flag for a boolean, a text
without end blanks for a string, a whole number within the kind's range for an int or a
long, a finite binary64 number for a double, a list of texts for a list and a secret for a
password. A declared key's default was read that way too, so in a schema of declared keys
every setting validation answers has its key's shape, supplied or defaulted.

A resolved configuration looks its settings up by name. A name the schema does not declare
is a missing key; for a declared name, each typed look-up answers exactly on the kinds of
its shape and fails with a type error on every other key.

Main statement: `Schema.settings_have_kind_shapes`.
-/

namespace RestConfig

open Text Proxy

/-- The settings of a kind: a flag for a boolean, a text equal to its own trimming for a
string, a whole number within the kind's range for an int or a long, a finite number for a
double, a list of texts for a list and a secret for a password. -/
def Kind.Represents : Kind → Setting → Prop
  | .boolean, .flag _ => True
  | .string, .text s => trim s = s
  | .int, .whole i => Kind.int.InRange i
  | .long, .whole i => Kind.long.InRange i
  | .double, .real x => x.isFinite = true
  | .list, .items _ => True
  | .password, .secret _ => True
  | _, _ => False

theorem Kind.represents_of_read {k : Kind} {room : Nat} {raw : Value} {s : Setting}
    (h : k.read room raw = .ok s) : k.Represents s := by
  replace h := Kind.readCitable_of_read h
  unfold Kind.readCitable at h
  split at h <;> dsimp only at h
  case h_1 t =>
    cases h
    exact trim_trim t
  case h_2 | h_3 | h_4 =>
    cases h
    trivial
  case h_5 =>
    split at h
    · cases h
      trivial
    · cases h
  case h_6 | h_7 =>
    obtain ⟨rfl, within⟩ := Kind.wholeWithin_ok h
    exact (Kind.bounds_iff_inRange _ _).mp within
  case h_8 | h_9 =>
    split at h
    · split at h
      · cases h
      · obtain ⟨rfl, within⟩ := Kind.wholeWithin_ok h
        exact (Kind.bounds_iff_inRange _ _).mp within
    · cases h
  case h_10 i =>
    split at h
    · cases h
    · rename_i finite
      cases h
      exact Binary64.isFinite_ofInt (by simpa using finite)
  case h_11 =>
    split at h
    · cases h
      assumption
    · cases h
  case h_12 =>
    split at h
    · split at h
      · cases h
        assumption
      · cases h
    · cases h
  case h_13 | h_14 =>
    cases h
    trivial
  case h_15 =>
    split at h <;> cases h <;> trivial
  case h_16 => cases h

theorem Declaration.toKey_default_represents {d : Declaration} {room : Nat} {k : Key}
    (h : d.toKey room = .ok k) {s : Setting} (hs : k.default = some s) : k.kind.Represents s :=
  Kind.represents_of_read (Declaration.toKey_defaultRereads h s hs 2 le_rfl)

theorem Key.represents_of_resolve {k : Key} {room : Nat} {props : Props} {s : Setting}
    (defaults : ∀ s, k.default = some s → k.kind.Represents s)
    (h : k.resolve room props = .ok (.ok s)) : k.kind.Represents s := by
  obtain ⟨-, chosen⟩ := Key.resolve_judged h
  unfold Key.chosen at chosen
  split at chosen
  · rename_i raw _
    cases read : k.kind.read room raw with
    | error e =>
      rw [read] at chosen
      simp [Except.toOption] at chosen
    | ok s' =>
      rw [read] at chosen
      exact Option.some.inj chosen ▸ Kind.represents_of_read read
  · exact defaults s chosen

/-- Accepted properties give each key of a schema of declared keys the setting it resolves
to, of the key's kind, in schema order. -/
theorem Schema.accepted_represents {d : Schema} {room : Nat} {props : Props} {settings : Settings}
    (declared : ∀ k ∈ d.keys, ∃ (decl : Declaration) (r : Nat), decl.toKey r = .ok k)
    (parsed : d.parse room props = .ok settings) :
    settings = d.keys.map (fun k => (k.name, k.settingIn room props)) ∧
      ∀ k ∈ d.keys, k.kind.Represents (k.settingIn room props) := by
  obtain ⟨each, listed⟩ := resolveAll_accepted (Schema.parse_eq_ok_iff.mp parsed)
  refine ⟨listed, fun k mem => ?_⟩
  obtain ⟨decl, r, made⟩ := declared k mem
  exact Key.represents_of_resolve (fun s hs => Declaration.toKey_default_represents made hs)
    (each k mem)

/-! ## Looking settings up by name -/

/-- The shape of the typed look-up that answers on a kind: whole numbers for ints and longs,
texts for strings, flags for booleans, items for lists and secrets for passwords. No typed
look-up answers on a double. -/
def Kind.shape? : Kind → Option Shape
  | .boolean => some .flag
  | .string => some .text
  | .int | .long => some .whole
  | .double => none
  | .list => some .items
  | .password => some .secret

theorem Kind.holds_iff_shape? {k : Kind} {s : Setting} (h : k.Represents s) (sh : Shape) :
    sh.holds s = true ↔ k.shape? = some sh := by
  cases k <;> cases s <;> simp only [Kind.Represents] at h <;> cases sh <;>
    simp [Shape.holds, Kind.shape?]

namespace Proxy.Resolved

variable {r : Resolved} {n : String}

theorem typed_of_get_ok {s : Setting} (h : r.get n = .ok s) (sh : Shape) :
    r.typed n sh = if sh.holds s then .ok s
      else .error (.wrongType ("configuration " ++ quote n ++ " is not a " ++ sh.name)) := by
  simp only [Resolved.typed, h, Except.ok_bind]
  split <;> rfl

theorem typed_of_get_error {f : Failure} (h : r.get n = .error f) (sh : Shape) :
    r.typed n sh = .error f := by
  simp [Resolved.typed, h]

variable {d : Schema} {room : Nat} {props : Props}

theorem get_of_find?
    (listed : r.settings = d.keys.map (fun k => (k.name, k.settingIn room props)))
    {k : Key} (found : d.find? n = some k) : r.get n = .ok (k.settingIn room props) := by
  have lookup : r.settings.find? (·.1 == n) = some (k.name, k.settingIn room props) := by
    rw [listed, List.find?_map]
    simp only [Function.comp_def]
    rw [show d.keys.find? (fun k => k.name == n) = some k from found, Option.map_some]
  simp [Resolved.get, lookup]

theorem get_of_find?_none
    (listed : r.settings = d.keys.map (fun k => (k.name, k.settingIn room props)))
    (missing : d.find? n = none) :
    r.get n = .error (.unknownName ("unknown configuration " ++ quote n)) := by
  have lookup : r.settings.find? (·.1 == n) = none := by
    rw [listed, List.find?_map]
    simp only [Function.comp_def]
    rw [show d.keys.find? (fun k => k.name == n) = none from missing, Option.map_none]
  simp [Resolved.get, lookup]

end Proxy.Resolved

theorem Schema.find?_eq_none_iff {d : Schema} {n : String} : d.find? n = none ↔ n ∉ d.names := by
  simp [Schema.find?, Schema.names, List.find?_eq_none]

theorem Schema.exists_find?_of_mem {d : Schema} {n : String} (h : n ∈ d.names) :
    ∃ k, d.find? n = some k := by
  cases found : d.find? n with
  | none => exact absurd h (Schema.find?_eq_none_iff.mp found)
  | some k => exact ⟨k, rfl⟩

/-- In a schema of declared keys, every setting validation accepts has the shape of its
key's kind, the settings standing one per key in schema order. Once properties resolve
against such a schema, a look-up of a name it does not declare fails as a missing key, and
so does every typed look-up of it. A declared name is looked up as its key's setting, which
has the key's kind; a typed look-up of it answers that setting exactly when the look-up's
shape is the kind's (whole numbers for ints and longs, flags for booleans, texts for
strings, items for lists, secrets for passwords) and otherwise fails with a type error. -/
theorem Schema.settings_have_kind_shapes {d : Schema}
    (declared : ∀ k ∈ d.keys, ∃ (decl : Declaration) (room : Nat), decl.toKey room = .ok k) :
    (∀ room props settings, d.validate room props = .ok (.accepted settings) →
      List.Forall₂ (fun k e => e.1 = k.name ∧ k.kind.Represents e.2) d.keys settings) ∧
    (∀ room props (r : Resolved), resolve room d props = .ok r → ∀ n,
      (n ∉ d.names → r.get n = .error (.unknownName ("unknown configuration " ++ quote n)) ∧
        ∀ sh, r.typed n sh = .error (.unknownName ("unknown configuration " ++ quote n))) ∧
      (n ∈ d.names → ∃ k s, d.find? n = some k ∧ r.get n = .ok s ∧ k.kind.Represents s ∧
        ∀ sh, r.typed n sh = if k.kind.shape? = some sh then .ok s
          else .error (.wrongType ("configuration " ++ quote n ++ " is not a " ++ sh.name)))) := by
  refine ⟨fun room props settings h => ?_,
    fun room props r h n => ⟨fun missing => ?_, fun mem => ?_⟩⟩
  · obtain ⟨listed, shaped⟩ :=
      Schema.accepted_represents declared ((Schema.validate_reports_unacceptable_keys h).2.1 _ rfl).2
    rw [listed, List.forall₂_map_right_iff]
    exact List.forall₂_same.mpr fun k mem => ⟨rfl, shaped k mem⟩
  all_goals
    obtain ⟨settings, view, parsed, -, hr⟩ := resolve_eq_ok h
    obtain ⟨listed, shaped⟩ := Schema.accepted_represents declared parsed
    have stored : r.settings = d.keys.map (fun k => (k.name, k.settingIn room props)) := by
      rw [hr]
      exact listed
  · have got := Resolved.get_of_find?_none stored (Schema.find?_eq_none_iff.mpr missing)
    exact ⟨got, Resolved.typed_of_get_error got⟩
  · obtain ⟨k, found⟩ := Schema.exists_find?_of_mem mem
    have got := Resolved.get_of_find? stored found
    have kind := shaped k (List.mem_of_find?_eq_some found)
    refine ⟨k, _, found, got, kind, fun sh => ?_⟩
    rw [Resolved.typed_of_get_ok got]
    exact if_congr (Kind.holds_iff_shape? kind sh) rfl rfl

/-- A schema of two declared keys: `retries`, an int written ` 3 `, and `verbose`, a boolean
defaulting to false. -/
def retriesVerboseSchema : Schema :=
  Schema.ofKeys [⟨"retries", .int, some (.whole 3), .low, "", none⟩,
    ⟨"verbose", .boolean, some (.flag false), .low, "", none⟩]

theorem retriesVerboseSchema_declared :
    ∀ k ∈ retriesVerboseSchema.keys, ∃ (decl : Declaration) (room : Nat), decl.toKey room = .ok k := by
  intro k mem
  simp only [retriesVerboseSchema, Schema.ofKeys, Schema.extend, Schema.insert, Schema.empty,
    Schema.contains, List.foldl_cons, List.foldl_nil] at mem
  simp at mem
  rcases mem with rfl | rfl
  · exact ⟨⟨.str "retries", .str "int", .str " 3 ", .str "low", "", none⟩, 1, rfl⟩
  · exact ⟨⟨.str "verbose", .str "boolean", .bool false, .str "low", "", none⟩, 1, rfl⟩

/-- Supplied as ` TRUE `, `verbose` is answered by the flag look-up; `retries` is no flag,
and `timeout` is no key at all. -/
theorem verbose_flag_retries_not_flag :
    (∀ k ∈ retriesVerboseSchema.keys, ∃ (decl : Declaration) (room : Nat), decl.toKey room = .ok k) ∧
    ∃ r, resolve 10 retriesVerboseSchema [("verbose", .str " TRUE ")] = .ok r ∧
      r.typed "retries" .flag = .error (.wrongType ("configuration " ++ quote "retries" ++
        " is not a bool")) ∧
      r.get "timeout" = .error (.unknownName ("unknown configuration " ++ quote "timeout")) := by
  have shapes := Schema.settings_have_kind_shapes retriesVerboseSchema_declared
  obtain ⟨r, resolved⟩ : ∃ r, resolve 10 retriesVerboseSchema [("verbose", .str " TRUE ")] = .ok r :=
    ⟨_, rfl⟩
  obtain ⟨-, declaredName⟩ := shapes.2 _ _ r resolved "retries"
  obtain ⟨k, s, found, -, -, typed⟩ := declaredName (by decide)
  have retries : k = ⟨"retries", .int, some (.whole 3), .low, "", none⟩ := by
    have : retriesVerboseSchema.find? "retries" =
        some ⟨"retries", .int, some (.whole 3), .low, "", none⟩ := rfl
    rw [this] at found
    exact (Option.some.inj found).symm
  subst retries
  refine ⟨retriesVerboseSchema_declared, r, resolved, ?_,
    ((shapes.2 _ _ r resolved "timeout").1 (by decide)).1⟩
  rw [typed .flag]
  rfl

end RestConfig

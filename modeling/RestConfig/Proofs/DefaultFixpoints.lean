import Mathlib
import RestConfig.Proofs.BinaryRounding
import RestConfig.Proofs.Rendering
import RestConfig.Proofs.Validation
import RestConfig.Proofs.UnreadNames

/-!
# Defaults are fixed points of reading

Reading a value as a kind normalises it: a text loses its end blanks, an integer becomes a
binary64 number for a double, a list's items become trimmed texts, a text becomes a secret.
Read again, with room to cite it, the value a setting stands for gives the same setting back,
for every kind. A declared key's default is a setting read from the declared value and checked
against the key's constraint; so the default reads as itself and meets the constraint, and
supplying a key's default under its name, where nothing was supplied, is indistinguishable
from leaving it out: validation answers the same.

Main statement: `Schema.validate_supplied_default_same`.
-/

namespace RestConfig

open Text

theorem Kind.readCitable_toValue {k : Kind} {raw : Value} {s : Setting}
    (h : k.readCitable raw = .ok s) : k.readCitable s.toValue = .ok s := by
  unfold Kind.readCitable at h
  split at h <;> dsimp only at h
  case h_1 t =>
    cases h
    simp [Kind.readCitable, Setting.toValue]
  case h_2 | h_3 | h_4 =>
    cases h
    rfl
  case h_5 =>
    split at h
    · cases h
      rfl
    · cases h
  case h_6 | h_7 =>
    obtain ⟨rfl, -⟩ := Kind.wholeWithin_ok h
    exact h
  case h_8 | h_9 =>
    split at h
    · split at h
      · cases h
      · obtain ⟨rfl, within⟩ := Kind.wholeWithin_ok h
        simp [Setting.toValue, Kind.readCitable, Kind.wholeWithin, within]
    · cases h
  case h_10 i =>
    split at h
    · cases h
    · rename_i finite
      cases h
      simp [Setting.toValue, Kind.readCitable, Binary64.isFinite_ofInt (by simpa using finite)]
  case h_11 =>
    split at h
    · cases h
      simp [Setting.toValue, Kind.readCitable, *]
    · cases h
  case h_12 =>
    split at h
    · split at h
      · cases h
        simp [Setting.toValue, Kind.readCitable, *]
      · cases h
    · cases h
  case h_13 | h_14 =>
    cases h
    simp [Setting.toValue, Kind.readCitable, Function.comp_def, Value.display]
  case h_15 =>
    split at h
    · cases h
      rfl
    · cases h
      simp [Setting.toValue, Kind.readCitable, Function.comp_def, Value.display, trim]
  case h_16 => cases h

theorem Value.reprFaultItems_str (r : Nat) (ts : List String) :
    Value.reprFaultItems (r + 1) (ts.map .str) = Option.none := by
  induction ts with
  | nil => rfl
  | cons t ts ih => simp [Value.reprFaultItems, ih]

/-- The value of a setting that can be written is cited without fault given two units of room:
one for itself and one for the items of a list. -/
theorem Setting.reprFault_toValue {s : Setting} (h : s.toValue.citable = true) (r : Nat) :
    s.toValue.reprFault (r + 2) = Option.none := by
  cases s with
  | whole i =>
    have short : i.natAbs.repr.length ≤ Reading.integerDigitLimit := by
      simpa [Setting.toValue, Value.citable] using h
    simp [Setting.toValue, Value.reprFault, short]
  | items ts => exact Value.reprFaultItems_str r ts
  | flag b | real x | text t | secret p => rfl

theorem Kind.read_toValue {k : Kind} {room room' : Nat} {raw : Value} {s : Setting}
    (h : k.read room raw = .ok s) (hroom : 2 ≤ room') : k.read room' s.toValue = .ok s := by
  obtain ⟨r, rfl⟩ : ∃ r, room' = r + 2 := ⟨room' - 2, by omega⟩
  have once := Kind.readCitable_of_read h
  rw [Kind.read_of_reprFault (Setting.reprFault_toValue (Kind.citable_toValue once) r)]
  exact Kind.readCitable_toValue once

/-- A key's default, if it has one, reads as itself with at least two units of room. -/
def Key.DefaultRereads (k : Key) : Prop :=
  ∀ s, k.default = some s → ∀ room, 2 ≤ room → k.kind.read room s.toValue = .ok s

theorem Declaration.toKey_defaultRereads {d : Declaration} {room : Nat} {k : Key}
    (h : d.toKey room = .ok k) : k.DefaultRereads := by
  intro s hs room' hroom
  rcases d with ⟨name, kind, default, importance, doc, constraint⟩
  cases name <;> simp [Declaration.toKey] at h
  split at h
  · simp at h
  cases hk : Kind.ofValue? kind with
  | none => simp [hk] at h
  | some kd =>
    simp only [hk] at h
    cases hi : Importance.ofValue? importance <;> simp [hi] at h
    split at h
    · cases h
      simp at hs
    · obtain ⟨s', read, h⟩ := Except.bind_eq_ok_iff.mp h
      have once : kd.read room default = .ok s' := by
        cases e : kd.read room default <;> simp [e, Except.mapError] at read ⊢
        exact read
      have same : s' = s := by
        cases constraint with
        | none =>
          cases h
          simpa using hs
        | some c =>
          obtain ⟨u, -, h⟩ := Except.bind_eq_ok_iff.mp h
          cases h
          simpa using hs
      subst same
      cases constraint with
      | none =>
        cases h
        exact Kind.read_toValue once hroom
      | some c =>
        obtain ⟨u, -, h⟩ := Except.bind_eq_ok_iff.mp h
        cases h
        exact Kind.read_toValue once hroom

theorem Key.resolve_supplied_default {k : Key} {room : Nat} {props : Props} {s : Setting}
    (rereads : k.kind.read room s.toValue = .ok s) (hs : k.default = some s)
    (absent : props.get? k.name = none) :
    k.resolve room (props.set k.name s.toValue) = k.resolve room props := by
  unfold Key.resolve
  simp only [Props.get?_set_self, absent, rereads, hs]

theorem resolveAll_eq_of_resolve_eq {room : Nat} {a b : Props} :
    ∀ {ks : List Key}, (∀ k ∈ ks, k.resolve room a = k.resolve room b) →
      resolveAll room a ks = resolveAll room b ks
  | [], _ => rfl
  | k :: ks, same => by
    simp only [resolveAll, same k List.mem_cons_self,
      resolveAll_eq_of_resolve_eq fun k' mem => same k' (List.mem_cons_of_mem _ mem)]

theorem Schema.eq_of_find? {d : Schema} (nd : d.names.Nodup) {n : String} {k k' : Key}
    (found : d.find? n = some k) (mem : k' ∈ d.keys) (named : k'.name = n) : k' = k := by
  have kmem : k ∈ d.keys := List.mem_of_find?_eq_some found
  have kname : k.name = n := by simpa using List.find?_some found
  exact List.inj_on_of_nodup_map nd mem kmem (named.trans kname.symm)


/-- Reading is idempotent on what it gives, for every kind, given two units of room to cite
the setting's value; a declared key's default reads as itself and meets the key's constraint;
and in a schema of declared keys, one per name, supplying a key's default where nothing was
supplied changes nothing validation answers. -/
theorem Schema.validate_supplied_default_same :
    (∀ (T : Kind) room room' raw s, T.read room raw = .ok s → 2 ≤ room' →
      T.read room' s.toValue = .ok s) ∧
    (∀ (decl : Declaration) room room' k s, decl.toKey room = .ok k → k.default = some s →
      2 ≤ room' → k.kind.read room' s.toValue = .ok s ∧
        ∀ c, k.constraint = some c → c.check s.toValue = .ok ()) ∧
    (∀ d : Schema, d.names.Nodup →
      (∀ k ∈ d.keys, ∃ (decl : Declaration) (r : Nat), decl.toKey r = .ok k) →
      ∀ room props n k s, d.find? n = some k → k.default = some s → props.get? n = none →
        2 ≤ room → d.validate room (props.set n s.toValue) = d.validate room props) := by
  refine ⟨fun T room room' raw s h hroom => Kind.read_toValue h hroom,
    fun decl room room' k s made hs hroom => ⟨Declaration.toKey_defaultRereads made s hs room' hroom,
      fun c hc => Declaration.toKey_defaultFits made s c hs hc⟩, ?_⟩
  intro d nd declared room props n k s found hs absent hroom
  have kmem : k ∈ d.keys := List.mem_of_find?_eq_some found
  have kname : k.name = n := by simpa using List.find?_some found
  obtain ⟨decl, r, made⟩ := declared k kmem
  unfold Schema.validate
  rw [resolveAll_eq_of_resolve_eq]
  intro k' mem
  by_cases named : k'.name = n
  · obtain rfl := Schema.eq_of_find? nd found mem named
    rw [← kname] at absent ⊢
    exact Key.resolve_supplied_default (Declaration.toKey_defaultRereads made s hs room hroom) hs
      absent
  · exact Key.resolve_congr (Props.get?_set_of_ne _ named)

/-- The key declared as `retries`, an int of low importance whose default is written ` 3 `. -/
def retriesKey : Key := ⟨"retries", .int, some (.whole 3), .low, "", none⟩

/-- Supplying `retries = 3` to a schema whose one key defaults it to 3 changes nothing. -/
theorem supplied_retries_default_same :
    (Schema.ofKeys [retriesKey]).names.Nodup ∧ 2 ≤ 10 ∧
    (Schema.ofKeys [retriesKey]).validate 10 (Props.set [] "retries" (.int 3)) =
      (Schema.ofKeys [retriesKey]).validate 10 [] := by
  have nd : (Schema.ofKeys [retriesKey]).names.Nodup := by decide
  refine ⟨nd, by decide, ?_⟩
  exact Schema.validate_supplied_default_same.2.2 _ nd
    (fun k mem => ⟨⟨.str "retries", .str "int", .str " 3 ", .str "low", "", none⟩, 10, by
      simp [Schema.ofKeys, Schema.extend, Schema.insert, Schema.empty, Schema.contains] at mem
      subst mem
      rfl⟩)
    10 [] "retries" retriesKey (.whole 3) rfl rfl rfl (by decide)

end RestConfig

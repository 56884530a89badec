import Mathlib
import RestConfig.Proofs.Basic
import RestConfig.Proxy.Keys

/-!
# Validation reports every offending key

A key *accepts* a property map when a supplied value reads as the key's kind and meets its
constraint, or when nothing is supplied and the key has a default that meets it. Validation
against a schema answers the settings exactly when every key accepts, and otherwise one issue
per key that does not, in schema order, with the reading's message, the constraint's message
or the missing-key message. Parsing answers the same settings or fails with those issues.

The default is checked like a supplied value. Declaring a key checks it already, so for the
keys of a declared schema a default is always accepted (`Key.acceptable_iff_of_defaultFits`);
a key put together by hand may carry a default its constraint refuses.

Main statement: `Schema.validate_reports_unacceptable_keys`.
-/

namespace RestConfig

/-- A key's constraint, if it has one, accepts a setting. -/
def Key.Admits (k : Key) (s : Setting) : Prop :=
  ∀ c, k.constraint = some c → c.check s.toValue = .ok ()

/-- A key's default, if it has one, meets the key's own constraint. -/
def Key.DefaultFits (k : Key) : Prop :=
  ∀ s c, k.default = some s → k.constraint = some c → c.check s.toValue = .ok ()

/-- Every key of a schema has a default that meets its constraint. -/
def Schema.DefaultsFit (s : Schema) : Prop := ∀ k ∈ s.keys, k.DefaultFits

/-- A key accepts the properties: a supplied value reads as the key's kind, with a room, and
meets its constraint, if any; or nothing is supplied and the key has a default that meets it. -/
def Key.Acceptable (k : Key) (room : Nat) (props : Props) : Prop :=
  (∃ raw s, props.get? k.name = some raw ∧ k.kind.read room raw = .ok s ∧ k.Admits s) ∨
    (props.get? k.name = none ∧ ∃ s, k.default = some s ∧ k.Admits s)

/-- Whether a key's constraint, if any, accepts a setting, computed. -/
def Key.admits (k : Key) (s : Setting) : Bool :=
  match k.constraint with
  | some c => (c.check s.toValue).toBool
  | none => true

/-- Whether a key accepts the properties, computed. -/
def Key.accepts (k : Key) (room : Nat) (props : Props) : Bool :=
  match props.get? k.name with
  | some raw =>
    match k.kind.read room raw with
    | .ok s => k.admits s
    | .error _ => false
  | none =>
    match k.default with
    | some s => k.admits s
    | none => false

theorem Key.admits_iff {k : Key} {s : Setting} : k.admits s = true ↔ k.Admits s := by
  unfold Key.admits Key.Admits
  cases hc : k.constraint with
  | none => simp
  | some c => cases hk : c.check s.toValue <;> simp [Except.toBool, hk]

theorem Key.accepts_iff {k : Key} {room : Nat} {props : Props} :
    k.accepts room props = true ↔ k.Acceptable room props := by
  unfold Key.accepts Key.Acceptable
  cases hg : props.get? k.name with
  | none => cases hd : k.default <;> simp [Key.admits_iff]
  | some raw => cases hr : k.kind.read room raw <;> simp [hr, Key.admits_iff]

/-- For a key whose default meets its constraint, as every declared key's does, accepting
asks only that a supplied value read and meet the constraint, or that a default exist. -/
theorem Key.acceptable_iff_of_defaultFits {k : Key} {room : Nat} {props : Props}
    (fit : k.DefaultFits) : k.Acceptable room props ↔
      (∃ raw s, props.get? k.name = some raw ∧ k.kind.read room raw = .ok s ∧ k.Admits s) ∨
        (props.get? k.name = none ∧ k.hasDefault = true) := by
  refine or_congr Iff.rfl (and_congr Iff.rfl ⟨?_, fun has => ?_⟩)
  · rintro ⟨s, hs, -⟩
    simp [Key.hasDefault, hs]
  · obtain ⟨s, hs⟩ := Option.isSome_iff_exists.mp has
    exact ⟨s, hs, fun c hc => fit s c hs hc⟩

theorem Declaration.toKey_defaultFits {d : Declaration} {room : Nat} {k : Key}
    (h : d.toKey room = .ok k) : k.DefaultFits := by
  intro s c hs hc
  rcases d with ⟨name, kind, default, importance, doc, constraint⟩
  cases name <;> simp [Declaration.toKey] at h
  split at h
  · simp at h
  cases hk : Kind.ofValue? kind <;> simp [hk] at h
  cases hi : Importance.ofValue? importance <;> simp [hi] at h
  split at h
  · cases h
    simp at hs
  · obtain ⟨s', -, h⟩ := Except.bind_eq_ok_iff.mp h
    cases constraint with
    | none =>
      cases h
      simp at hc
    | some c' =>
      obtain ⟨u, hcheck, h⟩ := Except.bind_eq_ok_iff.mp h
      cases h
      simp only [Option.some.injEq] at hs hc
      rw [← hs, ← hc]
      cases hk : c'.check s'.toValue with
      | ok v => rfl
      | error f => simp [hk, Except.mapError] at hcheck

theorem Schema.mem_insert {s : Schema} {k k' : Key} (h : k' ∈ (s.insert k).keys) :
    k' = k ∨ k' ∈ s.keys := by
  unfold Schema.insert at h
  split at h
  · obtain ⟨e, mem, rfl⟩ := List.mem_map.mp h
    by_cases same : e.name = k.name
    · simp [same]
    · simp [same, mem]
  · simpa [or_comm] using h

theorem Schema.forall_mem_extend {P : Key → Prop} {s : Schema} {ks : List Key}
    (hs : ∀ k ∈ s.keys, P k) (hks : ∀ k ∈ ks, P k) : ∀ k ∈ (s.extend ks).keys, P k := by
  induction ks generalizing s with
  | nil => exact hs
  | cons k ks ih =>
    refine ih (fun k' mem => ?_) (fun k' mem => hks k' (List.mem_cons_of_mem k mem))
    rcases Schema.mem_insert mem with rfl | old
    · exact hks k' List.mem_cons_self
    · exact hs k' old

theorem Schema.empty_defaultsFit : Schema.empty.DefaultsFit := by
  intro k mem
  simp [Schema.empty] at mem

theorem Schema.DefaultsFit.extend {s : Schema} {ks : List Key} (hs : s.DefaultsFit)
    (hks : ∀ k ∈ ks, k.DefaultFits) : (s.extend ks).DefaultsFit :=
  Schema.forall_mem_extend hs hks

instance (k : Key) (room : Nat) (props : Props) : Decidable (k.Acceptable room props) :=
  decidable_of_iff _ Key.accepts_iff

/-- The setting a key takes: the supplied value read as its kind, else its default. -/
def Key.chosen (k : Key) (room : Nat) (props : Props) : Option Setting :=
  match props.get? k.name with
  | some raw => (k.kind.read room raw).toOption
  | none => k.default

/-- What a key's constraint says against a setting: the message of its refusal, if any. -/
def Key.objection (k : Key) (s : Setting) : String :=
  match k.constraint with
  | some c =>
    match c.check s.toValue with
    | .error f => f.message
    | .ok () => ""
  | none => ""

/-- The message of the issue a key raises when it does not accept the properties: why the
supplied value could not be read, why the constraint refused the value or the default, or
that a required key is missing. -/
def Key.complaint (k : Key) (room : Nat) (props : Props) : String :=
  match props.get? k.name with
  | none =>
    match k.default with
    | some s => k.objection s
    | none => "missing required configuration " ++ Text.quote k.name ++ " which has no default value"
  | some raw =>
    match k.kind.read room raw with
    | .error e => e.toFailure.message
    | .ok s => k.objection s

/-- What one key's outcome must be: its chosen setting when it accepts, the issue with its
complaint when it does not. -/
def Key.Judged (k : Key) (room : Nat) (props : Props) : Except Issue Setting → Prop
  | .ok s => k.Acceptable room props ∧ k.chosen room props = some s
  | .error i => ¬ k.Acceptable room props ∧ i = ⟨k.name, k.complaint room props⟩

theorem Key.resolve_judged {k : Key} {room : Nat} {props : Props} {out : Except Issue Setting}
    (h : k.resolve room props = .ok out) : k.Judged room props out := by
  unfold Key.resolve at h
  cases hg : props.get? k.name with
  | none =>
    cases hd : k.default with
    | none =>
      simp [hg, hd] at h
      subst h
      simp [Key.Judged, Key.Acceptable, Key.complaint, hg, hd]
    | some s =>
      cases hc : k.constraint with
      | none =>
        simp [hg, hd, hc] at h
        subst h
        simp [Key.Judged, Key.Acceptable, Key.Admits, Key.chosen, hg, hd, hc]
      | some c =>
        cases hk : c.check s.toValue with
        | ok u =>
          simp [hg, hd, hc, hk] at h
          subst h
          simp [Key.Judged, Key.Acceptable, Key.Admits, Key.chosen, hg, hd, hc, hk]
        | error f =>
          cases f <;> simp [hg, hd, hc, hk] at h
          subst h
          simp [Key.Judged, Key.Acceptable, Key.Admits, Key.complaint, Key.objection,
            Failure.message, hg, hd, hc, hk]
  | some raw =>
    cases hr : k.kind.read room raw with
    | error e =>
      cases e <;> simp [hg, hr] at h
      subst h
      simp [Key.Judged, Key.Acceptable, Key.complaint, hg, hr]
    | ok s =>
      cases hc : k.constraint with
      | none =>
        simp [hg, hr, hc] at h
        subst h
        simp [Key.Judged, Key.Acceptable, Key.Admits, Key.chosen, Except.toOption, hg, hr, hc]
      | some c =>
        cases hk : c.check s.toValue with
        | ok u =>
          simp [hg, hr, hc, hk] at h
          subst h
          simp [Key.Judged, Key.Acceptable, Key.Admits, Key.chosen, Except.toOption, hg, hr, hc, hk]
        | error f =>
          cases f <;> simp [hg, hr, hc, hk] at h
          subst h
          simp [Key.Judged, Key.Acceptable, Key.Admits, Key.complaint, Key.objection,
            Failure.message, hg, hr, hc, hk]

/-- Resolving keys in order gives the settings of the keys that accept, with their chosen
values, and the issues of the others, each in the keys' order. -/
theorem resolveAll_ok {room : Nat} {props : Props} {ks : List Key} {settings : Settings}
    {issues : List Issue} (h : resolveAll room props ks = .ok (settings, issues)) :
    settings.map (fun e => (e.1, some e.2)) =
        (ks.filter fun k => k.Acceptable room props).map (fun k => (k.name, k.chosen room props)) ∧
      issues = (ks.filter fun k => ¬ k.Acceptable room props).map
        (fun k => ⟨k.name, k.complaint room props⟩) := by
  induction ks generalizing settings issues with
  | nil =>
    simp [resolveAll] at h
    obtain ⟨rfl, rfl⟩ := h
    simp
  | cons k ks ih =>
    obtain ⟨here, hk, h⟩ := Except.bind_eq_ok_iff.mp h
    obtain ⟨⟨rest, later⟩, hrest, h⟩ := Except.bind_eq_ok_iff.mp h
    have judged := Key.resolve_judged hk
    obtain ⟨hsettings, hissues⟩ := ih hrest
    cases here with
    | ok s =>
      simp at h
      obtain ⟨rfl, rfl⟩ := h
      obtain ⟨acc, chosen⟩ := judged
      simp [acc, chosen, hsettings, hissues]
    | error i =>
      simp at h
      obtain ⟨rfl, rfl⟩ := h
      obtain ⟨rej, rfl⟩ := judged
      simp [rej, hsettings, hissues]

theorem newline_append_intercalate (lines : List String) (h : lines ≠ []) :
    "\n" ++ "\n".intercalate lines = String.join (lines.map ("\n" ++ ·)) := by
  induction lines with
  | nil => contradiction
  | cons line rest ih =>
    cases rest with
    | nil => simp [String.join_cons, String.join_nil]
    | cons next more =>
      rw [String.intercalate_cons_of_ne_nil (by simp), List.map_cons, String.join_cons,
        ← ih (by simp)]
      simp [String.append_assoc]

theorem Issue.report_of_ne_nil {issues : List Issue} (h : issues ≠ []) :
    Issue.report issues = "invalid config:" ++
      String.join (issues.map fun i => "\n" ++ ("- " ++ i.path ++ ": " ++ i.message)) := by
  have ne : issues.isEmpty = false := List.isEmpty_eq_false_iff.mpr h
  have split : "invalid config:\n" = "invalid config:" ++ "\n" := rfl
  unfold Issue.report
  rw [ne, if_neg Bool.false_ne_true, split, String.append_assoc,
    newline_append_intercalate _ (by simpa using h), List.map_map]
  rfl

/-- Validation, whenever it answers, accepts exactly when every key accepts. Accepted, it
answers each key's chosen setting in schema order, and parsing answers the same. Rejected,
it answers one issue per key that does not accept, in schema order, with that key's
complaint, and parsing fails with those issues, listed one per line. -/
theorem Schema.validate_reports_unacceptable_keys {s : Schema} {room : Nat} {props : Props}
    {r : Verdict} (h : s.validate room props = .ok r) :
    ((∃ settings, r = .accepted settings) ↔ ∀ k ∈ s.keys, k.Acceptable room props) ∧
    (∀ settings, r = .accepted settings →
      settings.map (fun e => (e.1, some e.2)) =
          s.keys.map (fun k => (k.name, k.chosen room props)) ∧
        s.parse room props = .ok settings) ∧
    (∀ issues, r = .rejected issues →
      issues = (s.keys.filter fun k => ¬ k.Acceptable room props).map
        (fun k => ⟨k.name, k.complaint room props⟩) ∧
      s.parse room props = .error (.invalidConfig issues) ∧
      (Failure.invalidConfig issues).message = "invalid config:" ++
        String.join (issues.map fun i => "\n" ++ ("- " ++ i.path ++ ": " ++ i.message))) := by
  have hparse : s.parse room props = (s.validate room props).bind fun
      | .rejected issues => .error (.invalidConfig issues)
      | .accepted settings => .ok settings := by
    delta Schema.parse
    cases s.validate room props with
    | error f => rfl
    | ok v => cases v <;> rfl
  rw [h] at hparse
  obtain ⟨⟨settings, issues⟩, hall, h⟩ := Except.bind_eq_ok_iff.mp h
  obtain ⟨hsettings, hissues⟩ := resolveAll_ok hall
  have none_refused : issues = [] ↔ ∀ k ∈ s.keys, k.Acceptable room props := by
    simp [hissues, List.filter_eq_nil_iff]
  by_cases empty : issues = []
  · have all := none_refused.mp empty
    simp [empty] at h
    subst h
    refine ⟨by simpa using all, ?_, by simp⟩
    rintro settings' ⟨⟩
    refine ⟨?_, hparse⟩
    rw [hsettings, List.filter_eq_self.mpr (by simpa using all)]
  · simp [List.isEmpty_iff, empty] at h
    subst h
    refine ⟨by simpa [← none_refused] using empty, by simp, ?_⟩
    rintro is ⟨⟩
    exact ⟨hissues, hparse, Issue.report_of_ne_nil empty⟩

namespace Proxy

theorem plain_defaultFits (name : String) (kind : Kind) (default : Setting)
    (importance : Importance) (doc : String) :
    (plain name kind default importance doc).DefaultFits := by
  intro s c _ hc
  cases hc

theorem constrained_defaultFits {name : String} {kind : Kind} {default : Setting}
    {importance : Importance} {doc : String} {c : Constraint}
    (h : c.check default.toValue = .ok ()) :
    (constrained name kind default importance doc c).DefaultFits := by
  intro s c' hs hc
  cases hs
  cases hc
  exact h

theorem restKeys_defaultFit : ∀ k ∈ restKeys, k.DefaultFits := by
  simp only [restKeys, List.forall_mem_cons, plain_defaultFits, true_and, List.not_mem_nil,
    false_imp_iff, forall_const, and_true]
  refine ⟨constrained_defaultFits rfl, constrained_defaultFits rfl, constrained_defaultFits rfl,
    constrained_defaultFits rfl, constrained_defaultFits rfl, constrained_defaultFits ?_⟩
  simp [Constraint.check, Setting.toValue, Value.same]

theorem consumerKeys_defaultFit : ∀ k ∈ consumerKeys, k.DefaultFits := by
  simp only [consumerKeys, List.forall_mem_cons, plain_defaultFits, true_and, List.not_mem_nil,
    false_imp_iff, forall_const, and_true]
  exact ⟨constrained_defaultFits rfl, constrained_defaultFits rfl⟩

theorem restSchema_defaultsFit : restSchema.DefaultsFit :=
  Schema.empty_defaultsFit.extend restKeys_defaultFit

theorem withConsumerKeys_defaultsFit {base : Schema} (h : base.DefaultsFit) :
    (withConsumerKeys base).DefaultsFit :=
  h.extend consumerKeys_defaultFit

theorem defaultSchema_defaultsFit : defaultSchema.DefaultsFit :=
  withConsumerKeys_defaultsFit restSchema_defaultsFit

end Proxy

/-- The simple-consumer schema reports both of two offending keys, each with its own
message: a count that is no integer and a minimum below its range. -/
theorem consumer_schema_reports_both_offences :
    (Proxy.withConsumerKeys Schema.empty).validate 10
        [("consumer.threads", .str "many"), ("fetch.min.bytes", .str " -5 ")] =
      .ok (.rejected [⟨"consumer.threads", "expected int, got value 'many'"⟩,
        ⟨"fetch.min.bytes", "value must be in [-1,...,10000000]"⟩]) ∧
    ((∃ settings, Verdict.rejected [⟨"consumer.threads", "expected int, got value 'many'"⟩,
        ⟨"fetch.min.bytes", "value must be in [-1,...,10000000]"⟩] = .accepted settings) ↔
      ∀ k ∈ (Proxy.withConsumerKeys Schema.empty).keys, k.Acceptable 10
        [("consumer.threads", .str "many"), ("fetch.min.bytes", .str " -5 ")]) := by
  have answer : (Proxy.withConsumerKeys Schema.empty).validate 10
      [("consumer.threads", .str "many"), ("fetch.min.bytes", .str " -5 ")] =
      .ok (.rejected [⟨"consumer.threads", "expected int, got value 'many'"⟩,
        ⟨"fetch.min.bytes", "value must be in [-1,...,10000000]"⟩]) := by rfl
  exact ⟨answer, (Schema.validate_reports_unacceptable_keys answer).1⟩

/-- A key put together by hand with a default outside its own range: nothing supplied, it is
reported with the range's message although it has a default. -/
theorem defaulted_key_outside_range_reported :
    let k : Key := ⟨"x", .int, some (.whole 5), .low, "",
      some (.range (some (.int 10)) (some (.int 20)))⟩
    k.hasDefault = true ∧
      (Schema.ofKeys [k]).validate 1 [] = .ok (.rejected [⟨"x", "value must be in [10,...,20]"⟩]) :=
  ⟨rfl, rfl⟩

end RestConfig

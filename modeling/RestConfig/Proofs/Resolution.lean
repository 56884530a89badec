import RestConfig.Proofs.Validation
import RestConfig.Proxy.Settings

/-!
# What makes resolution fail

Resolution validates the properties against the schema first, and builds the legacy
consumer view only from properties that pass, after blanking the two ids the view
requires. So a rejected map fails with exactly its validation issues, and an accepted one
fails exactly when it breaks one of the consumer rules, read off the properties as
supplied: a property the view writes as text that cannot be written, a numeric setting that
is no 32-bit integer, a fetch wait above the socket timeout, an illegal client id, or an
unknown reset policy. The breach reported is the first in the order the view reads and checks
them. A missing id, or any group id at all, never makes resolution fail.

Main statement: `Proxy.resolve_fails_validation_then_consumer`.
-/

namespace RestConfig.Proxy

/-- The failure an outcome ends in, if any. -/
def breachOf {α : Type} : Except Failure α → Option Failure
  | .ok _ => none
  | .error f => some f

@[simp] theorem breachOf_ok {α : Type} (a : α) : breachOf (.ok a : Except Failure α) = none := rfl

@[simp] theorem breachOf_error {α : Type} (f : Failure) :
    breachOf (.error f : Except Failure α) = some f := rfl

def waitMessage : String :=
  "socket.timeout.ms should always be at least fetch.wait.max.ms " ++
    "to prevent unnecessary socket timeouts"

/-- The numeric settings of the consumer with their defaults, in the order they are read. -/
def numericSettings : List (String × Int) :=
  [("socket.timeout.ms", 30 * 1000), ("socket.receive.buffer.bytes", 64 * 1024),
    ("fetch.message.max.bytes", 1024 * 1024), ("fetch.wait.max.ms", 100), ("fetch.min.bytes", 1)]

/-- The fetch wait may not exceed the socket timeout, both as the consumer reads them. -/
def waitBreach (room : Nat) (props : Props) : Option Failure :=
  match leniently room props "fetch.wait.max.ms" 100,
      leniently room props "socket.timeout.ms" (30 * 1000) with
  | .ok w, .ok t => if w > t then some (.badConsumer waitMessage) else none
  | _, _ => none

/-- A supplied client id may hold only the legal id characters. -/
def clientBreach (props : Props) : Option Failure :=
  match props.get? "client.id" with
  | some v => breachOf (checkId "client.id" v.display)
  | none => none

/-- A supplied reset policy must be `smallest` or `largest`. -/
def resetBreach (props : Props) : Option Failure :=
  match props.get? "auto.offset.reset" with
  | some v =>
    if v.display = "smallest" ∨ v.display = "largest" then none
    else some (.badConsumer ("wrong value " ++ Text.quote v.display ++
      " of auto.offset.reset; valid values are smallest and largest"))
  | none => none

/-- The consumer rules in the order the view reads and checks them, each `some` with the
failure that reports its breach: the client id written, the numeric settings read, the reset
policy written, then the checks. -/
def consumerBreaches (room : Nat) (props : Props) : List (Option Failure) :=
  breachOf (textOr room props "client.id" "") ::
    (numericSettings.map (fun (n, d) => breachOf (leniently room props n d)) ++
      [breachOf (textOr room props "auto.offset.reset" "largest"), waitBreach room props,
        clientBreach props, resetBreach props])

def firstBreach (room : Nat) (props : Props) : Option Failure :=
  (consumerBreaches room props).findSome? id

theorem Value.textWithin_eq_ok_iff {v : Value} {room : Nat} {t : String} :
    v.textWithin room = .ok t ↔ v.strFault room = none ∧ t = v.display := by
  unfold Value.textWithin
  cases v.strFault room <;> simp [eq_comm]

theorem consumerProps_get?_of_ne {props : Props} {n : String} (hz : n ≠ "zookeeper.connect")
    (hg : n ≠ "group.id") : (consumerProps props).get? n = props.get? n := by
  rw [consumerProps, Props.get?_set_of_ne _ hg, Props.get?_set_of_ne _ hz]

section Readers

variable {room : Nat} {props : Props}

theorem leniently_consumerProps {n : String} (hz : n ≠ "zookeeper.connect")
    (hg : n ≠ "group.id") (d : Int) :
    leniently room (consumerProps props) n d = leniently room props n d := by
  simp only [leniently, consumerProps_get?_of_ne hz hg]

theorem textOr_consumerProps {n : String} (hz : n ≠ "zookeeper.connect")
    (hg : n ≠ "group.id") (d : String) :
    textOr room (consumerProps props) n d = textOr room props n d := by
  simp only [textOr, consumerProps_get?_of_ne hz hg]

theorem requireText_consumerProps_zookeeper :
    requireText room (consumerProps props) "zookeeper.connect" = .ok "" := by
  simp [requireText, consumerProps, Props.get?_set]

theorem requireText_consumerProps_group :
    requireText room (consumerProps props) "group.id" = .ok "" := by
  simp [requireText, consumerProps]

theorem textOr_ok {name d t : String} (h : textOr room props name d = .ok t) :
    t = ((props.get? name).map Value.display).getD d := by
  unfold textOr at h
  cases hv : props.get? name with
  | none =>
    rw [hv] at h
    cases h
    rfl
  | some v =>
    rw [hv] at h
    simpa using (Value.textWithin_eq_ok_iff.mp h).2

theorem textOr_error {name d : String} {f : Failure} (h : textOr room props name d = .error f) :
    ∃ v, props.get? name = some v ∧ v.textWithin room = .error f := by
  unfold textOr at h
  cases hv : props.get? name with
  | none =>
    rw [hv] at h
    cases h
  | some v =>
    rw [hv] at h
    exact ⟨v, rfl, h⟩

theorem clientBreach_of_textOr {t : String} (h : textOr room props "client.id" "" = .ok t) :
    clientBreach props = breachOf (checkId "client.id" t) := by
  rw [textOr_ok h]
  unfold clientBreach
  cases props.get? "client.id" <;> rfl

theorem resetBreach_of_textOr {t : String}
    (h : textOr room props "auto.offset.reset" "largest" = .ok t) :
    resetBreach props = if t = "smallest" ∨ t = "largest" then none
      else some (.badConsumer ("wrong value " ++ Text.quote t ++
        " of auto.offset.reset; valid values are smallest and largest")) := by
  rw [textOr_ok h]
  unfold resetBreach
  cases props.get? "auto.offset.reset" <;> simp

end Readers

/-- The consumer view of the blanked map fails with the first breach of the consumer rules
over the properties as supplied, and succeeds when there is none. -/
theorem ofProps_consumerProps (room : Nat) (props : Props) :
    (∀ f, firstBreach room props = some f →
      ConsumerView.ofProps room (consumerProps props) = .error f) ∧
    (firstBreach room props = none →
      ∃ view, ConsumerView.ofProps room (consumerProps props) = .ok view) := by
  unfold ConsumerView.ofProps
  rw [requireText_consumerProps_zookeeper, requireText_consumerProps_group]
  simp only [Except.ok_bind]
  rw [textOr_consumerProps (by decide) (by decide),
    leniently_consumerProps (by decide) (by decide), leniently_consumerProps (by decide) (by decide),
    leniently_consumerProps (by decide) (by decide), leniently_consumerProps (by decide) (by decide),
    leniently_consumerProps (by decide) (by decide), textOr_consumerProps (by decide) (by decide)]
  simp only [firstBreach, consumerBreaches, numericSettings, List.map_cons, List.map_nil,
    List.cons_append, List.nil_append]
  cases hc : textOr room props "client.id" "" with
  | error f => simp
  | ok client =>
  cases h1 : leniently room props "socket.timeout.ms" (30 * 1000) with
  | error f => simp
  | ok t =>
  cases h2 : leniently room props "socket.receive.buffer.bytes" (64 * 1024) with
  | error f => simp
  | ok b =>
  cases h3 : leniently room props "fetch.message.max.bytes" (1024 * 1024) with
  | error f => simp
  | ok m =>
  cases h4 : leniently room props "fetch.wait.max.ms" 100 with
  | error f => simp
  | ok w =>
  cases h5 : leniently room props "fetch.min.bytes" 1 with
  | error f => simp
  | ok n =>
  cases hr : textOr room props "auto.offset.reset" "largest" with
  | error f => simp
  | ok reset =>
  have group : checkId "group.id" "" = .ok () := rfl
  simp only [Except.ok_bind, breachOf_ok, List.findSome?_cons, id, group, waitBreach, h1, h4,
    clientBreach_of_textOr hc, resetBreach_of_textOr hr]
  by_cases late : w > t
  · simp only [late, if_true, Except.throw_eq_error, Except.error_bind]
    refine ⟨fun f hf => ?_, fun none => by cases none⟩
    cases hf
    rfl
  · simp only [late, if_false]
    cases hk : checkId "client.id" client with
    | error f => simp
    | ok u => by_cases valid : reset = "smallest" ∨ reset = "largest" <;> simp [valid]

/-- A supplied property the consumer writes as text that cannot be written with the room. -/
def Unwritten (room : Nat) (props : Props) (name : String) : Prop :=
  ∃ v f, props.get? name = some v ∧ v.textWithin room = .error f

/-- A supplied numeric setting that cannot be written as text, or whose trimmed text is no
integer, or one beyond 32 bits. -/
def NumericBroken (room : Nat) (props : Props) (name : String) : Prop :=
  ∃ v, props.get? name = some v ∧ ∀ t, v.textWithin room = .ok t →
    ∀ i, Reading.readInteger (Text.trim t) = .value i → fits32 i = false

/-- The ways the consumer rules can be broken. -/
def ConsumerBroken (room : Nat) (props : Props) : Prop :=
  Unwritten room props "client.id" ∨
  (∃ s ∈ numericSettings, NumericBroken room props s.1) ∨
  Unwritten room props "auto.offset.reset" ∨
  (∃ w t, leniently room props "fetch.wait.max.ms" 100 = .ok w ∧
    leniently room props "socket.timeout.ms" (30 * 1000) = .ok t ∧ t < w) ∨
  (∃ v, props.get? "client.id" = some v ∧ legalId v.display = false) ∨
  (∃ v, props.get? "auto.offset.reset" = some v ∧ v.display ≠ "smallest" ∧ v.display ≠ "largest")

section Breaches

variable {room : Nat} {props : Props}

theorem leniently_ok_iff {name : String} {d : Int} :
    (∃ i, leniently room props name d = .ok i) ↔ ¬ NumericBroken room props name := by
  unfold leniently NumericBroken
  cases hv : props.get? name with
  | none => simp
  | some v =>
    cases hw : v.textWithin room with
    | error f => simp [hw, bind, Except.bind]
    | ok t =>
      cases hr : Reading.readInteger (Text.trim t) with
      | value i => cases hf : fits32 i <;> simp [hw, hr, hf, bind, Except.bind]
      | malformed => simp [hw, hr, bind, Except.bind]
      | tooLong n => simp [hw, hr, bind, Except.bind]

theorem breachOf_leniently_eq_none {name : String} {d : Int} :
    breachOf (leniently room props name d) = none ↔ ¬ NumericBroken room props name := by
  rw [← leniently_ok_iff]
  cases leniently room props name d <;> simp [breachOf]

theorem breachOf_textOr_eq_none {name d : String} :
    breachOf (textOr room props name d) = none ↔ ¬ Unwritten room props name := by
  unfold textOr Unwritten
  cases hv : props.get? name with
  | none => simp
  | some v => cases hw : v.textWithin room <;> simp [hw]

theorem waitBreach_eq_none_iff :
    waitBreach room props = none ↔ ¬ ∃ w t, leniently room props "fetch.wait.max.ms" 100 = .ok w ∧
      leniently room props "socket.timeout.ms" (30 * 1000) = .ok t ∧ t < w := by
  unfold waitBreach
  cases hw : leniently room props "fetch.wait.max.ms" 100 <;>
    cases ht : leniently room props "socket.timeout.ms" (30 * 1000) <;> simp

theorem checkId_eq_ok_iff {name value : String} :
    checkId name value = .ok () ↔ legalId value = true := by
  unfold checkId
  cases legalId value <;> simp

theorem clientBreach_eq_none_iff :
    clientBreach props = none ↔
      ¬ ∃ v, props.get? "client.id" = some v ∧ legalId v.display = false := by
  unfold clientBreach
  cases hc : props.get? "client.id" with
  | none => simp
  | some v =>
    cases hl : legalId v.display
    · simp [checkId, hl]
    · simp [checkId_eq_ok_iff.mpr hl, hl]

theorem resetBreach_eq_none_iff :
    resetBreach props = none ↔ ¬ ∃ v, props.get? "auto.offset.reset" = some v ∧
      v.display ≠ "smallest" ∧ v.display ≠ "largest" := by
  unfold resetBreach
  cases hr : props.get? "auto.offset.reset" with
  | none => simp
  | some v =>
    by_cases valid : v.display = "smallest" ∨ v.display = "largest"
    · simp only [valid, if_true, true_iff, not_exists, not_and, Option.some.injEq]
      rintro _ rfl small large
      exact large (valid.resolve_left small)
    · simp only [valid, if_false, reduceCtorEq, false_iff]
      exact fun none => none ⟨v, rfl, fun h => valid (.inl h), fun h => valid (.inr h)⟩

theorem firstBreach_eq_none_iff : firstBreach room props = none ↔ ¬ ConsumerBroken room props := by
  simp only [firstBreach, List.findSome?_eq_none_iff, id, consumerBreaches, List.mem_cons,
    List.mem_append, List.mem_map, List.not_mem_nil, or_false]
  simp only [ConsumerBroken, not_or]
  constructor
  · intro all
    refine ⟨breachOf_textOr_eq_none.mp (all _ (.inl rfl)), fun ⟨s, mem, broken⟩ => ?_,
      breachOf_textOr_eq_none.mp (all _ (.inr (.inr (.inl rfl)))),
      waitBreach_eq_none_iff.mp (all _ (.inr (.inr (.inr (.inl rfl))))),
      clientBreach_eq_none_iff.mp (all _ (.inr (.inr (.inr (.inr (.inl rfl)))))),
      resetBreach_eq_none_iff.mp (all _ (.inr (.inr (.inr (.inr (.inr rfl))))))⟩
    exact breachOf_leniently_eq_none.mp (all _ (.inr (.inl ⟨s, mem, rfl⟩))) broken
  · rintro ⟨client, numeric, reset, wait, clientId, resetPolicy⟩ x
      (rfl | ⟨s, mem, rfl⟩ | rfl | rfl | rfl | rfl)
    · exact breachOf_textOr_eq_none.mpr client
    · exact breachOf_leniently_eq_none.mpr fun broken => numeric ⟨s, mem, broken⟩
    · exact breachOf_textOr_eq_none.mpr reset
    · exact waitBreach_eq_none_iff.mpr wait
    · exact clientBreach_eq_none_iff.mpr clientId
    · exact resetBreach_eq_none_iff.mpr resetPolicy

end Breaches

section Kinds

variable {room : Nat} {props : Props} {f : Failure}

theorem leniently_error {name : String} {d : Int} (h : leniently room props name d = .error f) :
    (∃ m, f = .badConsumer m) ∨ ∃ v, props.get? name = some v ∧ v.textWithin room = .error f := by
  unfold leniently at h
  cases hv : props.get? name with
  | none => simp [hv] at h
  | some v =>
    simp only [hv] at h
    cases hw : v.textWithin room with
    | error e =>
      simp only [hw, bind, Except.bind, Except.error.injEq] at h
      subst h
      exact .inr ⟨v, rfl, hw⟩
    | ok t =>
      simp only [hw, bind, Except.bind] at h
      split at h
      · split at h
        · cases h
        · cases h
          exact .inl ⟨_, rfl⟩
      · cases h
        exact .inl ⟨_, rfl⟩

theorem checkId_error {name value : String} (h : checkId name value = .error f) :
    ∃ m, f = .badConsumer m := by
  unfold checkId at h
  split at h
  · cases h
  · cases h
    exact ⟨_, rfl⟩

/-- Every breach of a consumer rule is reported as an inconsistent consumer view, but for a
supplied property that cannot be written as text, which fails with the fault met writing it. -/
theorem firstBreach_kind (h : firstBreach room props = some f) :
    (∃ m, f = .badConsumer m) ∨
      ∃ name v, props.get? name = some v ∧ v.textWithin room = .error f := by
  obtain ⟨x, mem, hx⟩ := List.exists_of_findSome?_eq_some h
  simp only [id] at hx
  subst hx
  simp only [consumerBreaches, List.mem_cons, List.mem_append, List.mem_map, List.not_mem_nil,
    or_false] at mem
  rcases mem with hc | ⟨⟨n, d⟩, -, hn⟩ | hr | hw | hc | hr
  · cases ht : textOr room props "client.id" "" with
    | ok t => simp [ht] at hc
    | error e =>
      simp only [ht, breachOf_error, Option.some.injEq] at hc
      obtain ⟨v, hv, fails⟩ := textOr_error ht
      exact .inr ⟨_, v, hv, hc ▸ fails⟩
  · dsimp only at hn
    cases hl : leniently room props n d with
    | ok i => simp [hl] at hn
    | error e =>
      simp only [hl, breachOf_error, Option.some.injEq] at hn
      rcases leniently_error hl with ⟨m, rfl⟩ | ⟨v, hv, fails⟩
      · exact .inl ⟨m, hn.symm⟩
      · exact .inr ⟨n, v, hv, hn ▸ fails⟩
  · cases ht : textOr room props "auto.offset.reset" "largest" with
    | ok t => simp [ht] at hr
    | error e =>
      simp only [ht, breachOf_error, Option.some.injEq] at hr
      obtain ⟨v, hv, fails⟩ := textOr_error ht
      exact .inr ⟨_, v, hv, hr ▸ fails⟩
  · unfold waitBreach at hw
    split at hw
    · split at hw
      · cases hw
        exact .inl ⟨_, rfl⟩
      · cases hw
    · cases hw
  · unfold clientBreach at hc
    split at hc
    · rename_i v _
      cases hk : checkId "client.id" v.display with
      | ok u => simp [hk] at hc
      | error e =>
        simp only [hk, breachOf_error, Option.some.injEq] at hc
        exact .inl (hc ▸ checkId_error hk)
    · cases hc
  · unfold resetBreach at hr
    split at hr
    · split at hr
      · cases hr
      · cases hr
        exact .inl ⟨_, rfl⟩
    · cases hr

end Kinds

/-- Resolving against the published schema with a room, whenever validation answers: rejected
properties fail with exactly the validation issues, before the consumer view is looked
at; accepted ones fail exactly when a consumer rule of the original properties is broken,
with the breach of the first rule in the order the view reads and checks them, and otherwise
resolve to the accepted settings. Every such failure is an inconsistent consumer view, but for
a supplied property that cannot be written as text, which fails as writing it does. The ids the
consumer requires are blanked first, so neither a missing id nor any group id can make
resolution fail. -/
theorem resolve_fails_validation_then_consumer {room : Nat} {props : Props} {r : Verdict}
    (h : defaultSchema.validate room props = .ok r) :
    (∀ issues, r = .rejected issues →
      resolve room defaultSchema props = .error (.invalidConfig issues)) ∧
    (∀ settings, r = .accepted settings →
      ((∃ f, resolve room defaultSchema props = .error f) ↔ ConsumerBroken (room + 2) props) ∧
      (∀ f, resolve room defaultSchema props = .error f →
        firstBreach (room + 2) props = some f ∧ (f.kind = "ConsumerConfigError" ∨
          ∃ name v, props.get? name = some v ∧ v.textWithin (room + 2) = .error f)) ∧
      (¬ ConsumerBroken (room + 2) props →
        ∃ view, resolve room defaultSchema props =
          .ok ⟨defaultSchema, settings, props, view⟩)) := by
  obtain ⟨-, accepted, rejected⟩ := Schema.validate_reports_unacceptable_keys h
  refine ⟨fun issues hr => ?_, fun settings hr => ?_⟩
  · obtain ⟨-, parse, -⟩ := rejected issues hr
    simp [resolve, parse]
  · obtain ⟨-, parse⟩ := accepted settings hr
    obtain ⟨bad, good⟩ := ofProps_consumerProps (room + 2) props
    cases hb : firstBreach (room + 2) props with
    | some f =>
      have broken : ConsumerBroken (room + 2) props := Classical.byContradiction fun kept => by
        rw [← firstBreach_eq_none_iff, hb] at kept
        cases kept
      have fails : resolve room defaultSchema props = .error f := by
        simp [resolve, parse, bad _ hb]
      have kind : f.kind = "ConsumerConfigError" ∨
          ∃ name v, props.get? name = some v ∧ v.textWithin (room + 2) = .error f := by
        rcases firstBreach_kind hb with ⟨m, rfl⟩ | unwritten
        · exact .inl rfl
        · exact .inr unwritten
      refine ⟨⟨fun _ => broken, fun _ => ⟨_, fails⟩⟩, ?_, fun kept => absurd broken kept⟩
      intro f' hf'
      rw [fails] at hf'
      cases hf'
      exact ⟨rfl, kind⟩
    | none =>
      have kept : ¬ ConsumerBroken (room + 2) props := firstBreach_eq_none_iff.mp hb
      obtain ⟨view, hv⟩ := good hb
      have succeeds : resolve room defaultSchema props =
          .ok ⟨defaultSchema, settings, props, view⟩ := by
        simp [resolve, parse, hv]
      refine ⟨⟨fun ⟨f, hf⟩ => ?_, fun broken => absurd broken kept⟩, fun f hf => ?_,
        fun _ => ⟨view, succeeds⟩⟩
      · rw [succeeds] at hf
        cases hf
      · rw [succeeds] at hf
        cases hf

/-- A group id the consumer would refuse does not matter, since it is blanked; a fetch wait
above the default socket timeout does. -/
theorem late_fetch_wait_fails_resolution :
    defaultSchema.validate 10 [("group.id", .str "any id!"), ("fetch.wait.max.ms", .str "50000")] =
      .ok (.accepted (defaultSchema.keys.filterMap fun k => k.default.map (k.name, ·))) ∧
    ∃ f, resolve 10 defaultSchema
      [("group.id", .str "any id!"), ("fetch.wait.max.ms", .str "50000")] = .error f := by
  -- the published schema reads every key's documentation text, hence the deeper recursion
  have accepted : defaultSchema.validate 10
      [("group.id", .str "any id!"), ("fetch.wait.max.ms", .str "50000")] =
      .ok (.accepted (defaultSchema.keys.filterMap fun k => k.default.map (k.name, ·))) := by
    set_option maxRecDepth 20000 in with_unfolding_all rfl
  refine ⟨accepted, ((resolve_fails_validation_then_consumer accepted).2 _ rfl).1.mpr ?_⟩
  exact .inr (.inr (.inr (.inl ⟨50000, 30000, rfl, rfl, by decide⟩)))

end RestConfig.Proxy

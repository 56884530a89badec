import RestConfig.Proofs.Resolution

/-!
# Names that nothing reads

Validation looks a property map up only under the schema's names, and the legacy consumer
view only under its own nine names. Laying more properties over a map, under names that
neither of them reads, therefore changes neither the verdict of validation nor the outcome
of resolution: a failure stays the same failure, and a success keeps its settings and its
consumer view, with only the properties kept as supplied growing.

Main statement: `Proxy.overlay_unread_names_frame`.
-/

namespace RestConfig

/-- Properties laid over a map one after another, each replacing the value of its name in
place or joining at the end. -/
def Props.overlay (props extra : Props) : Props :=
  extra.foldl (fun acc e => acc.set e.1 e.2) props

/-- Two property maps read the same under every name of a list. -/
def Props.AgreeOn (names : List String) (a b : Props) : Prop :=
  ∀ n ∈ names, a.get? n = b.get? n

theorem Props.get?_overlay_of_not_mem {props extra : Props} {n : String}
    (h : n ∉ extra.map (·.1)) : (props.overlay extra).get? n = props.get? n := by
  induction extra generalizing props with
  | nil => rfl
  | cons e rest ih =>
    simp only [List.map_cons, List.mem_cons, not_or] at h
    have later : (props.overlay (e :: rest)) = (props.set e.1 e.2).overlay rest := rfl
    rw [later, ih h.2, Props.get?_set_of_ne _ h.1]

theorem Props.agreeOn_overlay {names : List String} {props extra : Props}
    (h : ∀ e ∈ extra, e.1 ∉ names) : Props.AgreeOn names (props.overlay extra) props := by
  intro n mem
  apply Props.get?_overlay_of_not_mem
  intro listed
  obtain ⟨e, he, rfl⟩ := List.mem_map.mp listed
  exact h e he mem

theorem Key.resolve_congr {k : Key} {room : Nat} {a b : Props}
    (h : a.get? k.name = b.get? k.name) : k.resolve room a = k.resolve room b := by
  unfold Key.resolve
  rw [h]

theorem resolveAll_congr {room : Nat} {a b : Props} {ks : List Key}
    (h : Props.AgreeOn (ks.map (·.name)) a b) : resolveAll room a ks = resolveAll room b ks := by
  induction ks with
  | nil => rfl
  | cons k ks ih =>
    simp only [Props.AgreeOn, List.map_cons, List.mem_cons, forall_eq_or_imp] at h
    simp only [resolveAll, Key.resolve_congr h.1, ih h.2]

theorem Schema.validate_congr {s : Schema} {room : Nat} {a b : Props}
    (h : Props.AgreeOn s.names a b) : s.validate room a = s.validate room b := by
  simp only [Schema.validate, resolveAll_congr h]

theorem Schema.parse_congr {s : Schema} {room : Nat} {a b : Props}
    (h : Props.AgreeOn s.names a b) : s.parse room a = s.parse room b := by
  simp only [Schema.parse, Schema.validate_congr h]

namespace Proxy

/-- The names the legacy consumer view reads. -/
def consumerNames : List String :=
  ["zookeeper.connect", "group.id", "client.id", "socket.timeout.ms",
    "socket.receive.buffer.bytes", "fetch.message.max.bytes", "fetch.wait.max.ms",
    "fetch.min.bytes", "auto.offset.reset"]

theorem ofProps_congr {room : Nat} {a b : Props} (h : Props.AgreeOn consumerNames a b) :
    ConsumerView.ofProps room a = ConsumerView.ofProps room b := by
  simp only [Props.AgreeOn, consumerNames, List.mem_cons, List.not_mem_nil, or_false,
    forall_eq_or_imp, forall_eq] at h
  obtain ⟨zookeeper, group, client, socket, buffer, message, wait, fetch, reset⟩ := h
  unfold ConsumerView.ofProps requireText textOr leniently
  rw [zookeeper, group, client, socket, buffer, message, wait, fetch, reset]

theorem consumerProps_agreeOn {a b : Props} (h : Props.AgreeOn consumerNames a b) :
    Props.AgreeOn consumerNames (consumerProps a) (consumerProps b) := by
  intro n mem
  simp only [consumerProps, Props.get?_set, h n mem]

/-- Two maps that read the same under the schema's names and the consumer's names resolve
alike: the same failure, or the same settings and consumer view. -/
theorem resolve_congr {s : Schema} {room : Nat} {a b : Props} (hs : Props.AgreeOn s.names a b)
    (hc : Props.AgreeOn consumerNames a b) :
    resolve room s a = (resolve room s b).map fun r => { r with supplied := a } := by
  simp only [resolve, Schema.parse_congr hs, ofProps_congr (consumerProps_agreeOn hc)]
  cases s.parse room b with
  | error f => rfl
  | ok settings =>
    cases ConsumerView.ofProps (room + 2) (consumerProps b) with
    | error f => rfl
    | ok view => rfl

/-- Validation against any schema ignores properties laid over the map under names the
schema does not declare; resolution against the published schema ignores those the
consumer view does not read either, except that they join the properties kept as
supplied. -/
theorem overlay_unread_names_frame :
    (∀ (s : Schema) (room : Nat) (props extra : Props), (∀ e ∈ extra, e.1 ∉ s.names) →
      s.validate room (props.overlay extra) = s.validate room props) ∧
    (∀ (room : Nat) (props extra : Props),
      (∀ e ∈ extra, e.1 ∉ defaultSchema.names ∧ e.1 ∉ consumerNames) →
      resolve room defaultSchema (props.overlay extra) =
        (resolve room defaultSchema props).map fun r =>
          { r with supplied := props.overlay extra }) := by
  refine ⟨fun s room props extra fresh => ?_, fun room props extra fresh => ?_⟩
  · exact Schema.validate_congr (Props.agreeOn_overlay fresh)
  · have schema : Props.AgreeOn defaultSchema.names (props.overlay extra) props :=
      Props.agreeOn_overlay fun e he => (fresh e he).1
    have consumer : Props.AgreeOn consumerNames (props.overlay extra) props :=
      Props.agreeOn_overlay fun e he => (fresh e he).2
    exact resolve_congr schema consumer

/-- An unknown retry count laid over a fetch wait above the socket timeout: validation and
the failed resolution come out as without it. -/
theorem unknown_retries_change_no_outcome :
    (∀ e ∈ [("unknown.retries", Value.str "many")],
      e.1 ∉ defaultSchema.names ∧ e.1 ∉ consumerNames) ∧
    defaultSchema.validate 10 (Props.overlay [("fetch.wait.max.ms", .str "50000")]
        [("unknown.retries", .str "many")]) =
      defaultSchema.validate 10 [("fetch.wait.max.ms", .str "50000")] ∧
    resolve 10 defaultSchema (Props.overlay [("fetch.wait.max.ms", .str "50000")]
        [("unknown.retries", .str "many")]) =
      (resolve 10 defaultSchema [("fetch.wait.max.ms", .str "50000")]).map fun r =>
        { r with supplied :=
          Props.overlay [("fetch.wait.max.ms", .str "50000")] [("unknown.retries", .str "many")] } := by
  have fresh : ∀ e ∈ [("unknown.retries", Value.str "many")],
      e.1 ∉ defaultSchema.names ∧ e.1 ∉ consumerNames := by
    decide +kernel
  exact ⟨fresh, overlay_unread_names_frame.1 defaultSchema 10
      [("fetch.wait.max.ms", .str "50000")] [("unknown.retries", .str "many")]
      fun e he => (fresh e he).1,
    overlay_unread_names_frame.2 10 [("fetch.wait.max.ms", .str "50000")]
      [("unknown.retries", .str "many")] fresh⟩

end Proxy

end RestConfig

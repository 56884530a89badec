import RestConfig.Proofs.Rendering
import RestConfig.Proofs.Resolution

/-!
# Resolving rendered properties again

A resolved configuration renders its settings back to property texts. Resolved again against
the published schema, the texts give the same settings, each secret hidden, and the consumer
view accepts them. Three facts carry this: every key of the schema reads its settings back
from their renderings (`Key.RendersBack`); the rendering holds each schema name once, in sorted
order, so a look-up finds each key's own text; and of the consumer's settings only
`fetch.min.bytes` is a schema name, an int whose rendering reads leniently as itself.
-/

namespace RestConfig

/-! ## One key per name -/

theorem Schema.names_insert_of_contains {s : Schema} {k : Key} (h : s.contains k.name = true) :
    (s.insert k).names = s.names := by
  simp only [Schema.insert, h, if_true, Schema.names, List.map_map]
  apply List.map_congr_left
  intro e _
  by_cases same : e.name = k.name <;> simp [same]

theorem Schema.nodup_names_insert {s : Schema} (k : Key) (hs : s.names.Nodup) :
    (s.insert k).names.Nodup := by
  cases hc : s.contains k.name with
  | true => rwa [Schema.names_insert_of_contains hc]
  | false =>
    have fresh : k.name ∉ s.names := by
      simpa [Schema.contains, Schema.names] using hc
    have appended : (s.insert k).names = s.names ++ [k.name] := by
      simp [Schema.insert, hc, Schema.names]
    rw [appended, List.nodup_append]
    refine ⟨hs, List.nodup_cons.mpr ⟨List.not_mem_nil, List.nodup_nil⟩, ?_⟩
    intro a ha b hb
    rw [List.mem_singleton.mp hb]
    exact fun same => fresh (same ▸ ha)

theorem Schema.nodup_names_extend {s : Schema} (ks : List Key) (hs : s.names.Nodup) :
    (s.extend ks).names.Nodup := by
  induction ks generalizing s with
  | nil => exact hs
  | cons k ks ih => exact ih (Schema.nodup_names_insert k hs)

/-! ## Property maps with one entry per name -/

theorem Props.mem_of_get? {props : Props} {n : String} {v : Value} (h : props.get? n = some v) :
    (n, v) ∈ props := by
  obtain ⟨e, found, rfl⟩ := Option.map_eq_some_iff.mp h
  have named : e.1 = n := by simpa using List.find?_some found
  rw [← named]
  exact List.mem_of_find?_eq_some found

theorem Props.get?_of_mem {props : Props} {n : String} {v : Value}
    (nd : (props.map (·.1)).Nodup) (h : (n, v) ∈ props) : props.get? n = some v := by
  induction props with
  | nil => cases h
  | cons e rest ih =>
    rw [List.map_cons, List.nodup_cons] at nd
    rcases List.mem_cons.mp h with rfl | later
    · simp [Props.get?]
    · have other : e.1 ≠ n := fun same => nd.1 (same ▸ List.mem_map_of_mem later)
      have skip : Props.get? (e :: rest) n = Props.get? rest n := by
        simp [Props.get?, other]
      rw [skip]
      exact ih nd.2 later

theorem Props.get?_eq_none {props : Props} {n : String} (h : n ∉ props.map (·.1)) :
    props.get? n = none := by
  simp only [Props.get?, Option.map_eq_none_iff, List.find?_eq_none, beq_iff_eq]
  exact fun e mem same => h (same ▸ List.mem_map_of_mem mem)

/-! ## Resolving every key -/

/-- The setting a key resolves to; the default setting where it resolves to none. -/
def Key.settingIn (k : Key) (room : Nat) (props : Props) : Setting :=
  match k.resolve room props with
  | .ok (.ok s) => s
  | _ => Inhabited.default

section Keys

variable {room : Nat} {props : Props}

theorem Key.settingIn_of_resolve {k : Key} {s : Setting}
    (h : k.resolve room props = .ok (.ok s)) : k.settingIn room props = s := by
  simp [Key.settingIn, h]

theorem Key.resolve_of_read {k : Key} {raw : Value} {s : Setting}
    (hg : props.get? k.name = some raw) (hr : k.kind.read room raw = .ok s)
    (hc : ∀ c, k.constraint = some c → c.check s.toValue = .ok ()) :
    k.resolve room props = .ok (.ok s) := by
  unfold Key.resolve
  rw [hg]
  cases hk : k.constraint with
  | none => simp [hr]
  | some c => simp [hr, hc c hk]

theorem Schema.parse_eq_ok_iff {s : Schema} {settings : Settings} :
    s.parse room props = .ok settings ↔ resolveAll room props s.keys = .ok (settings, []) := by
  unfold Schema.parse Schema.validate
  cases hr : resolveAll room props s.keys with
  | error f => simp
  | ok result =>
    obtain ⟨found, issues⟩ := result
    cases issues <;> simp

theorem resolveAll_accepted {ks : List Key} {settings : Settings}
    (h : resolveAll room props ks = .ok (settings, [])) :
    (∀ k ∈ ks, k.resolve room props = .ok (.ok (k.settingIn room props))) ∧
      settings = ks.map fun k => (k.name, k.settingIn room props) := by
  induction ks generalizing settings with
  | nil =>
    simp only [resolveAll, Except.pure_eq_ok, Except.ok.injEq, Prod.mk.injEq] at h
    exact ⟨by simp, h.1.symm⟩
  | cons k ks ih =>
    obtain ⟨here, hk, h⟩ := Except.bind_eq_ok_iff.mp h
    obtain ⟨⟨rest, later⟩, hrest, h⟩ := Except.bind_eq_ok_iff.mp h
    cases here with
    | ok s =>
      simp only [Except.pure_eq_ok, Except.ok.injEq, Prod.mk.injEq] at h
      obtain ⟨rfl, rfl⟩ := h
      obtain ⟨each, rfl⟩ := ih hrest
      have own := Key.settingIn_of_resolve hk
      refine ⟨?_, by simp [own]⟩
      intro k' mem
      rcases List.mem_cons.mp mem with rfl | later
      · rw [own]
        exact hk
      · exact each k' later
    | error i => simp at h

theorem resolveAll_of_resolved {ks : List Key} (f : Key → Setting)
    (h : ∀ k ∈ ks, k.resolve room props = .ok (.ok (f k))) :
    resolveAll room props ks = .ok (ks.map fun k => (k.name, f k), []) := by
  induction ks with
  | nil => rfl
  | cons k ks ih =>
    have rest := ih fun k' mem => h k' (List.mem_cons_of_mem k mem)
    simp [resolveAll, h k List.mem_cons_self, rest]

end Keys

/-! ## Keys whose settings render back -/

/-- A key whose settings read back from their renderings: its kind is not double, a
password key carries no constraint, and its default can be written and reads back from its
rendering. -/
def Key.RendersBack (k : Key) : Prop :=
  k.kind ≠ .double ∧ (k.kind = .password → k.constraint = none) ∧
    ∀ d, k.default = some d → d.toValue.citable = true ∧
      k.kind.readCitable (.str d.toValue.propertyText) = .ok d.hidden

section Rendering

variable {k : Key} {room : Nat} {props : Props} {s : Setting}

theorem Key.hidden_eq_of_constrained {c : Constraint} (back : k.RendersBack)
    (hr : k.kind.read room (.str s.toValue.propertyText) = .ok s.hidden)
    (hc : k.constraint = some c) : s.hidden = s := by
  apply Setting.hidden_eq_self
  rintro p rfl
  have unconstrained := back.2.1 (Kind.eq_password_of_read_secret hr)
  rw [hc] at unconstrained
  cases unconstrained

/-- The setting a key resolves to from string values, with some room, can be written, reads
back from its rendering, and meets the key's constraint. -/
theorem Key.rereads (back : k.RendersBack) (hroom : 0 < room)
    (strs : ∀ v, props.get? k.name = some v → ∃ t, v = .str t)
    (h : k.resolve room props = .ok (.ok s)) :
    s.toValue.citable = true ∧ k.kind.read room (.str s.toValue.propertyText) = .ok s.hidden ∧
      ∀ c, k.constraint = some c → c.check s.toValue = .ok () := by
  obtain ⟨acc, chosen⟩ := Key.resolve_judged h
  unfold Key.chosen at chosen
  rcases acc with ⟨raw, s', hg, hr, hc⟩ | ⟨hg, d, hd, hc⟩
  · simp only [hg, hr, Except.toOption, Option.some.injEq] at chosen
    subst chosen
    obtain ⟨t, rfl⟩ := strs raw hg
    exact ⟨Kind.citable_toValue (Kind.readCitable_of_read hr), (Kind.read_render back.1 hr).2, hc⟩
  · rw [hg, hd, Option.some.injEq] at chosen
    subst chosen
    obtain ⟨citable, reread⟩ := back.2.2 d hd
    exact ⟨citable, by rw [Kind.read_text hroom]; exact reread, hc⟩

theorem Key.resolve_rendered {R : Props} (back : k.RendersBack) (hroom : 0 < room)
    (strs : ∀ v, props.get? k.name = some v → ∃ t, v = .str t)
    (h : k.resolve room props = .ok (.ok s))
    (hR : R.get? k.name = some (.str s.toValue.propertyText)) :
    k.resolve room R = .ok (.ok s.hidden) := by
  obtain ⟨-, reread, meets⟩ := Key.rereads back hroom strs h
  refine Key.resolve_of_read hR reread fun c hc => ?_
  rw [Key.hidden_eq_of_constrained back reread hc]
  exact meets c hc

theorem Key.resolve_int (back : k.RendersBack) (hroom : 0 < room)
    (strs : ∀ v, props.get? k.name = some v → ∃ t, v = .str t)
    (hk : k.kind = .int) (h : k.resolve room props = .ok (.ok s)) :
    ∃ i, s = .whole i ∧ Proxy.fits32 i = true := by
  obtain ⟨-, reread, -⟩ := Key.rereads back hroom strs h
  rw [hk] at reread
  obtain ⟨i, whole, bounds⟩ := Kind.read_str_whole (.inl rfl) (Kind.readCitable_of_read reread)
  simp only [Kind.bounds] at bounds
  exact ⟨i, Setting.eq_of_hidden_eq_whole whole, by simpa only [Proxy.fits32, decide_eq_true_eq]⟩

end Rendering

namespace Proxy

theorem plain_rendersBack {name : String} {kind : Kind} {default : Setting}
    {importance : Importance} {doc : String} (hk : kind ≠ .double)
    (hd : default.toValue.citable = true ∧
      kind.readCitable (.str default.toValue.propertyText) = .ok default.hidden) :
    (plain name kind default importance doc).RendersBack :=
  ⟨hk, fun _ => rfl, fun d h => by cases h; exact hd⟩

theorem constrained_rendersBack {name : String} {kind : Kind} {default : Setting}
    {importance : Importance} {doc : String} {c : Constraint} (hk : kind ≠ .double)
    (hp : kind ≠ .password)
    (hd : default.toValue.citable = true ∧
      kind.readCitable (.str default.toValue.propertyText) = .ok default.hidden) :
    (constrained name kind default importance doc c).RendersBack :=
  ⟨hk, fun h => absurd h hp, fun d h => by cases h; exact hd⟩

theorem restKeys_rendersBack : ∀ k ∈ restKeys, k.RendersBack := by
  simp only [restKeys, List.forall_mem_cons, List.not_mem_nil, false_imp_iff, forall_const,
    and_true]
  exact ⟨plain_rendersBack (by decide) ⟨rfl, rfl⟩,
    constrained_rendersBack (by decide) (by decide) ⟨rfl, rfl⟩,
    plain_rendersBack (by decide) ⟨rfl, rfl⟩, plain_rendersBack (by decide) ⟨rfl, rfl⟩,
    plain_rendersBack (by decide) ⟨rfl, rfl⟩, plain_rendersBack (by decide) ⟨rfl, rfl⟩,
    plain_rendersBack (by decide) ⟨rfl, rfl⟩, plain_rendersBack (by decide) ⟨rfl, rfl⟩,
    plain_rendersBack (by decide) ⟨rfl, rfl⟩,
    constrained_rendersBack (by decide) (by decide) ⟨rfl, rfl⟩,
    constrained_rendersBack (by decide) (by decide) ⟨rfl, rfl⟩,
    constrained_rendersBack (by decide) (by decide) ⟨rfl, rfl⟩,
    constrained_rendersBack (by decide) (by decide) ⟨rfl, rfl⟩,
    constrained_rendersBack (by decide) (by decide) ⟨rfl, rfl⟩,
    plain_rendersBack (by decide) ⟨rfl, rfl⟩, plain_rendersBack (by decide) ⟨rfl, rfl⟩,
    plain_rendersBack (by decide) ⟨rfl, rfl⟩, plain_rendersBack (by decide) ⟨rfl, rfl⟩,
    plain_rendersBack (by decide) ⟨rfl, rfl⟩⟩

theorem consumerKeys_rendersBack : ∀ k ∈ consumerKeys, k.RendersBack := by
  simp only [consumerKeys, List.forall_mem_cons, List.not_mem_nil, false_imp_iff, forall_const,
    and_true]
  exact ⟨plain_rendersBack (by decide) ⟨rfl, rfl⟩, plain_rendersBack (by decide) ⟨rfl, rfl⟩,
    plain_rendersBack (by decide) ⟨rfl, rfl⟩, plain_rendersBack (by decide) ⟨rfl, rfl⟩,
    constrained_rendersBack (by decide) (by decide) ⟨rfl, rfl⟩,
    plain_rendersBack (by decide) ⟨rfl, rfl⟩,
    plain_rendersBack (by decide) ⟨rfl, rfl⟩, plain_rendersBack (by decide) ⟨rfl, rfl⟩,
    plain_rendersBack (by decide) ⟨rfl, rfl⟩, plain_rendersBack (by decide) ⟨rfl, rfl⟩,
    plain_rendersBack (by decide) ⟨rfl, rfl⟩, plain_rendersBack (by decide) ⟨rfl, rfl⟩,
    constrained_rendersBack (by decide) (by decide) ⟨rfl, rfl⟩⟩

theorem defaultSchema_rendersBack : ∀ k ∈ defaultSchema.keys, k.RendersBack :=
  Schema.forall_mem_extend (Schema.forall_mem_extend (by simp [Schema.empty]) restKeys_rendersBack)
    consumerKeys_rendersBack

theorem defaultSchema_nodup_names : defaultSchema.names.Nodup :=
  Schema.nodup_names_extend _ (Schema.nodup_names_extend _ List.nodup_nil)

theorem consumer_names_undeclared : ∀ n ∈ ["socket.timeout.ms", "socket.receive.buffer.bytes",
    "fetch.message.max.bytes", "fetch.wait.max.ms", "client.id", "auto.offset.reset"],
    n ∉ defaultSchema.names := by
  decide +kernel

theorem fetchMinBytes_kind :
    ∀ k ∈ defaultSchema.keys, k.name = "fetch.min.bytes" → k.kind = .int := by
  decide +kernel

/-- The consumer view accepts properties that hold none of its own settings but
`fetch.min.bytes`, and that one as the decimal text of a 32-bit integer. -/
theorem not_consumerBroken {room : Nat} {R : Props}
    (absent : ∀ n ∈ ["socket.timeout.ms", "socket.receive.buffer.bytes",
      "fetch.message.max.bytes", "fetch.wait.max.ms", "client.id", "auto.offset.reset"],
      R.get? n = none)
    (fetch : ∀ v, R.get? "fetch.min.bytes" = some v → ∃ i, v = .str (toString i) ∧ fits32 i = true) :
    ¬ ConsumerBroken room R := by
  simp only [List.mem_cons, List.not_mem_nil, or_false, forall_eq_or_imp, forall_eq] at absent
  obtain ⟨socket, buffer, message, wait, client, reset⟩ := absent
  rintro (⟨v, f, hv, -⟩ | ⟨s, mem, v, hv, bad⟩ | ⟨v, f, hv, -⟩ | ⟨w, t, hw, ht, late⟩ |
    ⟨v, hv, -⟩ | ⟨v, hv, -⟩)
  · simp [client] at hv
  · simp only [numericSettings, List.mem_cons, List.not_mem_nil, or_false] at mem
    rcases mem with rfl | rfl | rfl | rfl | rfl
    · simp [socket] at hv
    · simp [buffer] at hv
    · simp [message] at hv
    · simp [wait] at hv
    · obtain ⟨i, rfl, fits⟩ := fetch v hv
      have bounds : -2 ^ 63 ≤ i ∧ i ≤ 2 ^ 63 - 1 := by
        simp only [fits32, decide_eq_true_eq] at fits
        omega
      have read : Reading.readInteger (Text.trim (toString i)) = .value i := by
        rw [trim_toString, readInteger_toString (length_digitValues_le bounds)]
      rw [bad _ (Value.textWithin_str room _) i read] at fits
      cases fits
  · simp [reset] at hv
  · simp only [leniently, wait, socket, Except.ok.injEq] at hw ht
    omega
  · simp [client] at hv
  · simp [reset] at hv

/-! ## The rendered properties -/

/-- Property texts as a property map: each text a string value. -/
def textProps (texts : List (String × String)) : Props := texts.map fun e => (e.1, .str e.2)

/-- The settings of a resolved configuration as property texts, by name, when they can all be
written. -/
def Resolved.rendered (r : Resolved) : Props :=
  r.sorted.map fun e => (e.1, .str e.2.toValue.propertyText)

theorem Resolved.properties_of_citable {r : Resolved}
    (h : ∀ e ∈ r.settings, e.2.toValue.citable = true) :
    ∃ texts, r.properties = .ok texts ∧ textProps texts = r.rendered := by
  have sorted : ∀ e ∈ r.sorted, e.2.toValue.citable = true :=
    fun e mem => h e ((List.mergeSort_perm _ _).mem_iff.mp mem)
  refine ⟨r.sorted.map fun e => (e.1, e.2.toValue.propertyText), ?_, ?_⟩
  · unfold Resolved.properties
    generalize r.sorted = l at sorted
    induction l with
    | nil => rfl
    | cons e rest ih =>
      obtain ⟨n, s⟩ := e
      have here := Setting.render_of_citable (sorted (n, s) List.mem_cons_self)
      rw [List.mapM_cons, ih fun e mem => sorted e (List.mem_cons_of_mem _ mem)]
      simp [here]
  · simp [textProps, Resolved.rendered, Function.comp_def]

theorem Resolved.names_rendered (r : Resolved) :
    (r.rendered.map (·.1)).Perm (r.settings.map (·.1)) := by
  have sorted : r.sorted.Perm r.settings := List.mergeSort_perm _ _
  simpa [Resolved.rendered, List.map_map, Function.comp_def] using sorted.map (·.1)

theorem Resolved.mem_rendered {r : Resolved} {n : String} {s : Setting}
    (h : (n, s) ∈ r.settings) : (n, .str s.toValue.propertyText) ∈ r.rendered := by
  have sorted : (n, s) ∈ r.sorted := (List.mergeSort_perm _ _).mem_iff.mpr h
  simp only [Resolved.rendered, List.mem_map]
  exact ⟨(n, s), sorted, rfl⟩

theorem Resolved.of_mem_rendered {r : Resolved} {n : String} {v : Value}
    (h : (n, v) ∈ r.rendered) : ∃ s, (n, s) ∈ r.settings ∧ v = .str s.toValue.propertyText := by
  simp only [Resolved.rendered, List.mem_map] at h
  obtain ⟨⟨m, s⟩, mem, same⟩ := h
  simp only [Prod.mk.injEq] at same
  obtain ⟨rfl, rfl⟩ := same
  exact ⟨s, (List.mergeSort_perm _ _).mem_iff.mp mem, rfl⟩

section Rendered

/-! The rendering of a configuration resolved from string properties: its settings are those
of the schema's keys in order, each resolved from the properties. -/

variable {room : Nat} {props : Props} {cfg : Resolved} (hroom : 0 < room)
  (named : cfg.settings = defaultSchema.keys.map fun k => (k.name, k.settingIn room props))
  (each : ∀ k ∈ defaultSchema.keys, k.resolve room props = .ok (.ok (k.settingIn room props)))
  (supplied : ∀ k ∈ defaultSchema.keys, ∀ v, props.get? k.name = some v → ∃ t, v = .str t)

include named in
theorem rendered_names_perm : (cfg.rendered.map (·.1)).Perm defaultSchema.names := by
  refine (Resolved.names_rendered cfg).trans ?_
  rw [named, List.map_map]
  rfl

include named in
theorem rendered_get?_key {k : Key} (hk : k ∈ defaultSchema.keys) :
    cfg.rendered.get? k.name = some (.str (k.settingIn room props).toValue.propertyText) := by
  have nodup := (rendered_names_perm named).nodup_iff.mpr defaultSchema_nodup_names
  refine Props.get?_of_mem nodup (Resolved.mem_rendered ?_)
  rw [named]
  exact List.mem_map_of_mem hk

include named in
theorem rendered_get?_undeclared {n : String} (h : n ∉ defaultSchema.names) :
    cfg.rendered.get? n = none :=
  Props.get?_eq_none fun mem => h ((rendered_names_perm named).mem_iff.mp mem)

include hroom named each supplied in
theorem settings_citable : ∀ e ∈ cfg.settings, e.2.toValue.citable = true := by
  rw [named]
  intro e mem
  obtain ⟨k, hk, rfl⟩ := List.mem_map.mp mem
  exact (Key.rereads (defaultSchema_rendersBack k hk) hroom (supplied k hk) (each k hk)).1

include hroom named each supplied in
theorem parse_rendered :
    defaultSchema.parse room cfg.rendered =
      .ok (cfg.settings.map fun e => (e.1, e.2.hidden)) := by
  have again : ∀ k ∈ defaultSchema.keys,
      k.resolve room cfg.rendered = .ok (.ok (k.settingIn room props).hidden) :=
    fun k mem => Key.resolve_rendered (defaultSchema_rendersBack k mem) hroom (supplied k mem)
      (each k mem) (rendered_get?_key named mem)
  rw [Schema.parse_eq_ok_iff, resolveAll_of_resolved _ again, named, List.map_map]
  rfl

include hroom named each supplied in
/-- The consumer view accepts the rendering: it holds none of the consumer's settings but
`fetch.min.bytes`, and that one as a 32-bit integer. -/
theorem rendered_consumer_unbroken (room' : Nat) : ¬ ConsumerBroken room' cfg.rendered := by
  refine not_consumerBroken (fun n mem => rendered_get?_undeclared named
    (consumer_names_undeclared n mem)) fun v hv => ?_
  obtain ⟨s, mem, rfl⟩ := Resolved.of_mem_rendered (Props.mem_of_get? hv)
  rw [named] at mem
  obtain ⟨k, hk, same⟩ := List.mem_map.mp mem
  obtain ⟨fetch, rfl⟩ := Prod.mk.inj same
  obtain ⟨i, whole, fits⟩ := Key.resolve_int (defaultSchema_rendersBack k hk) hroom
    (supplied k hk) (fetchMinBytes_kind k hk fetch) (each k hk)
  exact ⟨i, by rw [whole, Setting.propertyText_whole], fits⟩

end Rendered

/-- Resolving string properties with some room and resolving their rendering again agree: the
settings can all be written, the second resolution succeeds, and the published schema reads the
rendering back as the same settings, each secret hidden. -/
theorem resolve_rendered_properties {room : Nat} {props : Props} {cfg : Resolved}
    (strs : ∀ e ∈ props, ∃ t, e.2 = .str t) (hroom : 0 < room)
    (h : resolve room defaultSchema props = .ok cfg) :
    ∃ texts, cfg.properties = .ok texts ∧
      (∃ again, resolve room defaultSchema (textProps texts) = .ok again) ∧
      defaultSchema.parse room (textProps texts) =
        .ok (cfg.settings.map fun e => (e.1, e.2.hidden)) := by
  obtain ⟨settings, hparse, h⟩ := Except.bind_eq_ok_iff.mp h
  obtain ⟨view, -, h⟩ := Except.bind_eq_ok_iff.mp h
  have kept : cfg.settings = settings := by rw [← Except.ok.inj h]
  obtain ⟨each, listed⟩ := resolveAll_accepted (Schema.parse_eq_ok_iff.mp hparse)
  have supplied : ∀ k ∈ defaultSchema.keys, ∀ v, props.get? k.name = some v → ∃ t, v = .str t :=
    fun k _ v hv => strs _ (Props.mem_of_get? hv)
  obtain ⟨texts, written, same⟩ :=
    Resolved.properties_of_citable (settings_citable hroom (kept.trans listed) each supplied)
  have parsed := parse_rendered hroom (kept.trans listed) each supplied
  obtain ⟨view', hview'⟩ := (ofProps_consumerProps (room + 2) cfg.rendered).2
    (firstBreach_eq_none_iff.mpr
      (rendered_consumer_unbroken hroom (kept.trans listed) each supplied (room + 2)))
  refine ⟨texts, written, ?_, by rw [same]; exact parsed⟩
  exact ⟨_, by rw [same, resolve, parsed, Except.ok_bind, hview', Except.ok_bind]; rfl⟩

/-- Listeners with an empty item between two, a password, a signed port with leading zeros
and a flag in capitals come back from their renderings, the password hidden. -/
theorem rendered_listeners_password_and_port_resolve_again :
    ∃ cfg, resolve 10 defaultSchema [("listeners", .str " http://a:8080 , , https://b:8443 "),
        ("ssl.key.password", .str "changeit"), ("port", .str " +0080"),
        ("debug", .str " TRUE ")] = .ok cfg ∧
      ∃ texts, cfg.properties = .ok texts ∧
        (∃ again, resolve 10 defaultSchema (textProps texts) = .ok again) ∧
        defaultSchema.parse 10 (textProps texts) =
          .ok (cfg.settings.map fun e => (e.1, e.2.hidden)) := by
  obtain ⟨cfg, h⟩ : ∃ cfg, resolve 10 defaultSchema [("listeners",
      .str " http://a:8080 , , https://b:8443 "), ("ssl.key.password", .str "changeit"),
      ("port", .str " +0080"), ("debug", .str " TRUE ")] = .ok cfg :=
    ⟨_, by set_option maxRecDepth 20000 in with_unfolding_all rfl⟩
  exact ⟨cfg, h, resolve_rendered_properties (by simp) (by decide) h⟩

end Proxy

end RestConfig

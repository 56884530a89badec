import RestConfig.Proofs.RoundTrip

/-!
# Two readings of a 32-bit integer

The schema reads an int strictly: a text, once its blanks are trimmed, must be an optional
sign and ASCII digits, and an integer value must lie within 32 bits. The legacy consumer
reads a property leniently: Unicode digits, digit groups and only ASCII blanks at the ends.
Every text the strict reading accepts is already in the lenient reading's ASCII form, so
the lenient reading accepts it too and finds the same number.

`fetch.min.bytes` is read both ways: the proxy's accessor takes the setting the schema
read, the consumer view reads the supplied property again. Once resolution succeeds with
the property supplied, the two accessors answer the same number. Left unsupplied, each
answers its own default.

Main statement: `Proxy.fetch_min_bytes_readings_agree`.
-/

namespace RestConfig

open Text Reading

theorem isDigit_of_asciiDigit? {c : Char} {d : Nat} (h : asciiDigit? c = some d) :
    c.isDigit = true ∧ d = c.toNat - 48 := by
  unfold asciiDigit? at h
  split at h
  · rename_i range
    cases h
    have bounds : 48 ≤ c.val ∧ c.val ≤ 57 := range
    exact ⟨by simpa [Char.isDigit] using bounds, rfl⟩
  · cases h

theorem readSign_cases {cs rest : List Char} {neg : Bool} (h : readSign cs = (neg, rest)) :
    cs = rest ∨ cs = '-' :: rest ∨ cs = '+' :: rest := by
  unfold readSign at h
  split at h <;> cases h
  · exact .inr (.inl rfl)
  · exact .inr (.inr rfl)
  · exact .inl rfl

theorem wholeDigits?_shape {cs : List Char} {neg : Bool} {ds : List Nat}
    (h : wholeDigits? cs = some (neg, ds)) :
    ∃ rest, readSign cs = (neg, rest) ∧ (∀ c ∈ rest, c.isDigit = true) ∧
      ds = rest.map (·.toNat - 48) ∧ ds ≠ [] := by
  unfold wholeDigits? at h
  cases sign : readSign cs with
  | mk sign rest =>
  rw [sign] at h
  dsimp only at h
  split at h
  · rename_i full
    cases h
    have each : ∀ c ∈ rest, (asciiDigit? c).isSome :=
      List.filterMap_length_eq_length.mp full.1
    have digit : ∀ c ∈ rest, asciiDigit? c = some (c.toNat - 48) := by
      intro c mem
      obtain ⟨d, hd⟩ := Option.isSome_iff_exists.mp (each c mem)
      rw [hd, (isDigit_of_asciiDigit? hd).2]
    refine ⟨rest, rfl, fun c mem => ?_, ?_, full.2⟩
    · obtain ⟨d, hd⟩ := Option.isSome_iff_exists.mp (each c mem)
      exact (isDigit_of_asciiDigit? hd).1
    · rw [← List.filterMap_eq_map']
      exact List.filterMap_congr digit
  · cases h

theorem ascii_of_isDigit {c : Char} (h : c.isDigit = true) : c.toNat < 128 := by
  simp only [Char.isDigit, Bool.and_eq_true, decide_eq_true_eq] at h
  have : c.toNat ≤ 57 := h.2
  omega

theorem not_asciiBlank_of_not_blank {c : Char} (h : isBlank c = false) :
    asciiBlanks.contains c = false := by
  cases hb : asciiBlanks.contains c with
  | false => rfl
  | true =>
    rw [isBlank_of_asciiBlank hb] at h
    cases h

theorem numeralChars_of_plain {cs : List Char}
    (h : ∀ c ∈ cs, c.toNat < 128 ∧ isBlank c = false) : numeralChars (String.ofList cs) = cs := by
  have ascii : cs.map asciiForm = cs := by
    conv => rhs; rw [← List.map_id cs]
    exact List.map_congr_left fun c mem => by simp [asciiForm, (h c mem).1]
  have kept : ∀ c ∈ cs, asciiBlanks.contains c = false :=
    fun c mem => not_asciiBlank_of_not_blank (h c mem).2
  rw [numeralChars, String.toList_ofList, ascii,
    dropAny_of_head fun c hc => kept c (List.mem_of_mem_head? hc), dropAnyEnd,
    dropAny_of_head fun c hc => kept c (List.mem_reverse.mp (List.mem_of_mem_head? hc)),
    List.reverse_reverse]

theorem readInteger_of_wholeDigits? {cs : List Char} {neg : Bool} {ds : List Nat}
    (h : wholeDigits? cs = some (neg, ds)) (short : ds.length ≤ integerDigitLimit) :
    readInteger (String.ofList cs) = .value (if neg then -(digitsValue ds : Int) else digitsValue ds) := by
  obtain ⟨rest, sign, digits, rfl, ne⟩ := wholeDigits?_shape h
  have plain : ∀ c ∈ cs, c.toNat < 128 ∧ isBlank c = false := by
    intro c mem
    have either : c ∈ rest ∨ c = '-' ∨ c = '+' := by
      rcases readSign_cases sign with rfl | rfl | rfl
      · exact .inl mem
      · rcases List.mem_cons.mp mem with rfl | later
        · exact .inr (.inl rfl)
        · exact .inl later
      · rcases List.mem_cons.mp mem with rfl | later
        · exact .inr (.inr rfl)
        · exact .inl later
    rcases either with digit | rfl | rfl
    · exact ⟨ascii_of_isDigit (digits c digit), isBlank_of_isDigit (digits c digit)⟩
    · decide
    · decide
  have run : digitRun rest [] = (rest.map (·.toNat - 48), []) := by
    rw [digitRun_of_digits digits]
    rfl
  rw [readInteger, numeralChars_of_plain plain, readIntegerChars, sign]
  simp only [run]
  rw [if_neg (Nat.not_lt.mpr short), if_pos List.isEmpty_nil]

theorem Kind.readCitable_int_int (i : Int) :
    Kind.int.readCitable (.int i) = Kind.int.wholeWithin (.int i) i := rfl

theorem Kind.read_int_lenient {room : Nat} {v : Value} {s : Setting}
    (h : Kind.int.read room v = .ok s) :
    ∃ i, s = .whole i ∧ readInteger (trim v.display) = .value i ∧ Proxy.fits32 i = true := by
  replace h := Kind.readCitable_of_read h
  cases v with
  | int i =>
    rw [Kind.readCitable_int_int] at h
    obtain ⟨rfl, bounds⟩ := Kind.wholeWithin_ok h
    simp only [Kind.bounds] at bounds
    have long : -2 ^ 63 ≤ i ∧ i ≤ 2 ^ 63 - 1 := by omega
    refine ⟨i, rfl, ?_, by simpa [Proxy.fits32] using bounds⟩
    have shown : (Value.int i).display = toString i := rfl
    rw [shown, trim_toString, readInteger_toString (length_digitValues_le long)]
  | str t =>
    rw [Kind.read_whole_str (.inl rfl)] at h
    split at h
    · rename_i neg ds found
      split at h
      · cases h
      · rename_i short
        obtain ⟨rfl, bounds⟩ := Kind.wholeWithin_ok h
        simp only [Kind.bounds] at bounds
        refine ⟨_, rfl, ?_, by simpa [Proxy.fits32] using bounds⟩
        have shown : (Value.str t).display = t := rfl
        rw [shown, trim, readInteger_of_wholeDigits? found (Nat.not_lt.mp short)]
    · cases h
  | _ => simp [Kind.readCitable] at h

theorem Kind.textWithin_of_read_int {room room' : Nat} {v : Value} {s : Setting}
    (h : Kind.int.read room v = .ok s) (hroom : 0 < room') : v.textWithin room' = .ok v.display := by
  obtain ⟨r, rfl⟩ := Nat.exists_eq_add_one.mpr hroom
  have cited := Kind.citable_of_read h
  replace h := Kind.readCitable_of_read h
  cases v with
  | int i =>
    have short : i.natAbs.repr.length ≤ integerDigitLimit := by
      simpa [Value.citable] using cited
    simp [Value.textWithin, Value.strFault, Value.reprFault, short]
  | str t => rfl
  | _ => simp [Kind.readCitable] at h

namespace Proxy

theorem leniently_of_read_int {room room' : Nat} {props : Props} {name : String} {d : Int}
    {v : Value} {n : Int} (hv : props.get? name = some v)
    (h : Kind.int.read room v = .ok (.whole n)) (hroom : 0 < room') :
    leniently room' props name d = .ok n := by
  obtain ⟨i, same, read, fits⟩ := Kind.read_int_lenient h
  cases same
  simp [leniently, hv, Kind.textWithin_of_read_int h hroom, read, fits]

theorem ofProps_readings {room : Nat} {props : Props} {view : ConsumerView}
    (h : ConsumerView.ofProps room props = .ok view) :
    leniently room props "socket.timeout.ms" (30 * 1000) = .ok view.socketTimeoutMs ∧
    leniently room props "socket.receive.buffer.bytes" (64 * 1024) =
      .ok view.socketReceiveBufferBytes ∧
    leniently room props "fetch.message.max.bytes" (1024 * 1024) = .ok view.fetchMessageMaxBytes ∧
    leniently room props "fetch.wait.max.ms" 100 = .ok view.fetchWaitMaxMs ∧
    leniently room props "fetch.min.bytes" 1 = .ok view.fetchMinBytes := by
  unfold ConsumerView.ofProps at h
  obtain ⟨z, -, h⟩ := Except.bind_eq_ok_iff.mp h
  obtain ⟨g, -, h⟩ := Except.bind_eq_ok_iff.mp h
  obtain ⟨c, -, h⟩ := Except.bind_eq_ok_iff.mp h
  obtain ⟨t, ht, h⟩ := Except.bind_eq_ok_iff.mp h
  obtain ⟨b, hb, h⟩ := Except.bind_eq_ok_iff.mp h
  obtain ⟨m, hm, h⟩ := Except.bind_eq_ok_iff.mp h
  obtain ⟨w, hw, h⟩ := Except.bind_eq_ok_iff.mp h
  obtain ⟨n, hn, h⟩ := Except.bind_eq_ok_iff.mp h
  obtain ⟨reset, -, h⟩ := Except.bind_eq_ok_iff.mp h
  dsimp only at h
  split at h
  · simp at h
  · obtain ⟨u, -, h⟩ := Except.bind_eq_ok_iff.mp h
    obtain ⟨u', -, h⟩ := Except.bind_eq_ok_iff.mp h
    split at h
    · cases h
      exact ⟨ht, hb, hm, hw, hn⟩
    · simp at h

theorem ofProps_fetchMinBytes {room : Nat} {props : Props} {view : ConsumerView}
    (h : ConsumerView.ofProps room props = .ok view) :
    leniently room props "fetch.min.bytes" 1 = .ok view.fetchMinBytes :=
  (ofProps_readings h).2.2.2.2

theorem leniently_fits32 {room : Nat} {props : Props} {name : String} {d i : Int}
    (hd : fits32 d = true) (h : leniently room props name d = .ok i) : fits32 i = true := by
  unfold leniently at h
  split at h
  · cases h
    exact hd
  · obtain ⟨t, -, h⟩ := Except.bind_eq_ok_iff.mp h
    dsimp only at h
    split at h
    · split at h
      · cases h
        assumption
      · cases h
    · cases h

theorem ConsumerView.derived_fits32 {room : Nat} {props : Props} {view : ConsumerView}
    (h : ConsumerView.ofProps room props = .ok view) : ∀ e ∈ view.derived, fits32 e.2 = true := by
  obtain ⟨ht, hb, hm, hw, hn⟩ := ofProps_readings h
  simp only [ConsumerView.derived, List.mem_cons, List.not_mem_nil, or_false]
  rintro e (rfl | rfl | rfl | rfl | rfl)
  · exact leniently_fits32 (by decide) ht
  · exact leniently_fits32 (by decide) hb
  · exact leniently_fits32 (by decide) hm
  · exact leniently_fits32 (by decide) hw
  · exact leniently_fits32 (by decide) hn

theorem fetchMinBytes_declared : ∃ k ∈ defaultSchema.keys, k.name = "fetch.min.bytes" := by
  decide +kernel

section Resolved

variable {room : Nat} {props : Props}

theorem resolve_eq_ok {s : Schema} {r : Resolved} (h : resolve room s props = .ok r) :
    ∃ settings view, s.parse room props = .ok settings ∧
      ConsumerView.ofProps (room + 2) (consumerProps props) = .ok view ∧
      r = ⟨s, settings, props, view⟩ := by
  obtain ⟨settings, parsed, h⟩ := Except.bind_eq_ok_iff.mp h
  obtain ⟨view, viewed, h⟩ := Except.bind_eq_ok_iff.mp h
  exact ⟨settings, view, parsed, viewed, (Except.ok.inj h).symm⟩

theorem Resolved.get_of_resolve {r : Resolved} {name : String}
    (h : resolve room defaultSchema props = .ok r)
    (declared : ∃ k ∈ defaultSchema.keys, k.name = name) :
    ∃ k ∈ defaultSchema.keys, k.name = name ∧ r.get name = .ok (k.settingIn room props) ∧
      k.resolve room props = .ok (.ok (k.settingIn room props)) := by
  obtain ⟨settings, view, hparse, -, rfl⟩ := resolve_eq_ok h
  obtain ⟨each, listed⟩ := resolveAll_accepted (Schema.parse_eq_ok_iff.mp hparse)
  cases found : defaultSchema.keys.find? (·.name == name) with
  | none =>
    obtain ⟨k, mem, named⟩ := declared
    have := List.find?_eq_none.mp found k mem
    simp [named] at this
  | some k =>
    have mem := List.mem_of_find?_eq_some found
    have named : k.name = name := by simpa using List.find?_some found
    refine ⟨k, mem, named, ?_, each k mem⟩
    have lookup : settings.find? (·.1 == name) = some (k.name, k.settingIn room props) := by
      rw [listed, List.find?_map]
      simp only [Function.comp_def, found, Option.map_some]
    simp [Resolved.get, lookup]

theorem Key.resolved_citable {k : Key} (back : k.RendersBack) {s : Setting}
    (h : k.resolve room props = .ok (.ok s)) : s.toValue.citable = true := by
  obtain ⟨-, chosen⟩ := Key.resolve_judged h
  unfold Key.chosen at chosen
  split at chosen
  · rename_i raw _
    cases read : k.kind.read room raw with
    | error e => simp [read, Except.toOption] at chosen
    | ok s' =>
      simp only [read, Except.toOption, Option.some.injEq] at chosen
      subst chosen
      exact Kind.citable_toValue (Kind.readCitable_of_read read)
  · exact (back.2.2 s chosen).1

theorem Resolved.settings_citable_of_resolve {r : Resolved}
    (h : resolve room defaultSchema props = .ok r) : ∀ e ∈ r.settings, e.2.toValue.citable = true := by
  obtain ⟨settings, view, hparse, -, rfl⟩ := resolve_eq_ok h
  obtain ⟨each, listed⟩ := resolveAll_accepted (Schema.parse_eq_ok_iff.mp hparse)
  intro e mem
  change e ∈ settings at mem
  rw [listed, List.mem_map] at mem
  obtain ⟨k, hk, named⟩ := mem
  rw [← named]
  exact Key.resolved_citable (defaultSchema_rendersBack k hk) (each k hk)

theorem typed_fetchMinBytes {r : Resolved} {v : Value}
    (h : resolve room defaultSchema props = .ok r)
    (supplied : props.get? "fetch.min.bytes" = some v) :
    r.typed "fetch.min.bytes" .whole = .ok (.whole r.consumer.fetchMinBytes) := by
  obtain ⟨k, mem, named, got, resolved⟩ := Resolved.get_of_resolve h fetchMinBytes_declared
  have kind : k.kind = .int := fetchMinBytes_kind k mem named
  obtain ⟨-, chosen⟩ := Key.resolve_judged resolved
  rw [Key.chosen, named, supplied, kind] at chosen
  cases read : Kind.int.read room v with
  | error e => simp [read, Except.toOption] at chosen
  | ok s =>
    simp only [read, Except.toOption, Option.some.injEq] at chosen
    obtain ⟨i, rfl, -, -⟩ := Kind.read_int_lenient read
    obtain ⟨settings, view, -, hview, rfl⟩ := resolve_eq_ok h
    have lenient := ofProps_fetchMinBytes hview
    rw [leniently_consumerProps (by decide) (by decide),
      leniently_of_read_int supplied read (Nat.succ_pos _)] at lenient
    cases lenient
    simp [Resolved.typed, got, ← chosen, Shape.holds]

end Resolved

/-- The schema's int reading and the consumer view's lenient reading, each with some room,
agree on every value the first accepts; so once resolution succeeds with `fetch.min.bytes`
supplied, the proxy's accessor for it and the consumer view's accessor answer the same. -/
theorem fetch_min_bytes_readings_agree :
    (∀ (room room' : Nat) (props : Props) (name : String) (d : Int) (v : Value) (n : Int),
      props.get? name = some v → Kind.int.read room v = .ok (.whole n) → 0 < room' →
      leniently room' props name d = .ok n) ∧
    (∀ (room : Nat) (props : Props) (r : Resolved) (v : Value),
      resolve room defaultSchema props = .ok r → props.get? "fetch.min.bytes" = some v →
      r.accessors.lookup "proxy_fetch_min_bytes" = r.accessors.lookup "fetch_min_bytes") := by
  refine ⟨fun room room' props name d v n hv h hroom => leniently_of_read_int hv h hroom,
    fun room props r v h supplied => ?_⟩
  have proxy : r.accessors.lookup "proxy_fetch_min_bytes" =
      some ((r.typed "fetch.min.bytes" .whole).map Setting.toValue) := rfl
  have consumer : r.accessors.lookup "fetch_min_bytes" = some (.ok (.int r.consumer.fetchMinBytes)) :=
    rfl
  rw [proxy, consumer, typed_fetchMinBytes h supplied]
  rfl

/-- A signed, zero-padded `fetch.min.bytes` between blanks: both readings find 42, and the
two accessors of the resolved configuration agree. -/
theorem padded_fetch_min_bytes_read_alike :
    (Props.get? [("fetch.min.bytes", .str " +0042 ")] "fetch.min.bytes" = some (.str " +0042 ") ∧
      Kind.int.read 10 (.str " +0042 ") = .ok (.whole 42) ∧ 0 < 12 ∧
      leniently 12 [("fetch.min.bytes", .str " +0042 ")] "fetch.min.bytes" 1 = .ok 42) ∧
    ∃ r, resolve 10 defaultSchema [("fetch.min.bytes", .str " +0042 ")] = .ok r ∧
      Props.get? [("fetch.min.bytes", .str " +0042 ")] "fetch.min.bytes" = some (.str " +0042 ") ∧
      r.accessors.lookup "proxy_fetch_min_bytes" = r.accessors.lookup "fetch_min_bytes" := by
  have supplied : Props.get? [("fetch.min.bytes", .str " +0042 ")] "fetch.min.bytes" =
      some (.str " +0042 ") := rfl
  have read : Kind.int.read 10 (.str " +0042 ") = .ok (.whole 42) := rfl
  obtain ⟨r, h⟩ : ∃ r, resolve 10 defaultSchema [("fetch.min.bytes", .str " +0042 ")] = .ok r :=
    ⟨_, by set_option maxRecDepth 20000 in with_unfolding_all rfl⟩
  exact ⟨⟨supplied, read, by decide,
      fetch_min_bytes_readings_agree.1 _ _ _ _ _ _ _ supplied read (by decide)⟩,
    r, h, supplied, fetch_min_bytes_readings_agree.2 _ _ _ _ h supplied⟩

end Proxy

end RestConfig

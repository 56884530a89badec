import Mathlib
import RestConfig.Proofs.Resolution
import RestConfig.Proofs.WholeNumbers

/-!
# When the legacy consumer view is built

The consumer view reads nine properties with three readers, each writing the supplied value as
text first, with the room the view's readers have: the two required ids as they are supplied,
two texts with defaults (the client id defaults to the group id, the reset policy to
`largest`), and five numeric settings read leniently as 32-bit integers, each with its default.
It then checks, in order, that the fetch wait does not exceed the socket timeout, that both ids
hold only ASCII letters, digits, `.`, `_` and `-`, and that the reset policy is `smallest` or
`largest`.

So the view is built exactly when the required ids are present, every value it reads can be
written as text, every numeric setting is absent or an integer of 32 bits, the fetch wait is
within the socket timeout, both ids are legal and the reset policy is known; and every view
built keeps these as invariants of its fields.

Main statement: `Proxy.ConsumerView.ofProps_iff_rules`.
-/

namespace RestConfig.Proxy

open Text

/-- A character an id may hold: an ASCII letter or digit, `.`, `_` or `-`. -/
def IdChar (c : Char) : Prop :=
  'a' ≤ c ∧ c ≤ 'z' ∨ 'A' ≤ c ∧ c ≤ 'Z' ∨ '0' ≤ c ∧ c ≤ '9' ∨ c = '.' ∨ c = '_' ∨ c = '-'

/-- A text made of id characters only, the empty text included. -/
def IdText (s : String) : Prop := ∀ c ∈ s.toList, IdChar c

theorem idChar_iff (c : Char) :
    (c.isAlphanum && decide (c.toNat < 128) || decide (c = '.') || decide (c = '_') ||
      decide (c = '-')) = true ↔ IdChar c := by
  have eq_iff : ∀ d : Char, c = d ↔ c.toNat = d.toNat :=
    fun d => ⟨congrArg Char.toNat, Char.ext ∘ UInt32.toNat_inj.mp⟩
  have le_iff : ∀ a b : Char, a ≤ b ↔ a.toNat ≤ b.toNat :=
    fun a b => Char.le_def.trans UInt32.le_iff_toNat_le
  have val : c.val.toNat = c.toNat := rfl
  simp only [Char.isAlphanum, Char.isAlpha, Char.isUpper, Char.isLower, Char.isDigit, IdChar,
    le_iff, Bool.or_eq_true, Bool.and_eq_true, decide_eq_true_eq, eq_iff, ge_iff_le,
    UInt32.le_iff_toNat_le, val]
  simp
  omega

theorem legalId_iff {s : String} : legalId s = true ↔ IdText s := by
  simp only [legalId, List.all_eq_true, IdText, idChar_iff]

/-- A supplied value written as text with a room: it can be written, and its text is its
display. -/
def WrittenAs (room : Nat) (v : Value) (t : String) : Prop := v.strFault room = none ∧ t = v.display

/-- A text property as the consumer view reads it with a room: the default when it is absent,
otherwise the supplied value written as text. -/
def WrittenOr (room : Nat) (props : Props) (name default t : String) : Prop :=
  props.get? name = none ∧ t = default ∨ ∃ v, props.get? name = some v ∧ WrittenAs room v t

/-- A numeric property as the consumer view reads it with a room: the default when it is
absent; otherwise the integer its trimmed text writes, which must fit 32 bits. -/
def Reads32 (room : Nat) (props : Props) (name : String) (default i : Int) : Prop :=
  props.get? name = none ∧ i = default ∨
    ∃ v, props.get? name = some v ∧ v.strFault room = none ∧
      Reading.readInteger (trim v.display) = .value i ∧ Kind.int.InRange i

theorem fits32_iff {i : Int} : fits32 i = true ↔ Kind.int.InRange i := by
  simp only [fits32, decide_eq_true_eq, Kind.InRange]
  omega

section Readers

variable {room : Nat} {props : Props}

theorem textWithin_eq_ok_iff {v : Value} {t : String} : v.textWithin room = .ok t ↔ WrittenAs room v t :=
  Value.textWithin_eq_ok_iff

theorem leniently_eq_ok_iff {name : String} {d i : Int} :
    leniently room props name d = .ok i ↔ Reads32 room props name d i := by
  unfold leniently Reads32
  cases hv : props.get? name with
  | none => simp [eq_comm]
  | some v =>
    simp only [reduceCtorEq, false_and, Option.some.injEq, exists_eq_left', false_or]
    cases hw : v.textWithin room with
    | error f =>
      have fault : v.strFault room ≠ none := fun none =>
        by simp [Value.textWithin, none] at hw
      simp [bind, Except.bind, fault]
    | ok t =>
      obtain ⟨written, rfl⟩ := Value.textWithin_eq_ok_iff.mp hw
      simp only [bind, Except.bind, written, true_and]
      cases hr : Reading.readInteger (trim v.display) with
      | value j =>
        cases hf : fits32 j
        · simp only [hf, Bool.false_eq_true, if_false, reduceCtorEq,
            Reading.IntegerReading.value.injEq, false_iff, not_and]
          rintro rfl within
          rw [fits32_iff.mpr within] at hf
          cases hf
        · simp only [hf, if_true, Except.ok.injEq, Reading.IntegerReading.value.injEq]
          constructor
          · rintro rfl
            exact ⟨rfl, fits32_iff.mp hf⟩
          · rintro ⟨rfl, -⟩
            rfl
      | malformed => simp
      | tooLong n => simp

theorem Reads32.unique {name : String} {d i j : Int}
    (hi : Reads32 room props name d i) (hj : Reads32 room props name d j) : i = j := by
  rw [← leniently_eq_ok_iff] at hi hj
  rw [hi] at hj
  exact Except.ok.inj hj

theorem Reads32.inRange {name : String} {d i : Int} (h : Reads32 room props name d i)
    (hd : Kind.int.InRange d) : Kind.int.InRange i := by
  rcases h with ⟨-, rfl⟩ | ⟨-, -, -, -, within⟩
  · exact hd
  · exact within

theorem requireText_eq_ok_iff {name t : String} :
    requireText room props name = .ok t ↔ ∃ v, props.get? name = some v ∧ WrittenAs room v t := by
  unfold requireText
  cases props.get? name <;> simp [textWithin_eq_ok_iff]

theorem textOr_eq_ok_iff {name d t : String} :
    textOr room props name d = .ok t ↔ WrittenOr room props name d t := by
  unfold textOr WrittenOr
  cases props.get? name with
  | none => simp [eq_comm]
  | some v => simp [textWithin_eq_ok_iff]

theorem numeric_inRange {t b m w f : Int}
    (ht : Reads32 room props "socket.timeout.ms" 30000 t)
    (hb : Reads32 room props "socket.receive.buffer.bytes" 65536 b)
    (hm : Reads32 room props "fetch.message.max.bytes" 1048576 m)
    (hw : Reads32 room props "fetch.wait.max.ms" 100 w)
    (hf : Reads32 room props "fetch.min.bytes" 1 f) :
    ∀ i ∈ [t, b, m, w, f], Kind.int.InRange i := by
  simp only [List.mem_cons, List.not_mem_nil, or_false]
  rintro i (rfl | rfl | rfl | rfl | rfl)
  · exact ht.inRange (by norm_num [Kind.InRange])
  · exact hb.inRange (by norm_num [Kind.InRange])
  · exact hm.inRange (by norm_num [Kind.InRange])
  · exact hw.inRange (by norm_num [Kind.InRange])
  · exact hf.inRange (by norm_num [Kind.InRange])

end Readers

/-- The view a property map describes with a room: the required ids as supplied and written,
the client id defaulting to the group id, each numeric setting read with its default, and the
reset policy defaulting to `largest`. -/
structure ConsumerView.ReadFrom (c : ConsumerView) (room : Nat) (props : Props) : Prop where
  zookeeper : ∃ v, props.get? "zookeeper.connect" = some v ∧ WrittenAs room v c.zookeeperConnect
  group : ∃ v, props.get? "group.id" = some v ∧ WrittenAs room v c.groupId
  client : WrittenOr room props "client.id" c.groupId c.clientId
  socketTimeout : Reads32 room props "socket.timeout.ms" 30000 c.socketTimeoutMs
  receiveBuffer : Reads32 room props "socket.receive.buffer.bytes" 65536 c.socketReceiveBufferBytes
  messageMax : Reads32 room props "fetch.message.max.bytes" 1048576 c.fetchMessageMaxBytes
  fetchWait : Reads32 room props "fetch.wait.max.ms" 100 c.fetchWaitMaxMs
  fetchMin : Reads32 room props "fetch.min.bytes" 1 c.fetchMinBytes
  reset : WrittenOr room props "auto.offset.reset" "largest" c.autoOffsetReset

/-- What every consumer view keeps: the fetch wait within the socket timeout, every numeric
setting within 32 bits, ids of id characters only and a known reset policy. -/
structure ConsumerView.Legal (c : ConsumerView) : Prop where
  waitWithinTimeout : c.fetchWaitMaxMs ≤ c.socketTimeoutMs
  numeric : ∀ i ∈ [c.socketTimeoutMs, c.socketReceiveBufferBytes, c.fetchMessageMaxBytes,
    c.fetchWaitMaxMs, c.fetchMinBytes], Kind.int.InRange i
  groupLegal : IdText c.groupId
  clientLegal : IdText c.clientId
  resetKnown : c.autoOffsetReset = "smallest" ∨ c.autoOffsetReset = "largest"

theorem ConsumerView.ofProps_eq_ok_iff {room : Nat} {props : Props} {c : ConsumerView} :
    ConsumerView.ofProps room props = .ok c ↔ c.ReadFrom room props ∧ c.Legal := by
  constructor
  · intro h
    unfold ConsumerView.ofProps at h
    obtain ⟨z, hz, h⟩ := Except.bind_eq_ok_iff.mp h
    obtain ⟨g, hg, h⟩ := Except.bind_eq_ok_iff.mp h
    obtain ⟨cl, hcl, h⟩ := Except.bind_eq_ok_iff.mp h
    obtain ⟨t, ht, h⟩ := Except.bind_eq_ok_iff.mp h
    obtain ⟨b, hb, h⟩ := Except.bind_eq_ok_iff.mp h
    obtain ⟨m, hm, h⟩ := Except.bind_eq_ok_iff.mp h
    obtain ⟨w, hw, h⟩ := Except.bind_eq_ok_iff.mp h
    obtain ⟨f, hf, h⟩ := Except.bind_eq_ok_iff.mp h
    obtain ⟨r, hr, h⟩ := Except.bind_eq_ok_iff.mp h
    dsimp only at h
    split at h
    · simp at h
    rename_i within
    obtain ⟨_, hgroup, h⟩ := Except.bind_eq_ok_iff.mp h
    obtain ⟨_, hclient, h⟩ := Except.bind_eq_ok_iff.mp h
    split at h
    · rename_i known
      cases h
      have numeric := numeric_inRange (leniently_eq_ok_iff.mp ht) (leniently_eq_ok_iff.mp hb)
        (leniently_eq_ok_iff.mp hm) (leniently_eq_ok_iff.mp hw) (leniently_eq_ok_iff.mp hf)
      exact ⟨⟨requireText_eq_ok_iff.mp hz, requireText_eq_ok_iff.mp hg,
        textOr_eq_ok_iff.mp hcl, leniently_eq_ok_iff.mp ht, leniently_eq_ok_iff.mp hb,
        leniently_eq_ok_iff.mp hm, leniently_eq_ok_iff.mp hw, leniently_eq_ok_iff.mp hf,
        textOr_eq_ok_iff.mp hr⟩,
        ⟨not_lt.mp within, numeric, legalId_iff.mp (checkId_eq_ok_iff.mp hgroup),
          legalId_iff.mp (checkId_eq_ok_iff.mp hclient), known⟩⟩
    · simp at h
  · rintro ⟨read, legal⟩
    obtain ⟨zookeeper, group, client, t, b, m, w, f, reset⟩ := read
    have hgroup : checkId "group.id" c.groupId = .ok () :=
      checkId_eq_ok_iff.mpr (legalId_iff.mpr legal.groupLegal)
    have hclientOk : checkId "client.id" c.clientId = .ok () :=
      checkId_eq_ok_iff.mpr (legalId_iff.mpr legal.clientLegal)
    -- three of the readings' defaults are written as products
    have ht : leniently room props "socket.timeout.ms" (30 * 1000) = .ok c.socketTimeoutMs :=
      leniently_eq_ok_iff.mpr t
    have hb : leniently room props "socket.receive.buffer.bytes" (64 * 1024) =
      .ok c.socketReceiveBufferBytes := leniently_eq_ok_iff.mpr b
    have hm : leniently room props "fetch.message.max.bytes" (1024 * 1024) =
      .ok c.fetchMessageMaxBytes := leniently_eq_ok_iff.mpr m
    unfold ConsumerView.ofProps
    simp only [requireText_eq_ok_iff.mpr zookeeper, requireText_eq_ok_iff.mpr group,
      textOr_eq_ok_iff.mpr client, ht, hb, hm, leniently_eq_ok_iff.mpr w,
      leniently_eq_ok_iff.mpr f, textOr_eq_ok_iff.mpr reset, Except.ok_bind,
      if_neg (not_lt.mpr legal.waitWithinTimeout), hgroup, hclientOk, if_pos legal.resetKnown]
    rfl

/-- The conditions on a property map under which the consumer view is built with a room: both
required ids are supplied and can be written as text; the group id, and the client id that
defaults to it, can be written and are of id characters only; every numeric setting is absent
or can be written as an integer of 32 bits; the fetch wait read is within the socket timeout
read; and the reset policy, `largest` by default, can be written and is `smallest` or
`largest`. -/
def ConsumerAccepts (room : Nat) (props : Props) : Prop :=
  (∃ v t, props.get? "zookeeper.connect" = some v ∧ WrittenAs room v t) ∧
  (∃ g gt, props.get? "group.id" = some g ∧ WrittenAs room g gt ∧ IdText gt ∧
    ∃ ct, WrittenOr room props "client.id" gt ct ∧ IdText ct) ∧
  (∀ e ∈ numericSettings, ∃ i, Reads32 room props e.1 e.2 i) ∧
  (∀ w t, Reads32 room props "fetch.wait.max.ms" 100 w →
    Reads32 room props "socket.timeout.ms" 30000 t → w ≤ t) ∧
  (∃ r, WrittenOr room props "auto.offset.reset" "largest" r ∧ (r = "smallest" ∨ r = "largest"))

theorem exists_readFrom_legal_iff {room : Nat} {props : Props} :
    (∃ c : ConsumerView, c.ReadFrom room props ∧ c.Legal) ↔ ConsumerAccepts room props := by
  constructor
  · rintro ⟨c, read, legal⟩
    obtain ⟨z, hz, zw⟩ := read.zookeeper
    obtain ⟨g, hg, gw⟩ := read.group
    refine ⟨⟨z, _, hz, zw⟩, ⟨g, _, hg, gw, legal.groupLegal, _, read.client, legal.clientLegal⟩,
      ?_, ?_, ⟨_, read.reset, legal.resetKnown⟩⟩
    · simp only [numericSettings, List.mem_cons, List.not_mem_nil, or_false]
      rintro e (rfl | rfl | rfl | rfl | rfl)
      exacts [⟨_, read.socketTimeout⟩, ⟨_, read.receiveBuffer⟩, ⟨_, read.messageMax⟩,
        ⟨_, read.fetchWait⟩, ⟨_, read.fetchMin⟩]
    · intro w t hw ht
      rw [hw.unique read.fetchWait, ht.unique read.socketTimeout]
      exact legal.waitWithinTimeout
  · rintro ⟨⟨z, zt, hz, zw⟩, ⟨g, gt, hg, gw, groupLegal, ct, client, clientLegal⟩, numeric, wait,
      ⟨r, reset, known⟩⟩
    obtain ⟨t, ht⟩ := numeric ("socket.timeout.ms", 30 * 1000) (by simp [numericSettings])
    obtain ⟨b, hb⟩ := numeric ("socket.receive.buffer.bytes", 64 * 1024) (by simp [numericSettings])
    obtain ⟨m, hm⟩ := numeric ("fetch.message.max.bytes", 1024 * 1024) (by simp [numericSettings])
    obtain ⟨w, hw⟩ := numeric ("fetch.wait.max.ms", 100) (by simp [numericSettings])
    obtain ⟨f, hf⟩ := numeric ("fetch.min.bytes", 1) (by simp [numericSettings])
    exact ⟨⟨zt, gt, ct, r, t, b, m, w, f⟩,
      ⟨⟨z, hz, zw⟩, ⟨g, hg, gw⟩, client, ht, hb, hm, hw, hf, reset⟩,
      ⟨wait w t hw ht, numeric_inRange ht hb hm hw hf, groupLegal, clientLegal, known⟩⟩

/-- The legacy consumer view of a property map, its readers writing values with a room, is
built exactly when both required ids are supplied, every value it reads can be written as
text, every numeric setting is absent or an integer of 32 bits once trimmed, the fetch wait is
within the socket timeout, the group id and the client id (the group id unless supplied) hold
only ASCII letters, digits, `.`, `_` and `-`, and the reset policy (`largest` unless supplied)
is `smallest` or `largest`. A view built is the one the map describes, each absent numeric
setting at its default, and keeps all these rules as invariants of its fields. -/
theorem ConsumerView.ofProps_iff_rules (room : Nat) (props : Props) :
    ((∃ c, ConsumerView.ofProps room props = .ok c) ↔ ConsumerAccepts room props) ∧
    ∀ c, ConsumerView.ofProps room props = .ok c ↔ c.ReadFrom room props ∧ c.Legal := by
  refine ⟨?_, fun c => ConsumerView.ofProps_eq_ok_iff⟩
  simp only [ConsumerView.ofProps_eq_ok_iff]
  exact exists_readFrom_legal_iff

/-- A ZooKeeper address given as an integer of 4301 digits: both ids are supplied, the group id
is legal and every other setting takes its default, yet the view is refused, since the address
cannot be written as text. -/
theorem unwritable_zookeeper_refused :
    let huge : Value := .int ((10 ^ 4300 : Nat) : Int)
    Props.get? [("zookeeper.connect", huge), ("group.id", .str "g")] "zookeeper.connect" =
        some huge ∧
      Props.get? [("zookeeper.connect", huge), ("group.id", .str "g")] "group.id" =
        some (.str "g") ∧
      ConsumerView.ofProps 10 [("zookeeper.connect", huge), ("group.id", .str "g")] =
        .error writeLimitFailure := by
  intro huge
  have long : huge.citable = false := Value.int_pow_limit_not_citable
  have unwritable : huge.textWithin 10 = .error writeLimitFailure := by
    rw [Value.textWithin_int, Value.toText_of_not_citable long]
  clear_value huge
  have zookeeper : Props.get? [("zookeeper.connect", huge), ("group.id", .str "g")]
      "zookeeper.connect" = some huge := rfl
  refine ⟨zookeeper, rfl, ?_⟩
  simp only [ConsumerView.ofProps, requireText, zookeeper, unwritable]
  rfl

end RestConfig.Proxy

import Mathlib
import RestConfig.Proofs.JsonRoundTrip
import RestConfig.Proofs.RedactedValues
import RestConfig.Log.Record

/-!
# JSON log lines

Normalizing gives a value a strict JSON reader accepts: finite numbers, text keys with
distinct displays. Normalizing a strict value changes nothing, so normalizing twice is
normalizing once, and redaction keeps a value strict. The JSON line is refused when a text
it needs cannot be written (`Log.Record.Writable`). Otherwise the JSON line of a record whose
name and level name are strict holds no control character and reads back as its event, keys
sorted (`Log.Record.jsonLine_reads_back`). It may still be cut into lines, at U+0085, U+2028
or U+2029, which JSON strings carry unescaped, and a logger named by a non-finite number
makes it unreadable (`Log.Record.jsonLine_splits_or_refused`).
-/

namespace RestConfig.Redact

open RestConfig.Json (Strict)

theorem normalizeItems_eq_map (items : List Value) : normalizeItems items = items.map normalize := by
  induction items with
  | nil => rfl
  | cons v rest ih => rw [normalizeItems, ih, List.map_cons]

theorem normalizeEntries_of_nodup {entries : List (Value × Value)}
    (distinct : (entries.map (·.1.display)).Nodup) :
    normalizeEntries entries = entries.map fun e => (.str e.1.display, normalize e.2) := by
  induction entries with
  | nil => rfl
  | cons e rest ih =>
    rcases e with ⟨k, v⟩
    obtain ⟨fresh, distinct⟩ := List.nodup_cons.mp distinct
    have unseen : (rest.map fun e => (Value.str e.1.display, normalize e.2)).find?
        (fun d => d.1.display == k.display) = none := by
      rw [List.find?_eq_none]
      intro d mem same
      obtain ⟨d, inRest, rfl⟩ := List.mem_map.mp mem
      have named : d.1.display = k.display := by simpa [Value.display] using same
      apply fresh
      show k.display ∈ rest.map (·.1.display)
      rw [← named]
      exact List.mem_map_of_mem inRest
    simp only [normalizeEntries, ih distinct, unseen, List.map_cons]

mutual
theorem normalize_strict : ∀ v : Value, Strict (normalize v)
  | .none => .none
  | .bool b => .bool b
  | .int i => .int i
  | .str s => .str s
  | .float x => by
    simp only [normalize]
    split
    · exact .float ‹_›
    · exact .str _
  | .map entries => by
    obtain ⟨keys, distinct, each⟩ := normalizeEntries_strict entries
    exact .map keys distinct each
  | .list items => .list (normalizeItems_strict items)
  | .tuple items => .list (normalizeItems_strict items)
  | .password _ | .required | .bytes _ | .set _ | .date _ | .time _ | .datetime _ _ => .str _

theorem normalizeItems_strict : ∀ items : List Value, ∀ v ∈ normalizeItems items, Strict v
  | [] => by simp [normalizeItems]
  | v :: rest => by
    intro w mem
    rw [normalizeItems, List.mem_cons] at mem
    rcases mem with rfl | later
    · exact normalize_strict v
    · exact normalizeItems_strict rest w later

theorem normalizeEntries_strict : ∀ entries : List (Value × Value),
    (∀ e ∈ normalizeEntries entries, ∃ k, e.1 = .str k) ∧
      ((normalizeEntries entries).map (·.1.display)).Nodup ∧
      ∀ e ∈ normalizeEntries entries, Strict e.2
  | [] => by simp [normalizeEntries]
  | (k, v) :: rest => by
    obtain ⟨keys, distinct, each⟩ := normalizeEntries_strict rest
    rw [normalizeEntries]
    split
    · rename_i e found
      have inLater := List.mem_of_find?_eq_some found
      have kept : ∀ d ∈ (normalizeEntries rest).filter (fun d => d.1.display != k.display),
          d ∈ normalizeEntries rest ∧ d.1.display ≠ k.display := by
        intro d mem
        simpa using List.mem_filter.mp mem
      refine ⟨?_, ?_, ?_⟩
      · intro d mem
        rcases List.mem_cons.mp mem with rfl | other
        · exact ⟨_, rfl⟩
        · exact keys d (kept d other).1
      · refine List.nodup_cons.mpr ⟨?_, distinct.sublist ((List.filter_sublist).map _)⟩
        intro mem
        obtain ⟨d, other, same⟩ := List.mem_map.mp mem
        exact (kept d other).2 (by simpa [Value.display] using same)
      · intro d mem
        rcases List.mem_cons.mp mem with rfl | other
        · exact each e inLater
        · exact each d (kept d other).1
    · rename_i unseen
      refine ⟨?_, ?_, ?_⟩
      · intro d mem
        rcases List.mem_cons.mp mem with rfl | other
        · exact ⟨_, rfl⟩
        · exact keys d other
      · refine List.nodup_cons.mpr ⟨?_, distinct⟩
        intro mem
        obtain ⟨d, other, same⟩ := List.mem_map.mp mem
        exact List.find?_eq_none.mp unseen d other (by simpa [Value.display] using same)
      · intro d mem
        rcases List.mem_cons.mp mem with rfl | other
        · exact normalize_strict v
        · exact each d other
end

theorem normalize_of_strict {v : Value} (strict : Strict v) : normalize v = v := by
  induction strict with
  | none | bool | int | str => rfl
  | float finite => simp [normalize, finite]
  | list each ih =>
    simp only [normalize, normalizeItems_eq_map, List.map_congr_left ih, List.map_id']
  | map keys distinct each ih =>
    rename_i entries
    simp only [normalize, normalizeEntries_of_nodup distinct]
    congr 1
    conv_rhs => rw [← List.map_id entries]
    apply List.map_congr_left
    intro e mem
    obtain ⟨k, key⟩ := keys e mem
    rw [ih e mem, key]
    rcases e with ⟨_, _⟩
    simp_all [Value.display]

theorem normalize_normalize (v : Value) : normalize (normalize v) = normalize v :=
  normalize_of_strict (normalize_strict v)

theorem redact_strict {v : Value} (strict : Strict v) : Strict (redact v) := by
  induction strict with
  | none => exact .none
  | bool b => exact .bool b
  | int i => exact .int i
  | str s => exact .str _
  | float finite => exact .float finite
  | list each ih =>
    rw [redact, redactItems_eq_map]
    refine .list fun w mem => ?_
    obtain ⟨u, inItems, rfl⟩ := List.mem_map.mp mem
    exact ih u inItems
  | map keys distinct each ih =>
    rw [redact, redactEntries_eq_map]
    refine .map (fun e mem => ?_) (by simpa [List.map_map, Function.comp_def] using distinct)
      (fun e mem => ?_)
    · obtain ⟨d, inEntries, rfl⟩ := List.mem_map.mp mem
      exact keys d inEntries
    · obtain ⟨d, inEntries, rfl⟩ := List.mem_map.mp mem
      dsimp only
      split
      · exact .str _
      · exact ih d inEntries

end RestConfig.Redact

namespace RestConfig.Log

open Json (Strict)

/-- Of the characters at which a text is cut into lines, only the next-line, line separator
and paragraph separator characters lie at U+0020 or above. -/
theorem lineBreak_of_printable {c : Char} (printable : 0x20 ≤ c.toNat)
    (breaks : Text.isLineBreak c = true) :
    c.toNat = 0x85 ∨ c.toNat = 0x2028 ∨ c.toNat = 0x2029 := by
  simp only [Text.isLineBreak, Bool.or_eq_true, Bool.and_eq_true, decide_eq_true_eq,
    beq_iff_eq] at breaks
  omega

namespace Record

/-- Whether a record's JSON line can be written: the keys of its extra attributes, and those
of their values that have no JSON form, can be written as text, and its name, its level name
and its redacted fields hold no integer too long to write. -/
def Writable (r : Record) : Prop :=
  Redact.normalizable (.map (r.fields.map fun (k, v) => (.str k, v))) = true ∧
    r.name.citable = true ∧ r.levelName.citable = true ∧ r.fieldsValue.citable = true

theorem fieldsValue_citable_of_isEmpty {r : Record} (empty : r.fields.isEmpty = true) :
    r.fieldsValue.citable = true := by
  rw [List.isEmpty_iff] at empty
  simp [fieldsValue, empty, Redact.normalize, Redact.normalizeEntries, Redact.redact,
    Redact.redactEntries, Value.citable, Value.citableEntries]

theorem event_citable_iff (r : Record) (stamp message : String) :
    (Value.map ((r.event stamp message).map fun (k, v) => (.str k, v))).citable = true ↔
      r.name.citable = true ∧ r.levelName.citable = true ∧ r.fieldsValue.citable = true := by
  unfold Record.event
  rcases r.exception with _ | text <;> by_cases empty : r.fields.isEmpty
  all_goals
    simp only [empty, fieldsValue_citable_of_isEmpty, if_true, if_false, Bool.false_eq_true,
      List.map_cons, List.map_nil, List.cons_append, List.nil_append,
      Value.citable, Value.citableEntries, Bool.and_eq_true, Bool.and_true, true_and, and_true]
    tauto

theorem jsonLine_eq {r : Record} {stamp message : String}
    (timed : Instant.isoOfValue r.created = .ok stamp) (formats : r.message = .ok message)
    (writable : r.Writable) :
    r.jsonLine = .ok (Json.compact (.map ((r.event stamp message).map fun (k, v) => (.str k, v)))) := by
  obtain ⟨normal, named, labelled, fielded⟩ := writable
  have cited := (event_citable_iff r stamp message).mpr ⟨named, labelled, fielded⟩
  simp [Record.jsonLine, timed, formats, normal, Json.write, cited, Json.compact]

theorem jsonLine_of_not_writable {r : Record} {stamp message : String}
    (timed : Instant.isoOfValue r.created = .ok stamp) (formats : r.message = .ok message)
    (unwritable : ¬ r.Writable) : r.jsonLine = .error writeLimitFailure := by
  by_cases normal : Redact.normalizable (.map (r.fields.map fun (k, v) => (.str k, v))) = true
  · have uncited : (Value.map ((r.event stamp message).map fun (k, v) => (.str k, v))).citable =
        false := by
      rw [Bool.eq_false_iff, ne_eq, event_citable_iff]
      exact fun cited => unwritable ⟨normal, cited⟩
    simp [Record.jsonLine, timed, formats, normal, Json.write, uncited]
  · simp [Record.jsonLine, timed, formats, normal]

theorem event_values {r : Record} {stamp message : String} {e : String × Value}
    (mem : e ∈ r.event stamp message) :
    e.2 = r.levelName ∨ e.2 = r.name ∨ e.2 = r.fieldsValue ∨ ∃ s, e.2 = .str s := by
  unfold Record.event at mem
  cases exception : r.exception <;> by_cases empty : r.fields.isEmpty <;>
    simp [exception, empty] at mem <;> rcases mem with rfl | rfl | rfl | rfl | rfl | rfl <;> simp

theorem event_strict {r : Record} (named : Strict r.name) (labelled : Strict r.levelName)
    (stamp message : String) :
    Strict (.map ((r.event stamp message).map fun (k, v) => (.str k, v))) := by
  refine .map (fun e mem => ?_) ?_ (fun e mem => ?_)
  · obtain ⟨⟨k, v⟩, -, rfl⟩ := List.mem_map.mp mem
    exact ⟨k, rfl⟩
  · unfold Record.event
    rcases r.exception with _ | text <;> by_cases empty : r.fields.isEmpty <;>
      simp [empty, Value.display]
  · obtain ⟨⟨k, v⟩, inEvent, rfl⟩ := List.mem_map.mp mem
    rcases event_values inEvent with same | same | same | ⟨s, same⟩ <;> dsimp only at same ⊢ <;>
      rw [same]
    · exact labelled
    · exact named
    · exact Redact.redact_strict (Redact.normalize_strict _)
    · exact .str s

theorem mergeSort_event (r : Record) (stamp message : String) :
    ((r.event stamp message).map fun (k, v) => (Value.str k, v)).mergeSort Json.keyOrder =
      r.exception.toList.map (fun text => (.str "exception", .str (Redact.redactText text))) ++
        (if r.fields.isEmpty then [] else [(.str "fields", r.fieldsValue)]) ++
        [(.str "level", r.levelName), (.str "logger", r.name),
         (.str "message", .str (Redact.redactText message)), (.str "timestamp", .str stamp)] := by
  unfold Record.event
  rcases r.exception with _ | text <;> by_cases empty : r.fields.isEmpty <;>
    simp [empty, List.mergeSort, Json.keyOrder, Value.display]

theorem sortKeys_event (r : Record) (stamp message : String) :
    Json.sortKeys (.map ((r.event stamp message).map fun (k, v) => (.str k, v))) =
      .map (r.exception.toList.map (fun text => (.str "exception", .str (Redact.redactText text))) ++
        (if r.fields.isEmpty then [] else [(.str "fields", Json.sortKeys r.fieldsValue)]) ++
        [(.str "level", Json.sortKeys r.levelName), (.str "logger", Json.sortKeys r.name),
         (.str "message", .str (Redact.redactText message)), (.str "timestamp", .str stamp)]) := by
  rw [Json.sortKeys_map, mergeSort_event]
  rcases r.exception with _ | text <;> by_cases empty : r.fields.isEmpty <;>
    simp [empty, Json.sortKeys]

/-- The JSON line of a record whose name and level name are strict JSON values, whose
message formats and whose creation time has a timestamp. When the record is writable, the line
holds no control character (so it is cut into lines only at U+0085, U+2028 or U+2029), and a
strict reader gives back the event with its keys sorted, the message and the fields redacted,
the fields normalized; otherwise the line is refused with the writer's value error. -/
theorem jsonLine_reads_back {r : Record} {stamp message : String}
    (named : Strict r.name) (labelled : Strict r.levelName)
    (formats : r.message = .ok message) (timed : Instant.isoOfValue r.created = .ok stamp) :
    (r.Writable → ∃ line, r.jsonLine = .ok line ∧
      (∀ c ∈ line.toList, 0x20 ≤ c.toNat ∧
        (Text.isLineBreak c = true → c.toNat = 0x85 ∨ c.toNat = 0x2028 ∨ c.toNat = 0x2029)) ∧
      Json.decode line = some (.map
        (r.exception.toList.map (fun text => (.str "exception", .str (Redact.redactText text))) ++
          (if r.fields.isEmpty then []
            else [(.str "fields", Json.sortKeys (Redact.redact (Redact.normalize
              (.map (r.fields.map fun (k, v) => (.str k, v))))))]) ++
          [(.str "level", Json.sortKeys r.levelName), (.str "logger", Json.sortKeys r.name),
           (.str "message", .str (Redact.redactText message)), (.str "timestamp", .str stamp)]))) ∧
    (¬ r.Writable → r.jsonLine = .error writeLimitFailure) ∧
    ∀ v, Strict (Redact.normalize v) ∧ Redact.normalize (Redact.normalize v) = Redact.normalize v := by
  refine ⟨fun writable => ⟨_, jsonLine_eq timed formats writable, fun c mem => ?_, ?_⟩,
    jsonLine_of_not_writable timed formats,
    fun v => ⟨Redact.normalize_strict v, Redact.normalize_normalize v⟩⟩
  · have printable := Json.compact_printable _ c mem
    exact ⟨printable, lineBreak_of_printable printable⟩
  · rw [Json.decode_compact (event_strict named labelled stamp message), sortKeys_event]
    rfl

/-- A record whose message carries a password and which has one extra attribute: its line
reads back with the password hidden and the attribute among the fields. -/
theorem secret_message_line_reads_back :
    ((Record.make (.str "kafka_rest") (.int 20) (.str "login password=%s")
        [.str "hunter2"] (.int 0)).set "user" (.str "alice")).Writable ∧
    ∃ line, ((Record.make (.str "kafka_rest") (.int 20) (.str "login password=%s")
        [.str "hunter2"] (.int 0)).set "user" (.str "alice")).jsonLine = .ok line ∧
      Json.decode line = some (.map [(.str "fields", .map [(.str "user", .str "alice")]),
        (.str "level", .str "INFO"), (.str "logger", .str "kafka_rest"),
        (.str "message", .str "login password=***REDACTED***"),
        (.str "timestamp", .str "1970-01-01T00:00:00.000Z")]) := by
  have writable : ((Record.make (.str "kafka_rest") (.int 20) (.str "login password=%s")
      [.str "hunter2"] (.int 0)).set "user" (.str "alice")).Writable :=
    ⟨by decide +kernel, rfl, rfl, by decide +kernel⟩
  obtain ⟨written, -, -⟩ := jsonLine_reads_back
    (r := (Record.make (.str "kafka_rest") (.int 20) (.str "login password=%s") [.str "hunter2"]
      (.int 0)).set "user" (.str "alice")) (.str _) (.str "INFO")
    (show _ = Except.ok (ε := Failure) "login password=hunter2" from rfl)
    (show _ = Except.ok (ε := Failure) "1970-01-01T00:00:00.000Z" from rfl)
  obtain ⟨line, ok, -, decoded⟩ := written writable
  refine ⟨writable, line, ok, decoded.trans ?_⟩
  set r := (Record.make (.str "kafka_rest") (.int 20) (.str "login password=%s")
    [.str "hunter2"] (.int 0)).set "user" (.str "alice")
  have exception : r.exception = none := rfl
  have fields : r.fields = [("user", .str "alice")] := by
    simp [r, Record.fields, Record.set, Record.make, reservedAttributes, standardAttributes]
  have label : r.levelName = .str "INFO" := rfl
  have name : r.name = .str "kafka_rest" := rfl
  have hidden : Redact.redactText "login password=hunter2" = "login password=***REDACTED***" := by
    decide +kernel
  have user : Redact.redact (Redact.normalize (.map [(.str "user", .str "alice")])) =
      .map [(.str "user", .str "alice")] := rfl
  simp [hidden, exception, fields, label, name, user, Json.sortKeys_map, Json.sortKeys]

/-- What the line does not rule out: a line separator in the message is written as it
stands, so the line is cut in two; a logger named by not-a-number is written as a bare
literal that a strict reader refuses; and an extra attribute holding an integer of more than
4300 digits cannot be written, so the line is refused. -/
theorem jsonLine_splits_or_refused :
    (∃ line, (Record.make (.str "kafka_rest") (.int 20) (.str "a\u2028b") [] (.int 0)).jsonLine =
        .ok line ∧ (Text.lines line).length = 2) ∧
    (∃ line, (Record.make (.float Binary64.nan) (.int 20) (.str "m") [] (.int 0)).jsonLine =
        .ok line ∧ Json.decode line = none) ∧
    ((Record.make (.str "kafka_rest") (.int 20) (.str "m") [] (.int 0)).set "n"
        (.int ((10 ^ 4300 : Nat) : Int))).jsonLine = .error writeLimitFailure := by
  refine ⟨?split, ?refused, ?long⟩
  case split =>
    refine ⟨_, jsonLine_eq rfl rfl ⟨rfl, rfl, rfl, rfl⟩, ?_⟩
    rw [Text.lines, Json.compact, Json.render_map_toList, mergeSort_event]
    decide +kernel
  case refused =>
    refine ⟨_, jsonLine_eq rfl rfl ⟨rfl, rfl, rfl, rfl⟩, ?_⟩
    rw [← Option.isNone_iff_eq_none, Json.decode, ← String.length_toList, Json.compact,
      Json.render_map_toList, mergeSort_event]
    decide +kernel
  case long =>
    have long := Value.int_pow_limit_not_citable
    generalize ((10 ^ 4300 : Nat) : Int) = i at long ⊢
    apply jsonLine_of_not_writable rfl rfl
    rintro ⟨-, -, -, fielded⟩
    have fields : ((Record.make (.str "kafka_rest") (.int 20) (.str "m") [] (.int 0)).set "n"
        (.int i)).fieldsValue = .map [(.str "n", .int i)] := by
      have open_key : Redact.secretKey "n" = false := by decide +kernel
      simp [Record.fieldsValue, Record.fields, Record.set, Record.make, reservedAttributes,
        standardAttributes, Redact.normalize, Redact.normalizeEntries, Redact.redact,
        Redact.redactEntries, Value.display, open_key]
    rw [fields] at fielded
    simp only [Value.citable, Value.citableEntries, Bool.and_true, Bool.true_and] at fielded long
    rw [fielded] at long
    cases long

end Record

end RestConfig.Log

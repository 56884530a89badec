import RestConfig.Console.Commands
import RestConfig.Proofs.CommandLine
import RestConfig.Proofs.IntegerReadings

/-!
# The `validate --json` command

A run of `validate --json` with `--set` overrides, perhaps a file and perhaps `--no-env`
reads its words into an invocation that asks for exactly that; then it refuses the first
override without a name, or loads the properties from the file, the environment and the
overrides, resolves them and prints the outcome as JSON, with nothing logged at the level
the run sets up.
-/

namespace RestConfig.Console

open RestConfig.Text

/-! ## Reading the words -/

/-- The option of `validate` that a name names. -/
def validateOption (name : String) : OptionSpec :=
  (validateCommand.options.find? (·.names.contains name)).getD default

/-- The clauses of a `validate --json` run: the overrides, the file if one is given, and the
switch that ignores the environment if it is on. -/
def validateClauses (sets : List String) (config : Option String) (noEnv : Bool) : List Clause :=
  ⟨validateOption "--json", "--json", none⟩ ::
    sets.map (fun s => ⟨validateOption "--set", "--set", some s⟩) ++
      (config.map fun f => [⟨validateOption "--config", "--config", some f⟩]).getD [] ++
      (if noEnv then [⟨validateOption "--no-env", "--no-env", none⟩] else [])

/-- The words of a `validate --json` run. -/
def validateWords (sets : List String) (config : Option String) (noEnv : Bool) : List String :=
  ["validate", "--json"] ++ sets.flatMap (fun s => ["--set", s]) ++
    (config.map fun f => ["--config", f]).getD [] ++ (if noEnv then ["--no-env"] else [])

section Words

variable {sets : List String} {config : Option String} {noEnv : Bool}

theorem validateWords_eq (sets : List String) (config : Option String) (noEnv : Bool) :
    validateWords sets config noEnv =
      "validate" :: (validateClauses sets config noEnv).flatMap Clause.words := by
  cases config <;> cases noEnv <;> simp [validateWords, validateClauses, Clause.words, List.flatMap_map]

/-- The names a `validate --json` run writes. -/
def validateNames : List String := ["validate", "--json", "--set", "--config", "--no-env"]

theorem mem_validateWords {w : String} (mem : w ∈ validateWords sets config noEnv) :
    w ∈ validateNames ∨ w ∈ sets ∨ w ∈ config.toList := by
  simp only [validateWords, List.mem_append, List.mem_flatMap] at mem
  rcases mem with ((named | ⟨s, listed, pair⟩) | file) | switch
  · simp only [List.mem_cons, List.not_mem_nil, or_false] at named
    rcases named with rfl | rfl <;> exact .inl (by simp [validateNames])
  · simp only [List.mem_cons, List.not_mem_nil, or_false] at pair
    rcases pair with rfl | rfl
    · exact .inl (by simp [validateNames])
    · exact .inr (.inl listed)
  · cases config with
    | none => cases file
    | some f =>
      simp only [Option.map_some, Option.getD_some, List.mem_cons, List.not_mem_nil,
        or_false] at file
      rcases file with rfl | rfl
      · exact .inl (by simp [validateNames])
      · exact .inr (.inr (by simp))
  · cases noEnv
    · cases switch
    · simp only [if_true, List.mem_singleton] at switch
      exact .inl (by simp [validateNames, switch])

theorem readable_validateWords {l l' : Level} (same : l.options = l'.options)
    (names : ∀ n ∈ validateNames, (l'.classify n).toBool = true)
    (plainSets : ∀ s ∈ sets, s.front? ≠ some '-') (plainConfig : ∀ f ∈ config, f.front? ≠ some '-') :
    ∀ w ∈ validateWords sets config noEnv, w ≠ "--" ∧ l.classify w = .ok (l.kind w) := by
  have value : ∀ v : String, v.front? ≠ some '-' → v ≠ "--" ∧ l.classify v = .ok (l.kind v) :=
    fun v plain => ⟨by rintro rfl; exact plain (by decide),
      by rw [Level.kind_of_front plain]; exact Level.classify_of_front plain⟩
  intro w mem
  rcases mem_validateWords mem with named | listed | file
  · refine ⟨?_, Level.classify_of_options same (names w named)⟩
    simp only [validateNames, List.mem_cons, List.not_mem_nil, or_false] at named
    rcases named with rfl | rfl | rfl | rfl | rfl <;> decide
  · exact value w (plainSets w listed)
  · exact value w (plainConfig w (Option.mem_toList.mp file))

theorem program_reads_validateNames :
    ∀ n ∈ validateNames, ((restConfigProgram.level 0).classify n).toBool = true := by
  decide +kernel

theorem validate_reads_validateNames :
    ∀ n ∈ validateNames,
      ((restConfigProgram.commandLevel validateCommand 0).classify n).toBool = true := by
  decide +kernel

theorem find?_validateOption {width : Nat} {name : String}
    (known : (validateCommand.options.find? (·.names.contains name)).isSome = true) :
    (restConfigProgram.commandLevel validateCommand width).find? name =
      some (validateOption name) := by
  unfold Level.find? validateOption
  cases found : validateCommand.options.find? (·.names.contains name) with
  | none => rw [found] at known; cases known
  | some o =>
    show validateCommand.options.find? _ = _
    rw [found]
    rfl

theorem kind_validateOption {width : Nat} {name : String} (dashed : name.front? = some '-')
    (known : (validateCommand.options.find? (·.names.contains name)).isSome = true) :
    (restConfigProgram.commandLevel validateCommand width).kind name =
      .option (some (validateOption name)) name none :=
  Level.kind_of_find dashed (find?_validateOption known)

theorem reads_validateClauses {width : Nat} (plainSets : ∀ s ∈ sets, s.front? ≠ some '-')
    (plainConfig : ∀ f ∈ config, f.front? ≠ some '-') :
    ∀ c ∈ validateClauses sets config noEnv,
      (restConfigProgram.commandLevel validateCommand width).Reads c := by
  intro c mem
  simp only [validateClauses, List.cons_append, List.mem_cons, List.mem_append, List.mem_map] at mem
  rcases mem with rfl | (⟨s, listed, rfl⟩ | file) | switch
  · exact ⟨@kind_validateOption width "--json" (by decide) (by decide +kernel), .inl ⟨rfl, rfl⟩⟩
  · exact ⟨@kind_validateOption width "--set" (by decide) (by decide +kernel),
      .inr ⟨rfl, s, rfl, Level.kind_of_front (plainSets s listed)⟩⟩
  · cases config with
    | none => cases file
    | some f =>
      simp only [Option.map_some, Option.getD_some, List.mem_singleton] at file
      subst file
      exact ⟨@kind_validateOption width "--config" (by decide) (by decide +kernel),
        .inr ⟨rfl, f, rfl, Level.kind_of_front (plainConfig f rfl)⟩⟩
  · cases noEnv
    · cases switch
    · simp only [if_true, List.mem_singleton] at switch
      subst switch
      exact ⟨@kind_validateOption width "--no-env" (by decide) (by decide +kernel),
        .inl ⟨rfl, rfl⟩⟩

end Words

/-! ## The invocation -/

/-- The answers a run of overrides leaves: each value joins those collected before. -/
def collectOverrides (answers : List (String × Answer)) (sets : List String) :
    List (String × Answer) :=
  sets.foldl (fun ans s =>
    setAnswer ans "overrides" (.collected (collectedOf (ans.lookup "overrides") ++ [.word s]))) answers

theorem lookup_collectOverrides (answers : List (String × Answer)) (sets : List String)
    (d : String) :
    (collectOverrides answers sets).lookup d =
      if d = "overrides" ∧ sets ≠ [] then
        some (.collected (collectedOf (answers.lookup "overrides") ++ sets.map .word))
      else answers.lookup d := by
  unfold collectOverrides
  induction sets generalizing answers with
  | nil => simp
  | cons s rest ih =>
    rw [List.foldl_cons, ih, lookup_setAnswer, lookup_setAnswer]
    by_cases asked : d = "overrides"
    · subst asked
      cases rest <;> simp [collectedOf]
    · simp [asked]

/-- The answers `validate` reads from such a run, before defaults. -/
def validateAnswers (sets : List String) (config : Option String) (noEnv : Bool) :
    List (String × Answer) :=
  let collected := collectOverrides [("json", .switch true)] sets
  let filed := match config with
    | some f => setAnswer collected "config_path" (.given (.word f))
    | none => collected
  if noEnv then setAnswer filed "no_env" (.switch true) else filed

/-- The invocation such a run reads: its clauses' answers, or the options' defaults. -/
def validateInvocation (sets : List String) (config : Option String) (noEnv : Bool) :
    Invocation :=
  ⟨validateCommand, (validateCommand.options.filter (·.kind ≠ .help)).map fun o =>
    (o.dest, ((validateAnswers sets config noEnv).lookup o.dest).getD o.default)⟩

section Invocation

variable {width : Nat} {sets : List String} {config : Option String} {noEnv : Bool}

theorem take_setClauses {answers : List (String × Answer)} (unmarked : ∀ s ∈ sets, s ≠ "--") :
    (sets.map fun s => (⟨validateOption "--set", "--set", some s⟩ : Clause)).foldlM
      (fun st c => (restConfigProgram.commandLevel validateCommand width).take c.option
        c.value.toList st) ⟨answers, [], none⟩ = pure ⟨collectOverrides answers sets, [], none⟩ := by
  induction sets generalizing answers with
  | nil => rfl
  | cons s rest ih =>
    rw [List.map_cons, List.foldlM_cons]
    simp only [Option.toList_some]
    rw [Level.take_collect rfl rfl (unmarked s List.mem_cons_self) rfl, pure_bind]
    exact ih fun t mem => unmarked t (List.mem_cons_of_mem s mem)

variable (plainSets : ∀ s ∈ sets, s.front? ≠ some '-')
  (plainConfig : ∀ f ∈ config, f.front? ≠ some '-')
include plainSets plainConfig

theorem read_validateClauses :
    (restConfigProgram.commandLevel validateCommand width).read
      ((validateClauses sets config noEnv).flatMap Clause.words) =
        pure ⟨validateAnswers sets config noEnv, [], none⟩ := by
  have readable := @readable_validateWords sets config noEnv
    (restConfigProgram.commandLevel validateCommand width)
    (restConfigProgram.commandLevel validateCommand 0) rfl validate_reads_validateNames
    plainSets plainConfig
  rw [Level.read_clauses rfl
    (fun w mem => readable w (by rw [validateWords_eq]; exact List.mem_cons_of_mem _ mem))
    (reads_validateClauses plainSets plainConfig)]
  have unmarked : ∀ s ∈ sets, s ≠ "--" := fun s mem same => plainSets s mem (by rw [same]; decide)
  unfold validateClauses
  rw [List.foldlM_append, List.foldlM_append, List.foldlM_cons]
  simp only [Option.toList_none]
  rw [Level.take_switch rfl, pure_bind, take_setClauses unmarked, pure_bind]
  cases config with
  | none =>
    cases noEnv
    · rfl
    · simp only [Option.map_none, Option.getD_none, List.foldlM_nil, pure_bind, if_true,
        List.foldlM_cons, Option.toList_none]
      rw [Level.take_switch rfl]
      rfl
  | some f =>
    have unmarkedFile : f ≠ "--" := fun same => plainConfig f rfl (by rw [same]; decide)
    simp only [Option.map_some, Option.getD_some, List.foldlM_cons, List.foldlM_nil,
      Option.toList_some]
    rw [Level.take_store rfl rfl unmarkedFile]
    cases noEnv
    · rfl
    · simp only [pure_bind, if_true, List.foldlM_cons, List.foldlM_nil, Option.toList_none]
      rw [Level.take_switch rfl]
      rfl

theorem read_validateWords :
    restConfigProgram.read width (validateWords sets config noEnv) =
      .ok (validateInvocation sets config noEnv) := by
  rw [validateWords_eq]
  refine Program.read_command rfl ?_ (Level.kind_of_front (by decide))
    (read_validateClauses plainSets plainConfig) rfl
  intro w mem
  refine @readable_validateWords sets config noEnv (restConfigProgram.level width)
    (restConfigProgram.level 0) rfl program_reads_validateNames plainSets plainConfig w ?_
  rw [validateWords_eq]
  exact mem

end Invocation

section Answers

variable (sets : List String) (config : Option String) (noEnv : Bool)

theorem validateInvocation_answers :
    (validateInvocation sets config noEnv).answers =
      [("log_level", .given (.word "WARNING")), ("log_format", .given (.word "json")),
        ("no_color", .switch false), ("config_path", (config.map fun f => .given (.word f)).getD .absent),
        ("overrides", .collected (sets.map .word)), ("no_env", .switch noEnv),
        ("json", .switch true)] := by
  cases config <;> cases noEnv <;> cases sets <;>
    simp [validateInvocation, validateCommand, commonOptions, helpOption, validateAnswers,
      lookup_collectOverrides, lookup_setAnswer, List.lookup_cons, collectedOf]

theorem validateInvocation_json : (validateInvocation sets config noEnv).isOn "json" = true := by
  simp [Invocation.isOn, Invocation.answer, validateInvocation_answers, List.lookup_cons]

theorem validateInvocation_overrides :
    (validateInvocation sets config noEnv).collected "overrides" = sets.map .word := by
  simp [Invocation.collected, Invocation.answer, validateInvocation_answers, List.lookup_cons]

theorem validateInvocation_configPath :
    configPath (validateInvocation sets config noEnv) = .ok config := by
  unfold configPath Invocation.given? Invocation.answer
  rw [validateInvocation_answers]
  cases config <;> rfl

theorem validateInvocation_noEnv :
    (validateInvocation sets config noEnv).isOn "no_env" = noEnv := by
  simp [Invocation.isOn, Invocation.answer, validateInvocation_answers, List.lookup_cons]

theorem validateInvocation_logLevel :
    (validateInvocation sets config noEnv).given? "log_level" = some (.word "WARNING") := by
  simp [Invocation.given?, Invocation.answer, validateInvocation_answers]

theorem validateInvocation_logFormat :
    (validateInvocation sets config noEnv).given? "log_format" = some (.word "json") := by
  simp [Invocation.given?, Invocation.answer, validateInvocation_answers, List.lookup_cons]

end Answers

/-! ## Overrides -/

/-- The name an override gives: its text before the first `=`, without surrounding blanks. -/
def overrideName (item : String) : String := trim (String.ofList (item.toList.takeWhile (· ≠ '=')))

/-- The value an override gives: its text after the first `=`. -/
def overrideValue (item : String) : String :=
  String.ofList ((item.toList.dropWhile (· ≠ '=')).drop 1)

/-- An override that names a property: it has an `=`, with a name that is not blank before it. -/
def Assigns (item : String) : Prop := '=' ∈ item.toList ∧ overrideName item ≠ ""

/-- The overrides of a run whose items all name properties: each sets its property, a later
item replacing an earlier one in place. -/
def overridesOf (sets : List String) : List (String × Value) :=
  sets.foldl (fun acc s => Source.setValue acc (overrideName s) (.str (overrideValue s))) []

/-- The refusal of an override that names no property. -/
def refusedOverride (item : String) : Ending :=
  .refused ("invalid --set value " ++ quote item ++ "; expected KEY=VALUE")

theorem refuses_iff (item : String) :
    (!item.toList.contains '=' || (trim (String.ofList (item.toList.takeWhile (· ≠ '=')))).isEmpty) =
      true ↔ ¬ Assigns item := by
  rw [← overrideName]
  simp only [Assigns, Bool.or_eq_true, Bool.not_eq_true', String.isEmpty_iff, not_and, ne_eq,
    Classical.not_not]
  rw [Decidable.imp_iff_not_or, ← Bool.not_eq_true, List.contains_iff_mem]

theorem readOverrides_of_assigns {sets : List String} (all : ∀ s ∈ sets, Assigns s) :
    readOverrides (sets.map .word) = .ok (overridesOf sets) := by
  unfold readOverrides overridesOf
  generalize ([] : List (String × Value)) = acc
  induction sets generalizing acc with
  | nil => rfl
  | cons s rest ih =>
    rw [List.map_cons, List.foldlM_cons, List.foldl_cons]
    simp only
    rw [if_neg fun refused => (refuses_iff s).mp refused (all s List.mem_cons_self)]
    exact ih (fun t mem => all t (List.mem_cons_of_mem s mem)) _

theorem readOverrides_refused {pre post : List String} {s : String} (good : ∀ t ∈ pre, Assigns t)
    (bad : ¬ Assigns s) : readOverrides ((pre ++ s :: post).map .word) = .error (refusedOverride s) := by
  unfold readOverrides
  generalize ([] : List (String × Value)) = acc
  induction pre generalizing acc with
  | nil =>
    rw [List.nil_append, List.map_cons, List.foldlM_cons]
    simp only
    rw [if_pos ((refuses_iff s).mpr bad)]
    rfl
  | cons t rest ih =>
    rw [List.cons_append, List.map_cons, List.foldlM_cons]
    simp only
    rw [if_neg fun refused => (refuses_iff t).mp refused (good t List.mem_cons_self)]
    exact ih (fun u mem => good u (List.mem_cons_of_mem t mem)) _

/-! ## Logging -/

/-- The registry once a run has set up logging at `WARNING` in JSON lines. -/
def warningRegistry : Log.Registry :=
  ⟨[("kafka_rest", ⟨30, false, [0]⟩)], [⟨"kafka_rest", 30, .json, 0, true, false⟩], some 0⟩

theorem setup_warning :
    Log.Registry.empty.setup
      { loggerName := "kafka_rest", level := .str "WARNING", format := .str "json" } =
        (warningRegistry, .ok 0) := rfl

theorem emit_below {reg : Log.Registry} {e : Log.Event} {n : Int} (level : e.level = .int n)
    (below : n < reg.effectiveLevel (Log.canonical e.logger)) : reg.emit e = .ok "" := by
  unfold Log.Registry.emit
  rw [level]
  simp only [pure_bind]
  rw [if_pos (Or.inr below)]
  rfl

theorem emitAll_silent {reg : Log.Registry} {events : List Log.Event}
    (quiet : ∀ e ∈ events, reg.emit e = .ok "") : (reg.emitAll events).2 = "" := by
  unfold Log.Registry.emitAll
  have start : (([] : List (Except Failure Unit)), "").2 = "" := rfl
  generalize (([] : List (Except Failure Unit)), "") = acc at start ⊢
  -- induction on the events, from any written text that is still empty
  induction events generalizing acc with
  | nil => exact start
  | cons e rest ih =>
    rw [List.foldl_cons]
    apply ih (fun d mem => quiet d (List.mem_cons_of_mem e mem))
    obtain ⟨outs, w⟩ := acc
    simp only [quiet e List.mem_cons_self, String.append_empty]
    exact start

/-- The loggers of `validate`'s records, below the one the run sets up. -/
def ConfigLogger (name : String) : Prop :=
  name = "kafka_rest.config.definition" ∨ name = "kafka_rest.config.simple_consumer"

theorem effectiveLevel_configLogger {name : String} (named : ConfigLogger name) :
    warningRegistry.effectiveLevel name = 30 := by
  rcases named with rfl | rfl <;> decide +kernel

theorem emit_configLogger {e : Log.Event} {n : Int} (level : e.level = .int n) (low : n < 30)
    (named : ConfigLogger e.logger) : warningRegistry.emit e = .ok "" := by
  have canonical : Log.canonical e.logger = e.logger := by
    rcases named with named | named <;> rw [named] <;> rfl
  refine emit_below level ?_
  rw [canonical, effectiveLevel_configLogger named]
  exact low

theorem emit_ignoredEvent (now : Value) (name : String) :
    warningRegistry.emit (ignoredEvent now name) = .ok "" :=
  emit_configLogger rfl (by decide) (.inl rfl)

theorem emit_resolvedEvent (now : Value) (keys supplied : Nat) :
    warningRegistry.emit (resolvedEvent now keys supplied) = .ok "" :=
  emit_configLogger rfl (by decide) (.inr rfl)

theorem emitAll_nil (reg : Log.Registry) : (reg.emitAll []).2 = "" :=
  emitAll_silent nofun

/-! ## The run -/

/-- What a run writes once logging is set up on `reg` and its command has had its effect:
the records logged on standard error, then how the command ended. -/
def finish (reg : Log.Registry) (effect : Effect) : Outcome :=
  let logged := (reg.emitAll effect.events).2
  match effect.ending with
  | .finished status out => ⟨status, out, logged⟩
  | .refused message => ⟨.configError, "", logged ++ "error: " ++ message ++ "\n"⟩
  | .failed f => ⟨(escaped f).1, "", logged ++ (escaped f).2⟩

theorem run_of_read {req : Request} {inv : Invocation}
    (read : restConfigProgram.read (layoutWidth req.columns) req.words = .ok inv)
    (level : inv.given? "log_level" = some (.word "WARNING"))
    (format : inv.given? "log_format" = some (.word "json")) :
    run req = finish warningRegistry (perform inv req) := by
  unfold run
  rw [read]
  simp only [level, format, Option.getD_some]
  rw [show Given.toValue (.word "WARNING") = .str "WARNING" from rfl,
    show Given.toValue (.word "json") = .str "json" from rfl, setup_warning]
  rfl

theorem escaped_badSource (m : String) :
    escaped (.badSource m) =
      (.configError, (if (trim m).isEmpty then "ConfigLoadError" else trim m) ++ "\n") := by
  have routed : statusOfKinds ["ConfigLoadError"] = .configError := by decide +kernel
  unfold escaped
  rw [show (Failure.badSource m).kind = "ConfigLoadError" from rfl, routed]
  rfl

/-- The properties `validate` loads: the file `--config` names, the environment unless
`--no-env` is given, and the overrides of `--set`. -/
def validateLoad (req : Request) (sets : List String) (config : Option String) (noEnv : Bool) :
    Except Failure Props :=
  Source.load req.files ((req.environ.lookup "HOME").getD req.accountHome) (req.room - 3) config
    (if noEnv then [] else req.environ.map fun kv => (kv.1, Value.str kv.2)) (overridesOf sets)
    Environment.defaultLead

/-- The names of loaded properties that the schema does not read, in order. -/
def ignoredNames (props : Props) : List String :=
  ((props.map (·.1)).filter fun n => !Proxy.defaultSchema.names.contains n).mergeSort
    fun a b => decide (a ≤ b)

theorem resolvedText_json (r : Proxy.Resolved) :
    resolvedText true r =
      jsonLine (.map [(.str "command", .str "validate"), (.str "valid", .bool true),
        (.str "values", .map ((r.report false).1.map fun (k, v) => (.str k, v))),
        (.str "derived", .map (((r.report false).2.mergeSort fun a b => decide (a.1 ≤ b.1)).map
          fun (k, i) => (.str k, .int i)))]) := rfl

theorem issuesText_json (heading : String) (issues : List (Option String × String)) :
    issuesText true heading issues =
      jsonLine (.map [(.str "command", .str "validate"), (.str "valid", .bool false),
        (.str "issues", .list (issues.map fun (k, m) =>
          .map [(.str "key", (k.map Value.str).getD .none), (.str "message", .str m)]))]) := rfl

/-! ## What `validate` prints can be written -/

theorem jsonLine_of_citable {v : Value} (h : v.citable = true) :
    jsonLine v = .ok (Json.render (some 2) 0 v ++ "\n") := by
  simp [jsonLine, Json.write, h]

theorem issuesText_json_ok (heading : String) (issues : List (Option String × String)) :
    ∃ out, issuesText true heading issues = .ok out := by
  refine ⟨_, jsonLine_of_citable ?_⟩
  simp only [Value.citable, Value.citableEntries, Bool.true_and, Bool.and_true,
    Value.citableItems_iff, List.mem_map, forall_exists_index, and_imp, forall_apply_eq_imp_iff₂]
  rintro ⟨k, m⟩ -
  cases k <;> rfl

theorem reportValue_citable {s : Setting} (h : s.toValue.citable = true) (reveal : Bool) :
    (Proxy.Resolved.reportValue reveal s).citable = true := by
  cases s with
  | secret p => cases reveal <;> rfl
  | items xs => simp [Proxy.Resolved.reportValue, Value.citable, Value.citableItems_iff]
  | _ => exact h

/-- A resolved configuration's settings can be written and its derived settings are 32-bit
integers, so its JSON object is always written. -/
theorem resolvedText_json_ok {room : Nat} {props : Props} {r : Proxy.Resolved}
    (h : Proxy.resolve room Proxy.defaultSchema props = .ok r) :
    ∃ out, resolvedText true r = .ok out := by
  have settings := Proxy.Resolved.settings_citable_of_resolve h
  obtain ⟨parsed, view, -, viewed, rfl⟩ := Proxy.resolve_eq_ok h
  have values : ∀ e ∈ (Proxy.Resolved.report ⟨Proxy.defaultSchema, parsed, props, view⟩ false).1,
      e.2.citable = true := by
    intro e mem
    obtain ⟨⟨n, s⟩, sorted, rfl⟩ := List.mem_map.mp mem
    exact reportValue_citable (settings _ ((List.mergeSort_perm _ _).mem_iff.mp sorted)) false
  have derived : ∀ e ∈ (Proxy.Resolved.report ⟨Proxy.defaultSchema, parsed, props, view⟩ false).2,
      (Value.int e.2).citable = true := by
    intro e mem
    have fits := Proxy.ConsumerView.derived_fits32 viewed e mem
    simp only [Proxy.fits32, decide_eq_true_eq] at fits
    exact Value.citable_int (by omega)
  refine ⟨_, (resolvedText_json _).trans (jsonLine_of_citable ?_)⟩
  simp only [Value.citable, Value.citableEntries, Bool.true_and, Bool.and_true, Bool.and_eq_true,
    Value.citableEntries_iff, List.mem_map]
  constructor
  · rintro e ⟨⟨n, v⟩, mem, rfl⟩
    exact ⟨rfl, values _ mem⟩
  · rintro e ⟨⟨n, i⟩, mem, rfl⟩
    exact ⟨rfl, derived _ ((List.mergeSort_perm _ _).mem_iff.mp mem)⟩

theorem validate_of_assigns {req : Request} {sets : List String} {config : Option String}
    {noEnv : Bool} (all : ∀ s ∈ sets, Assigns s) :
    validate (validateInvocation sets config noEnv) req =
      match validateLoad req sets config noEnv with
      | .error f => ⟨[], .failed f⟩
      | .ok props =>
        let events := (ignoredNames props).map (ignoredEvent req.now)
        match Proxy.resolve (req.room - 8) Proxy.defaultSchema props with
        | .error (.invalidConfig issues) =>
          ⟨events, .ofText .configError (issuesText true "Invalid configuration"
            (issues.map fun i => (some i.path, i.message)))⟩
        | .error (.badConsumer m) =>
          ⟨events, .ofText .configError
            (issuesText true "Invalid consumer configuration" [(none, m)])⟩
        | .error f => ⟨events, .failed f⟩
        | .ok r =>
          ⟨events ++ [resolvedEvent req.now r.settings.length props.length],
            .ofText .success (resolvedText true r)⟩ := by
  have path : configPath (validateInvocation sets config noEnv) = pure config :=
    validateInvocation_configPath sets config noEnv
  unfold validate ignoredNames
  rw [validateInvocation_overrides, readOverrides_of_assigns all]
  simp only [validateInvocation_json, validateInvocation_noEnv, path, pure_bind]
  rcases loaded : validateLoad req sets config noEnv with f | props <;>
    unfold validateLoad at loaded
  · simp only [loaded]
  · rcases resolved : Proxy.resolve (req.room - 8) Proxy.defaultSchema props with f | r
    · cases f <;> simp only [loaded, resolved]
    · simp only [loaded, resolved]

section Run

variable {req : Request} {sets : List String} {config : Option String} {noEnv : Bool}
variable (plainSets : ∀ s ∈ sets, s.front? ≠ some '-') (plainConfig : ∀ f ∈ config, f.front? ≠ some '-')
variable (words : req.words = validateWords sets config noEnv)
include plainSets plainConfig words

theorem run_validateWords :
    run req = finish warningRegistry (validate (validateInvocation sets config noEnv) req) := by
  rw [run_of_read (by rw [words]; exact read_validateWords plainSets plainConfig)
    (validateInvocation_logLevel sets config noEnv) (validateInvocation_logFormat sets config noEnv)]
  have named : ((validateInvocation sets config noEnv).command.name == validateCommand.name) = true :=
    beq_self_eq_true _
  unfold perform
  rw [if_pos named]

theorem run_refused {pre post : List String} {s : String} (split : sets = pre ++ s :: post)
    (good : ∀ t ∈ pre, Assigns t) (bad : ¬ Assigns s) :
    run req = ⟨.configError, "",
      "error: invalid --set value " ++ quote s ++ "; expected KEY=VALUE\n"⟩ := by
  rw [run_validateWords plainSets plainConfig words]
  unfold validate
  rw [validateInvocation_overrides, split, readOverrides_refused good bad]
  show finish warningRegistry ⟨[], refusedOverride s⟩ = _
  simp only [finish, refusedOverride, emitAll_nil, String.empty_append, String.append_assoc]
  rw [← @String.append_assoc "error: " "invalid --set value "]
  simp only [String.reduceAppend]

variable (all : ∀ s ∈ sets, Assigns s)
include all

theorem run_loadFailed {f : Failure} (failed : validateLoad req sets config noEnv = .error f) :
    run req = ⟨(escaped f).1, "", (escaped f).2⟩ := by
  rw [run_validateWords plainSets plainConfig words, validate_of_assigns all, failed]
  simp only [finish, emitAll_nil, String.empty_append]

section Loaded

variable {props : Props} (loaded : validateLoad req sets config noEnv = .ok props)
include loaded

theorem run_resolved {r : Proxy.Resolved} {out : String}
    (resolved : Proxy.resolve (req.room - 8) Proxy.defaultSchema props = .ok r)
    (printed : resolvedText true r = .ok out) :
    run req = ⟨.success, out, ""⟩ := by
  rw [run_validateWords plainSets plainConfig words, validate_of_assigns all, loaded]
  simp only [resolved, printed, Ending.ofText, finish]
  rw [emitAll_silent fun e mem => ?_]
  rcases List.mem_append.mp mem with named | last
  · obtain ⟨n, -, rfl⟩ := List.mem_map.mp named
    exact emit_ignoredEvent req.now n
  · rw [List.mem_singleton.mp last]
    exact emit_resolvedEvent req.now _ _

theorem run_invalid {issues : List Issue} {out : String}
    (invalid : Proxy.resolve (req.room - 8) Proxy.defaultSchema props = .error (.invalidConfig issues))
    (printed : issuesText true "Invalid configuration"
      (issues.map fun i => (some i.path, i.message)) = .ok out) :
    run req = ⟨.configError, out, ""⟩ := by
  rw [run_validateWords plainSets plainConfig words, validate_of_assigns all, loaded]
  simp only [invalid, printed, Ending.ofText, finish]
  rw [emitAll_silent (by simp [emit_ignoredEvent])]

theorem run_badConsumer {m out : String}
    (refused : Proxy.resolve (req.room - 8) Proxy.defaultSchema props = .error (.badConsumer m))
    (printed : issuesText true "Invalid consumer configuration" [(none, m)] = .ok out) :
    run req = ⟨.configError, out, ""⟩ := by
  rw [run_validateWords plainSets plainConfig words, validate_of_assigns all, loaded]
  simp only [refused, printed, Ending.ofText, finish]
  rw [emitAll_silent (by simp [emit_ignoredEvent])]

end Loaded

end Run

/-- `validate --json` over `--set` items, an optional `--config` file and an optional
`--no-env`, when no value given starts with `-`: the first item that assigns nothing is
refused; otherwise a failure to load ends the run with its trimmed message, and what loads is
resolved, with the room the run leaves it, and reported as one JSON object, which is always
written, with nothing logged on standard error. -/
theorem validate_json_outcome (req : Request) (sets : List String) (config : Option String)
    (noEnv : Bool) (plainSets : ∀ s ∈ sets, s.front? ≠ some '-')
    (plainConfig : ∀ f ∈ config, f.front? ≠ some '-')
    (words : req.words = validateWords sets config noEnv) :
    (∀ pre s post, sets = pre ++ s :: post → (∀ t ∈ pre, Assigns t) → ¬ Assigns s →
      run req = ⟨.configError, "",
        "error: invalid --set value " ++ quote s ++ "; expected KEY=VALUE\n"⟩) ∧
    ((∀ s ∈ sets, Assigns s) →
      (∀ m, validateLoad req sets config noEnv = .error (.badSource m) →
        run req = ⟨.configError, "",
          (if (trim m).isEmpty then "ConfigLoadError" else trim m) ++ "\n"⟩) ∧
      ∀ props, validateLoad req sets config noEnv = .ok props →
        (∀ r, Proxy.resolve (req.room - 8) Proxy.defaultSchema props = .ok r →
          ∃ out, jsonLine (.map [(.str "command", .str "validate"),
            (.str "valid", .bool true),
            (.str "values", .map ((r.report false).1.map fun (k, v) => (.str k, v))),
            (.str "derived", .map (((r.report false).2.mergeSort fun a b => decide (a.1 ≤ b.1)).map
              fun (k, i) => (.str k, .int i)))]) = .ok out ∧ run req = ⟨.success, out, ""⟩) ∧
        (∀ issues, Proxy.resolve (req.room - 8) Proxy.defaultSchema props =
            .error (.invalidConfig issues) →
          ∃ out, jsonLine (.map [(.str "command", .str "validate"),
            (.str "valid", .bool false),
            (.str "issues", .list (issues.map fun i =>
              .map [(.str "key", .str i.path), (.str "message", .str i.message)]))]) = .ok out ∧
            run req = ⟨.configError, out, ""⟩) ∧
        (∀ m, Proxy.resolve (req.room - 8) Proxy.defaultSchema props = .error (.badConsumer m) →
          ∃ out, jsonLine (.map [(.str "command", .str "validate"),
            (.str "valid", .bool false),
            (.str "issues", .list [.map [(.str "key", .none), (.str "message", .str m)]])]) =
              .ok out ∧ run req = ⟨.configError, out, ""⟩)) := by
  refine ⟨fun pre s post split good bad => run_refused plainSets plainConfig words split good bad,
    fun all => ⟨fun m failed => ?_, fun props loaded => ⟨fun r resolved => ?_,
      fun issues invalid => ?_, fun m refused => ?_⟩⟩⟩
  · rw [run_loadFailed plainSets plainConfig words all failed, escaped_badSource]
  · obtain ⟨out, printed⟩ := resolvedText_json_ok resolved
    exact ⟨out, (resolvedText_json r).symm.trans printed,
      run_resolved plainSets plainConfig words all loaded resolved printed⟩
  · obtain ⟨out, printed⟩ := issuesText_json_ok "Invalid configuration"
      (issues.map fun i => (some i.path, i.message))
    refine ⟨out, ?_, run_invalid plainSets plainConfig words all loaded invalid printed⟩
    rw [← printed, issuesText_json, List.map_map]
    rfl
  · obtain ⟨out, printed⟩ := issuesText_json_ok "Invalid consumer configuration" [(none, m)]
    exact ⟨out, (issuesText_json _ _).symm.trans printed,
      run_badConsumer plainSets plainConfig words all loaded refused printed⟩

theorem unassigned_override_refused :
    run { words := ["validate", "--json", "--set", "retries"], files := default, environ := [],
          accountHome := "", room := 100, columns := 80, now := .none } =
      ⟨.configError, "", "error: invalid --set value " ++ quote "retries" ++ "; expected KEY=VALUE\n"⟩ :=
  (validate_json_outcome _ ["retries"] none false (by decide +kernel) nofun rfl).1 [] "retries" []
    rfl nofun (by unfold Assigns; decide +kernel)

/-- A `validate --json` command line whose `--config` file name starts with `-`. -/
def dashedConfig : Request :=
  { words := ["validate", "--json", "--config", "-x.properties"], files := default, environ := [],
    accountHome := "", room := 100, columns := 80, now := .none }

-- The path of that file, followed step by step: its only name is itself, it names no home,
-- and the empty tree holds nothing there.

theorem parts_dashedConfig : Files.parts "-x.properties" = ["-x.properties"] := by
  have split : "-x.properties".splitOn "/" = ["-x.properties"] := by
    rw [String.splitOn, if_neg (by decide +kernel)]
    repeat (rw [String.splitOnAux]; simp +decide only [ite_true, ite_false])
  rw [Files.parts, split]
  decide +kernel

theorem expandHome_dashedConfig : Files.expandHome "" "-x.properties" = .ok "-x.properties" := by
  have normal : Files.normalize "-x.properties" = "-x.properties" := by
    unfold Files.normalize
    rw [parts_dashedConfig]
    decide +kernel
  have root : Files.rootOf "-x.properties" = "" := by decide +kernel
  have plain : "-x.properties".startsWith "~" = false := by decide +kernel
  unfold Files.expandHome
  simp only [normal, parts_dashedConfig, root, plain]
  rfl

theorem lookup_dashedConfig : Files.Tree.lookup default "-x.properties" = .missing := by
  have noZero : decide (Char.ofNat 0 ∈ "-x.properties".toList) = false := by decide +kernel
  have short : ¬ "-x.properties".utf8ByteSize ≥ Files.pathMax := by decide +kernel
  have named : ¬ "-x.properties".utf8ByteSize > Files.nameMax := by decide +kernel
  unfold Files.Tree.lookup
  rw [String.contains_char_eq, parts_dashedConfig]
  simp only [noZero, Bool.false_eq_true, if_false, if_neg short]
  unfold Files.Tree.follow
  simp only [if_neg named]
  rfl

theorem load_dashedConfig :
    validateLoad dashedConfig [] (some "-x.properties") false =
      .error (.badSource "config file not found: -x.properties") := by
  unfold validateLoad Source.load Source.readConfig
  simp only [dashedConfig, List.lookup_nil, Option.getD_none, expandHome_dashedConfig, pure_bind,
    lookup_dashedConfig]
  rfl

/-- A `--config` file whose name starts with `-` is read as an option, so the command line is
refused with a usage error before anything is loaded, where loading would have found no such
file. -/
theorem dashed_config_refused :
    validateLoad dashedConfig [] (some "-x.properties") false =
      .error (.badSource "config file not found: -x.properties") ∧
    (run dashedConfig).status = .configError ∧
    (run dashedConfig).err.startsWith "usage: kafka-rest-config validate" = true := by
  refine ⟨load_dashedConfig, ?_, ?_⟩ <;> decide +kernel

end RestConfig.Console

import RestConfig.Console.Arguments
import RestConfig.Console.Table
import RestConfig.Console.Exit
import RestConfig.Proxy.Settings
import RestConfig.Schema.Docs
import RestConfig.Source.Load
import RestConfig.Log.Session
import RestConfig.Value.Json

/-!
# The `kafka-rest-config` command line

Two commands: `docs` prints the reference of the published schema (reStructuredText, a
table, or JSON records), and `validate` loads properties from a file, the environment
and `--set` overrides, resolves them, and prints the effective and derived settings, or
what is wrong with them (as text or JSON).

A run reads its words first; help ends it with status 0 and a refusal with status 2.
Then logging is set up at the requested level and format (a level that cannot be read
ends the run with status 2), and the command runs. Log records go to standard error. A
malformed override ends the run with status 2. A configuration that fails validation
or gives an inconsistent consumer view is reported on standard output with status 2. A
failure that escapes the command ends the run with the status of its kind: a
configuration error shows its message (or its kind, when the message is blank) with
status 2; anything else shows a traceback with status 3.
-/

namespace RestConfig.Console

open RestConfig.Text

def commonOptions : List OptionSpec :=
  [{ names := ["--log-level"], dest := "log_level", kind := .store,
     help := "Log level for diagnostics written to stderr (default: WARNING).",
     default := .given (.word "WARNING") },
   { names := ["--log-format"], dest := "log_format", kind := .store,
     choices := some ["json", "text"],
     help := "Diagnostic log format (default: json).", default := .given (.word "json") },
   { names := ["--no-color"], dest := "no_color", kind := .switch,
     help := "Disable colored output (also respects NO_COLOR env var).",
     default := .switch false }]

def docsCommand : Command where
  name := "docs"
  summary := "Print the configuration reference"
  description :=
    "Print every configuration key with its type, default and documentation.\n\n" ++
    "Examples:\n" ++
    "  kafka-rest-config docs\n" ++
    "  kafka-rest-config docs --format table\n"
  options := helpOption :: commonOptions ++
    [{ names := ["--format"], dest := "output_format", kind := .store,
       choices := some ["rst", "table", "json"],
       help := "Output format (default: rst).", default := .given (.word "rst") }]

def validateCommand : Command where
  name := "validate"
  summary := "Resolve properties and show effective configuration"
  description :=
    "Load properties from a file, KAFKA_REST_* env vars and --set overrides,\n" ++
    "validate them and print effective and derived values. Passwords are hidden.\n\n" ++
    "Examples:\n" ++
    "  kafka-rest-config validate --config kafka-rest.properties\n" ++
    "  kafka-rest-config validate --set consumer.request.timeout.ms=5000 --json\n"
  options := helpOption :: commonOptions ++
    [{ names := ["--config"], dest := "config_path", kind := .store,
       help := "Path to a .properties, .yaml or .toml file." },
     { names := ["--set"], dest := "overrides", kind := .collect, metavar := some "KEY=VALUE",
       help := "Property override; may be repeated.", default := .collected [] },
     { names := ["--no-env"], dest := "no_env", kind := .switch,
       help := "Ignore KAFKA_REST_* environment variables.", default := .switch false },
     { names := ["--json"], dest := "json", kind := .switch,
       help := "Emit JSON output", default := .switch false }]

def restConfigProgram : Program where
  name := "kafka-rest-config"
  description :=
    "kafka-rest simple-consumer configuration tooling.\n\n" ++
    "Common workflows:\n" ++
    "  kafka-rest-config docs                      Print the configuration reference\n" ++
    "  kafka-rest-config validate --config x.properties\n" ++
    "                                              Resolve and print effective values\n"
  options := [helpOption]
  commandDest := "command"
  commands := [docsCommand, validateCommand]

/-- What a run is given: its words, the files it can read, its environment, the home
directory of its account, the room it starts with (see `RestConfig.Depth`), the width of
its terminal in columns, and the time stamped on its log records. -/
structure Request where
  words : List String
  files : Files.Tree
  environ : List (String × String)
  accountHome : String
  room : Nat
  columns : Nat
  now : Value
  deriving Inhabited

/-- What a run leaves: its status and what it wrote to standard output and standard
error. -/
structure Outcome where
  status : ExitStatus
  out : String
  err : String
  deriving Inhabited

/-- How a command ends. -/
inductive Ending where
  | finished (status : ExitStatus) (out : String)
  | refused (message : String)
  | failed (f : Failure)
  deriving Inhabited

/-- What a command does: the log events it raises, in order, and how it ends. -/
structure Effect where
  events : List Log.Event
  ending : Ending
  deriving Inhabited

def jsonLine (v : Value) : Except Failure String := (· ++ "\n") <$> Json.write (some 2) v

def docsText (format : String) : Except Failure String :=
  let schema := Proxy.defaultSchema
  match format with
  | "json" => do
    let records ← schema.records
    jsonLine (.map [(.str "command", .str "docs"),
      (.str "keys", .list (records.map DocRecord.toValue))])
  | "table" => do
    let rows ← schema.rows
    pure (Piece.table { headers := docHeaders, rows, title := none, maxWidth := some 72 }).text
  | _ => schema.rst

/-- A value given on the command line as a dynamic value: a word is a text, and the empty
list left by a dropped marker is an empty list. -/
def Given.toValue : Given → Value
  | .word w => .str w
  | .emptyList => .list []

/-- Reads `--set` values into overrides, in order: each word splits at its first `=` into a
name (trimmed) and a value, and a later value for a name replaces an earlier one. A word
without `=` or with a blank name is refused, and an empty list, which cannot be split,
fails. -/
def readOverrides : List Given → Except Ending (List (String × Value)) :=
  List.foldlM (fun acc given =>
    match given with
    | .emptyList => .error (.failed (.missingAttribute "'list' object has no attribute 'partition'"))
    | .word item =>
      let cs := item.toList
      let name := trim (String.ofList (cs.takeWhile (· ≠ '=')))
      if !cs.contains '=' || name.isEmpty then
        .error (.refused ("invalid --set value " ++ quote item ++ "; expected KEY=VALUE"))
      else .ok (Source.setValue acc name (.str (String.ofList ((cs.dropWhile (· ≠ '=')).drop 1)))))
    []

/-- The file `--config` names: none when it is not given, and a failure when it was given
an empty list, which is not a path. -/
def configPath (inv : Invocation) : Except Failure (Option String) :=
  match inv.given? "config_path" with
  | some (.word p) => .ok (some p)
  | some .emptyList => .error (.wrongType "expected str, bytes or os.PathLike object, not list")
  | none => .ok none

def ignoredEvent (now : Value) (name : String) : Log.Event :=
  { logger := "kafka_rest.config.definition", level := .int 10, msg := .str "config_key_ignored",
    args := [], extra := [("key", .str name)], created := now }

/-- The record of a resolved configuration: how many keys it has and how many properties
were supplied. -/
def resolvedEvent (now : Value) (keys supplied : Nat) : Log.Event :=
  { logger := "kafka_rest.config.simple_consumer", level := .int 20,
    msg := .str "simple_consumer_config_resolved", args := [],
    extra := [("keys", .int keys), ("supplied", .int supplied)], created := now }

def issuesText (asJson : Bool) (heading : String) (issues : List (Option String × String)) :
    Except Failure String :=
  if asJson then
    jsonLine (.map [(.str "command", .str "validate"), (.str "valid", .bool false),
      (.str "issues", .list (issues.map fun (k, m) =>
        .map [(.str "key", (k.map Value.str).getD .none), (.str "message", .str m)]))])
  else
    .ok (String.join ((Piece.heading heading :: issues.map fun (k, m) =>
      Piece.failure (match k with
        | some key => key ++ ": " ++ m
        | none => m)).map Piece.text))

def resolvedText (asJson : Bool) (r : Proxy.Resolved) : Except Failure String :=
  let (values, derived) := r.report false
  let derived := derived.mergeSort fun a b => decide (a.1 ≤ b.1)
  if asJson then
    jsonLine (.map [(.str "command", .str "validate"), (.str "valid", .bool true),
      (.str "values", .map (values.map fun (k, v) => (.str k, v))),
      (.str "derived", .map (derived.map fun (k, i) => (.str k, .int i)))])
  else do
    let properties ← r.properties
    pure (String.join ((Piece.heading "Effective configuration" ::
      properties.map (fun (k, v) => Piece.pair ("  " ++ k) v) ++
      Piece.section "Derived consumer settings" ::
      derived.map fun (k, i) => Piece.pair ("  " ++ k) (toString i)).map Piece.text))

/-- How a command ends with a status and what it prints, or with the failure of printing it. -/
def Ending.ofText (status : ExitStatus) : Except Failure String → Ending
  | .ok out => .finished status out
  | .error f => .failed f

/-- Runs `validate`, which loads and resolves its properties three calls below the run's start;
resolution reads the supplied values five calls below that. -/
def validate (inv : Invocation) (req : Request) : Effect :=
  let asJson := inv.isOn "json"
  match readOverrides (inv.collected "overrides") with
  | .error ending => ⟨[], ending⟩
  | .ok overrides =>
    let environ := if inv.isOn "no_env" then [] else req.environ.map fun (k, v) => (k, Value.str v)
    match configPath inv >>= fun path =>
        Source.load req.files ((req.environ.lookup "HOME").getD req.accountHome) (req.room - 3)
          path environ overrides Environment.defaultLead with
    | .error f => ⟨[], .failed f⟩
    | .ok props =>
      let schema := Proxy.defaultSchema
      let ignored := ((props.map (·.1)).filter fun n => !schema.names.contains n).mergeSort
        fun a b => decide (a ≤ b)
      let events := ignored.map (ignoredEvent req.now)
      match Proxy.resolve (req.room - 8) schema props with
      | .error (.invalidConfig issues) =>
        ⟨events, .ofText .configError
          (issuesText asJson "Invalid configuration" (issues.map fun i => (some i.path, i.message)))⟩
      | .error (.badConsumer m) =>
        ⟨events, .ofText .configError
          (issuesText asJson "Invalid consumer configuration" [(none, m)])⟩
      | .error f => ⟨events, .failed f⟩
      | .ok r =>
        ⟨events ++ [resolvedEvent req.now r.settings.length props.length],
          .ofText .success (resolvedText asJson r)⟩

def perform (inv : Invocation) (req : Request) : Effect :=
  if inv.command.name == validateCommand.name then validate inv req
  else match docsText ((inv.word? "output_format").getD "rst") with
    | .ok text => ⟨[], .finished .success text⟩
    | .error f => ⟨[], .failed f⟩

def Stop.outcome : Stop → Outcome
  | .help text => ⟨.success, text, ""⟩
  | .refused usage name message => ⟨.configError, "", usage ++ name ++ ": error: " ++ message ++ "\n"⟩

/-- What standard error shows for a failure that escapes a command, with the status it
ends the run with. -/
def escaped (f : Failure) : ExitStatus × String :=
  match statusOfKinds [f.kind] with
  | .configError =>
    let m := trim f.message
    (.configError, (if m.isEmpty then f.kind else m) ++ "\n")
  | s => (s, "Traceback (most recent call last):\n" ++ f.kind ++ ": " ++ f.message ++ "\n")

def run (req : Request) : Outcome :=
  match restConfigProgram.read (layoutWidth req.columns) req.words with
  | .error stop => stop.outcome
  | .ok inv =>
    let setup : Log.Setup :=
      { loggerName := "kafka_rest",
        level := ((inv.given? "log_level").getD (.word "WARNING")).toValue,
        format := ((inv.given? "log_format").getD (.word "json")).toValue }
    match Log.Registry.empty.setup setup with
    | (_, .error f) => ⟨.configError, "", "error: " ++ f.message ++ "\n"⟩
    | (reg, .ok _) =>
      let effect := perform inv req
      let (_, logged) := reg.emitAll effect.events
      match effect.ending with
      | .finished status out => ⟨status, out, logged⟩
      | .refused message => ⟨.configError, "", logged ++ "error: " ++ message ++ "\n"⟩
      | .failed f =>
        let (status, text) := escaped f
        ⟨status, "", logged ++ text⟩

end RestConfig.Console

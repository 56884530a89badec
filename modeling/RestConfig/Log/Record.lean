import RestConfig.Log.Level
import RestConfig.Log.Redact
import RestConfig.Value.Interpolate
import RestConfig.Value.Json
import RestConfig.Instant

/-!
# Log records and their lines

A record is one logged event: the logger's name, the level and its printed name, a message
template with its arguments, the time it was created and any extra attributes. Its
message is the template's display with the arguments interpolated, when there are any.

A record is written in one of two line formats. The *JSON line* is an object with sorted
keys: `timestamp` (the creation time to the millisecond, in UTC), `level`, `logger`,
`message` (with secrets in the text redacted), when the record has extra attributes
`fields` (their JSON-like forms, redacted), and when it carries a failure `exception` (the
failure's traceback text, redacted). The *text line* is the creation time, the
level name, the logger's name and the message, separated by blanks, with nothing
redacted.
-/

namespace RestConfig.Log

/-- The attributes every record carries. An event may not bring extra attributes of these
names. -/
def standardAttributes : List String :=
  ["name", "msg", "args", "levelname", "levelno", "pathname", "filename", "module",
   "exc_info", "exc_text", "stack_info", "lineno", "funcName", "created", "msecs",
   "relativeCreated", "thread", "threadName", "processName", "process"]

/-- Attribute names that are never fields of a line: the standard ones and those that
formatting adds. -/
def reservedAttributes : List String := standardAttributes ++ ["message", "asctime", "taskName"]

/-- The two line formats. -/
inductive LineFormat where
  | json
  | text
  deriving DecidableEq, Inhabited

def LineFormat.ofValue : Value → Except Failure LineFormat
  | .str "json" => .ok .json
  | .str "text" => .ok .text
  | v => .error (.badArgument ("unsupported log format " ++ v.literal))

/-- One logged event. -/
structure Record where
  name : Value
  level : Value
  levelName : Value
  msg : Value
  args : Value
  created : Value
  extras : List (String × Value)
  exception : Option String
  deriving Inhabited

/-- The arguments a record keeps: a single non-empty mapping stands for its entries,
anything else is a tuple. -/
def recordArgs : List Value → Value
  | [.map entries] => if entries.isEmpty then .tuple [.map entries] else .map entries
  | args => .tuple args

def Record.make (name : Value) (level : Value) (msg : Value) (args : List Value)
    (created : Value) : Record :=
  { name, level, levelName := Level.label level, msg, args := recordArgs args, created,
    extras := [], exception := none }

/-- Sets an attribute: one that a line shows replaces it, any other becomes or replaces an
extra attribute. -/
def Record.set (r : Record) (key : String) (v : Value) : Record :=
  match key with
  | "name" => { r with name := v }
  | "msg" => { r with msg := v }
  | "args" => { r with args := v }
  | "levelname" => { r with levelName := v }
  | "levelno" => { r with level := v }
  | "created" => { r with created := v }
  | _ =>
    if r.extras.any (·.1 == key) then
      { r with extras := r.extras.map fun (k, old) => if k == key then (k, v) else (k, old) }
    else { r with extras := r.extras ++ [(key, v)] }

def Record.setAll (r : Record) (attrs : List (String × Value)) : Record :=
  attrs.foldl (fun r (k, v) => r.set k v) r

/-- The message: the template written as text, with the arguments interpolated when there are
any. -/
def Record.message (r : Record) : Except Failure String := do
  let template ← r.msg.toText
  if r.args.truthy then Interpolate.apply template r.args else pure template

def Record.fields (r : Record) : List (String × Value) :=
  r.extras.filter fun (k, _) => !reservedAttributes.contains k && !k.startsWith "_"

/-- The fields of a record's JSON line: the JSON-like forms of its extra attributes,
redacted. -/
def Record.fieldsValue (r : Record) : Value :=
  Redact.redact (Redact.normalize (.map (r.fields.map fun (k, v) => (.str k, v))))

def Record.event (r : Record) (stamp message : String) : List (String × Value) :=
  let base : List (String × Value) :=
    [("timestamp", .str stamp), ("level", r.levelName), ("logger", r.name),
     ("message", .str (Redact.redactText message))]
  let withFields := if r.fields.isEmpty then base else base ++ [("fields", r.fieldsValue)]
  match r.exception with
  | some text => withFields ++ [("exception", Value.str (Redact.redactText text))]
  | none => withFields

/-- The JSON line of a record. The extra attributes are normalized before the line is
written, and writing refuses an integer too long to write. -/
def Record.jsonLine (r : Record) : Except Failure String := do
  let stamp ← Instant.isoOfValue r.created
  let message ← r.message
  unless Redact.normalizable (.map (r.fields.map fun (k, v) => (.str k, v))) do
    throw writeLimitFailure
  Json.write none (.map ((r.event stamp message).map fun (k, v) => (.str k, v)))

def Record.textLine (r : Record) (asctime : String) : Except Failure String := do
  let message ← r.message
  let level ← r.levelName.toText
  let name ← r.name.toText
  pure (asctime ++ " " ++ level ++ " " ++ name ++ " " ++ message)

end RestConfig.Log

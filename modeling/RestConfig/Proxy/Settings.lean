import RestConfig.Proxy.Consumer
import RestConfig.Proxy.Keys

/-!
# Resolved proxy settings

Resolution is all or nothing: the properties are validated against the schema (every
issue reported at once), and only then is the legacy consumer view built from the same
properties with its required ids blanked. The resolved record keeps the settings, the
properties exactly as supplied and the consumer view; it offers generic and typed
look-ups, the proxy's named accessors, a report with secrets hidden or shown, and the
settings rendered back to property texts.
-/

namespace RestConfig.Proxy

/-- A resolved proxy configuration. -/
structure Resolved where
  schema : Schema
  settings : Settings
  supplied : Props
  consumer : ConsumerView
  deriving Inhabited

/-- Resolves properties against a schema, reading supplied values with a room, then builds
the consumer view, whose readers sit two calls less deep. -/
def resolve (room : Nat) (schema : Schema) (props : Props) : Except Failure Resolved := do
  let settings ← schema.parse room props
  let consumer ← ConsumerView.ofProps (room + 2) (consumerProps props)
  pure { schema, settings, supplied := props, consumer }

/-- The shape a typed look-up expects. -/
inductive Shape where
  | whole
  | text
  | flag
  | items
  | secret
  deriving DecidableEq

def Shape.name : Shape → String
  | .whole => "int"
  | .text => "str"
  | .flag => "bool"
  | .items => "tuple"
  | .secret => "Password"

def Shape.holds : Shape → Setting → Bool
  | .whole, .whole _ | .text, .text _ | .flag, .flag _ | .items, .items _
  | .secret, .secret _ => true
  | _, _ => false

namespace Resolved

def get (r : Resolved) (name : String) : Except Failure Setting :=
  match r.settings.find? (·.1 == name) with
  | some (_, s) => .ok s
  | none => .error (.unknownName ("unknown configuration " ++ Text.quote name))

def typed (r : Resolved) (name : String) (shape : Shape) : Except Failure Setting := do
  let s ← r.get name
  if shape.holds s then pure s
  else throw (.wrongType ("configuration " ++ Text.quote name ++ " is not a " ++ shape.name))

def getWhole (r : Resolved) (name : String) : Except Failure Int := do
  match ← r.typed name .whole with
  | .whole i => pure i
  | _ => throw (.wrongType name)

def getText (r : Resolved) (name : String) : Except Failure String := do
  match ← r.typed name .text with
  | .text s => pure s
  | _ => throw (.wrongType name)

def id (r : Resolved) : Except Failure String := r.getText "id"

def proxyAccessors : List (String × String × Shape) :=
  [("id", "id", .text), ("consumer_max_threads", "consumer.threads", .whole),
   ("zookeeper_connect", "zookeeper.connect", .text),
   ("schema_registry_url", "schema.registry.url", .text),
   ("proxy_fetch_min_bytes", "fetch.min.bytes", .whole),
   ("consumer_iterator_timeout_ms", "consumer.iterator.timeout.ms", .whole),
   ("consumer_iterator_backoff_ms", "consumer.iterator.backoff.ms", .whole),
   ("consumer_request_timeout_ms", "consumer.request.timeout.ms", .whole),
   ("consumer_request_max_bytes", "consumer.request.max.bytes", .whole),
   ("consumer_instance_timeout_ms", "consumer.instance.timeout.ms", .whole),
   ("simple_consumer_max_pool_size", "simpleconsumer.pool.size.max", .whole),
   ("simple_consumer_pool_timeout_ms", "simpleconsumer.pool.timeout.ms", .whole),
   ("client_zk_session_timeout_ms", "client.zk.session.timeout.ms", .whole)]

/-- Every named accessor with what it answers: the proxy accessors and the derived
consumer settings. -/
def accessors (r : Resolved) : List (String × Except Failure Value) :=
  proxyAccessors.map (fun (label, key, shape) => (label, (r.typed key shape).map Setting.toValue)) ++
  r.consumer.derived.map fun (label, i) => (label, .ok (.int i))

def sorted (r : Resolved) : Settings :=
  r.settings.mergeSort fun a b => decide (a.1 ≤ b.1)

def reportValue (reveal : Bool) : Setting → Value
  | .secret s => if reveal then .str s else .str hiddenText
  | .items xs => .list (xs.map .str)
  | s => s.toValue

def report (r : Resolved) (reveal : Bool) : List (String × Value) × List (String × Int) :=
  (r.sorted.map fun (n, s) => (n, reportValue reveal s), r.consumer.derived)

def properties (r : Resolved) : Except Failure (List (String × String)) :=
  r.sorted.mapM fun (n, s) => (n, ·) <$> s.render

def describe (r : Resolved) : Except Failure String := do
  let i ← r.id
  pure ("SimpleConsumerConfig(id=" ++ Text.quote i ++ ", keys=" ++ toString r.settings.length ++ ")")

def immutable : Failure := .immutable "SimpleConsumerConfig is immutable"

end Resolved

end RestConfig.Proxy

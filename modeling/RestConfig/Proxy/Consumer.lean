import RestConfig.Schema.Basic

/-!
# The legacy consumer view

The proxy embeds the settings of a legacy consumer, read from the same property map
with rules of its own. `zookeeper.connect` and `group.id` must be present (any value,
even empty); the client id defaults to the group id; five numeric settings are read
leniently as 32-bit integers, each with its default; the offset reset policy defaults to
`largest`. Then, in this order: the fetch wait may not exceed the socket timeout, the
group id and the client id may hold only ASCII letters, digits, `.`, `_` and `-`, and
the reset policy must be `smallest` or `largest`. The first failing rule decides.

Every property the view reads is first written as text, with the room the view's readers have
(see `RestConfig.Value.Written`); a property that cannot be written fails the view at once.
-/

namespace RestConfig.Proxy

/-- The settings of the legacy consumer. -/
structure ConsumerView where
  zookeeperConnect : String
  groupId : String
  clientId : String
  autoOffsetReset : String
  socketTimeoutMs : Int
  socketReceiveBufferBytes : Int
  fetchMessageMaxBytes : Int
  fetchWaitMaxMs : Int
  fetchMinBytes : Int
  deriving Inhabited

/-- A present property written as text with a room, or a failure naming the missing
property. -/
def requireText (room : Nat) (props : Props) (name : String) : Except Failure String :=
  match props.get? name with
  | some v => v.textWithin room
  | none => .error (.badConsumer ("missing required property " ++ Text.quote name))

def textOr (room : Nat) (props : Props) (name default : String) : Except Failure String :=
  match props.get? name with
  | some v => v.textWithin room
  | none => .ok default

def fits32 (i : Int) : Bool := decide (-2147483648 ≤ i ∧ i ≤ 2147483647)

/-- A numeric property written as text with a room and read leniently as a 32-bit integer,
or its default. -/
def leniently (room : Nat) (props : Props) (name : String) (default : Int) : Except Failure Int :=
  match props.get? name with
  | none => .ok default
  | some v => do
    let raw := Text.trim (← v.textWithin room)
    match Reading.readInteger raw with
    | .value i =>
      if fits32 i then .ok i
      else .error (.badConsumer (name ++ " must be a 32-bit integer, got " ++ Text.quote raw))
    | _ => .error (.badConsumer (name ++ " must be an integer, got " ++ Text.quote raw))

def legalId (s : String) : Bool :=
  s.toList.all fun c => c.isAlphanum && c.toNat < 128 || c = '.' || c = '_' || c = '-'

def checkId (name value : String) : Except Failure Unit :=
  if legalId value then .ok ()
  else .error (.badConsumer (name ++ " " ++ Text.quote value ++
    " is illegal, contains a character other than ASCII alphanumerics, '.', '_' and '-'"))

/-- The legacy consumer view of a property map, its readers writing properties with a room. -/
def ConsumerView.ofProps (room : Nat) (props : Props) : Except Failure ConsumerView := do
  let zookeeperConnect ← requireText room props "zookeeper.connect"
  let groupId ← requireText room props "group.id"
  let clientId ← textOr room props "client.id" groupId
  let socketTimeoutMs ← leniently room props "socket.timeout.ms" (30 * 1000)
  let socketReceiveBufferBytes ← leniently room props "socket.receive.buffer.bytes" (64 * 1024)
  let fetchMessageMaxBytes ← leniently room props "fetch.message.max.bytes" (1024 * 1024)
  let fetchWaitMaxMs ← leniently room props "fetch.wait.max.ms" 100
  let fetchMinBytes ← leniently room props "fetch.min.bytes" 1
  let autoOffsetReset ← textOr room props "auto.offset.reset" "largest"
  if fetchWaitMaxMs > socketTimeoutMs then
    throw (.badConsumer ("socket.timeout.ms should always be at least fetch.wait.max.ms " ++
      "to prevent unnecessary socket timeouts"))
  checkId "group.id" groupId
  checkId "client.id" clientId
  unless autoOffsetReset = "smallest" ∨ autoOffsetReset = "largest" do
    throw (.badConsumer ("wrong value " ++ Text.quote autoOffsetReset ++
      " of auto.offset.reset; valid values are smallest and largest"))
  pure { zookeeperConnect, groupId, clientId, autoOffsetReset, socketTimeoutMs,
         socketReceiveBufferBytes, fetchMessageMaxBytes, fetchWaitMaxMs, fetchMinBytes }

def ConsumerView.derived (c : ConsumerView) : List (String × Int) :=
  [("socket_timeout_ms", c.socketTimeoutMs),
   ("socket_receive_buffer_bytes", c.socketReceiveBufferBytes),
   ("fetch_message_max_bytes", c.fetchMessageMaxBytes),
   ("fetch_wait_max_ms", c.fetchWaitMaxMs),
   ("fetch_min_bytes", c.fetchMinBytes)]

def consumerProps (props : Props) : Props :=
  (props.set "zookeeper.connect" (.str "")).set "group.id" (.str "")

end RestConfig.Proxy

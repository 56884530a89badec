import RestConfig.Schema.Basic

/-!
# The proxy's published keys

The REST base schema (listeners, cross-origin headers, metrics, TLS) and the keys the
simple-consumer proxy adds on top of it. The published schema is the base extended by
the proxy's keys. Only `port`, the metrics and timeout keys, `authentication.method`,
`fetch.min.bytes` and `client.zk.session.timeout.ms` carry constraints.
-/

namespace RestConfig.Proxy

def plain (name : String) (kind : Kind) (default : Setting) (importance : Importance)
    (doc : String) : Key :=
  { name, kind, default := some default, importance, doc, constraint := none }

def constrained (name : String) (kind : Kind) (default : Setting) (importance : Importance)
    (doc : String) (c : Constraint) : Key :=
  { name, kind, default := some default, importance, doc, constraint := some c }

def atLeast (n : Int) : Constraint := .range (some (.int n)) none

def within (lo hi : Int) : Constraint := .range (some (.int lo)) (some (.int hi))

def restKeys : List Key := [
  plain "debug" .boolean (.flag false) .low
    ("Boolean indicating whether extra debugging information is generated in some " ++
     "error response entities."),
  constrained "port" .int (.whole 8082) .low
    "DEPRECATED: port to listen on for new connections. Use listeners instead."
    (within 0 65535),
  plain "listeners" .list (.items []) .high
    ("List of listeners. http and https are supported. Each listener must include " ++
     "the protocol, hostname, and port. For example: http://myhost:8080, " ++
     "https://0.0.0.0:8081"),
  plain "response.mediatype.preferred" .list (.items ["application/json"]) .high
    ("An ordered list of the server's preferred media types used for responses, " ++
     "from most preferred to least."),
  plain "response.mediatype.default" .string (.text "application/json") .high
    ("The default response media type that should be used if no specific types are " ++
     "requested in an Accept header."),
  plain "access.control.allow.origin" .string (.text "") .low
    "Value of the Access-Control-Allow-Origin response header",
  plain "access.control.allow.methods" .string (.text "") .low
    "Value of the Access-Control-Allow-Methods response header",
  plain "request.logger.name" .string (.text "kafka_rest.requests") .low
    "Name of the logger used to log requests.",
  plain "metrics.jmx.prefix" .string (.text "kafka.rest") .low
    "Prefix to apply to metric names for the default JMX reporter.",
  constrained "metrics.sample.window.ms" .long (.whole 30000) .low
    ("The metrics system maintains a configurable number of samples over a fixed " ++
     "window size. This configuration controls the size of the window.")
    (atLeast 0),
  constrained "metrics.num.samples" .int (.whole 2) .low
    "The number of samples maintained to compute metrics."
    (atLeast 1),
  constrained "shutdown.graceful.ms" .int (.whole 1000) .low
    ("Amount of time to wait after a shutdown request for outstanding requests to " ++
     "complete.")
    (atLeast 0),
  constrained "idle.timeout.ms" .long (.whole 30000) .low
    "The number of milliseconds before an idle connection is timed out."
    (atLeast 0),
  constrained "authentication.method" .string (.text "NONE") .low
    "Method of authentication. Must be BASIC to enable authentication."
    (.oneOf [.str "NONE", .str "BASIC"]),
  plain "ssl.keystore.location" .string (.text "") .high
    "Location of the keystore file to use for SSL. This is required for HTTPS.",
  plain "ssl.keystore.password" .password (.secret "") .high
    "The store password for the keystore file.",
  plain "ssl.key.password" .password (.secret "") .high
    "The password of the private key in the keystore file.",
  plain "ssl.truststore.location" .string (.text "") .high
    "Location of the trust store. Required only to authenticate HTTPS clients.",
  plain "ssl.truststore.password" .password (.secret "") .high
    "The store password for the trust store file."]

def consumerKeys : List Key := [
  plain "id" .string (.text "") .high
    ("Unique ID for this REST server instance. This is used in generating unique IDs " ++
     "for consumers that do not specify their ID. The ID is empty by default, which " ++
     "makes a single server setup easier to get up and running, but is not safe for " ++
     "multi-server deployments where automatic consumer IDs are used."),
  plain "consumer.threads" .int (.whole 50) .medium
    ("The maximum number of threads to run consumer requests on. The value of -1 " ++
     "denotes unbounded thread creation"),
  plain "zookeeper.connect" .string (.text "") .high
    ("NOTE: Only required when using v1 Consumer API's. Specifies the ZooKeeper " ++
     "connection string in the form hostname:port where host and port are the host " ++
     "and port of a ZooKeeper server. To allow connecting through other ZooKeeper " ++
     "nodes when that ZooKeeper machine is down you can also specify multiple hosts " ++
     "in the form hostname1:port1,hostname2:port2,hostname3:port3.\n\n" ++
     "The server may also have a ZooKeeper chroot path as part of its ZooKeeper " ++
     "connection string which puts its data under some path in the global ZooKeeper " ++
     "namespace. If so the consumer should use the same chroot path in its " ++
     "connection string. For example to give a chroot path of /chroot/path you would " ++
     "give the connection string as " ++
     "hostname1:port1,hostname2:port2,hostname3:port3/chroot/path."),
  plain "schema.registry.url" .string (.text "http://localhost:8081") .high
    "The base URL for the schema registry that should be used by the Avro serializer.",
  constrained "fetch.min.bytes" .int (.whole (-1)) .low
    ("Minimum bytes of records for the proxy to accumulate before returning a " ++
     "response to a consumer request. The special sentinel value of -1 disables this " ++
     "functionality.")
    (within (-1) 10000000),
  plain "consumer.iterator.timeout.ms" .int (.whole 1) .low
    ("Timeout for blocking consumer iterator operations. This should be set to a " ++
     "small enough value that it is possible to effectively peek() on the iterator."),
  plain "consumer.iterator.backoff.ms" .int (.whole 50) .low
    ("Amount of time to backoff when an iterator runs out of data. If a consumer has " ++
     "a dedicated worker thread, this is effectively the maximum error for the entire " ++
     "request timeout. It should be small enough to closely target the timeout, but " ++
     "large enough to avoid busy waiting."),
  plain "consumer.request.timeout.ms" .int (.whole 1000) .medium
    ("The maximum total time to wait for messages for a request if the maximum number " ++
     "of messages has not yet been reached."),
  plain "consumer.request.max.bytes" .long (.whole (64 * 1024 * 1024)) .medium
    ("Maximum number of bytes in unencoded message keys and values returned by a " ++
     "single request. This can be used by administrators to limit the memory used by " ++
     "a single consumer and to control the memory usage required to decode responses " ++
     "on clients that cannot perform a streaming decode. Note that the actual payload " ++
     "will be larger due to overhead from base64 encoding the response data and from " ++
     "JSON encoding the entire response."),
  plain "consumer.instance.timeout.ms" .int (.whole 300000) .low
    "Amount of idle time before a consumer instance is automatically destroyed.",
  plain "simpleconsumer.pool.size.max" .int (.whole 25) .medium
    ("Maximum number of SimpleConsumers that can be instantiated per broker. If 0, " ++
     "then the pool size is not limited."),
  plain "simpleconsumer.pool.timeout.ms" .int (.whole 1000) .low
    ("Amount of time to wait for an available SimpleConsumer from the pool before " ++
     "failing. Use 0 for no timeout"),
  constrained "client.zk.session.timeout.ms" .int (.whole 30000) .low
    "Zookeeper session timeout"
    (atLeast 0)]

def restSchema : Schema := Schema.ofKeys restKeys

def withConsumerKeys (base : Schema) : Schema := base.extend consumerKeys

def defaultSchema : Schema := withConsumerKeys restSchema

end RestConfig.Proxy

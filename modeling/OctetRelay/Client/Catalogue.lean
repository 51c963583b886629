/-
# The properties that clients have

Some properties belong to a client as a whole and some to the topics it uses; a
name is looked for among the former first.  A few properties have a second
name, which stands for the first.

Source: `SPEC_FULL.md` 11, the properties passed on verbatim; the names, ranges
and choices by which a client checks them.
-/

import OctetRelay.Client.Property

namespace OctetRelay
namespace Client
namespace Catalogue

/-- A property with a text that is empty at first. -/
def text (name : String) (lacks : Option Ability := none) : Property :=
  { name, kind := .text none .any, lacks }

/-- A property with a text that is known at first. -/
def known (name standard : String) (rule : TextRule := .any) : Property :=
  { name, kind := .text (some standard) rule }

/-- A property that is on or off. -/
def flag (name : String) (lacks : Option Ability := none) : Property :=
  { name, kind := .flag, lacks }

/-- A property with a number of a range. -/
def integer (name : String) (low high : Int) : Property :=
  { name, kind := .integer low high [] }

/-- A property with one of some words. -/
def choice (name : String) (words : List String) (lacks : Option Ability := none) : Property :=
  { name, kind := .choice (words.map fun word => [⟨word, none⟩]), lacks }

/-- A property that is a hook. -/
def hook (name : String) (lacks : Option Ability := none) : Property :=
  { name, kind := .dedicated, lacks }

/-- A property that only the client itself sets. -/
def internal (name : String) (lacks : Option Ability := none) : Property :=
  { name, kind := .internal, lacks }

/-- The greatest integer of 32 bits. -/
def most : Int := 2147483647

/-- The parts of a client whose work can be logged. -/
def debugContexts : List String :=
  ["generic", "broker", "topic", "metadata", "feature", "queue", "msg", "protocol", "cgrp",
   "security", "fetch", "interceptor", "plugin", "consumer", "admin", "eos", "mock", "assignor",
   "conf", "telemetry"]

/-- The abilities of clients. -/
def features : List Word :=
  [⟨"gzip", none⟩, ⟨"snappy", none⟩, ⟨"ssl", some .encryption⟩, ⟨"sasl", none⟩, ⟨"regex", none⟩,
   ⟨"lz4", none⟩, ⟨"sasl_gssapi", some .tickets⟩, ⟨"sasl_plain", none⟩,
   ⟨"sasl_scram", some .encryption⟩, ⟨"plugins", none⟩, ⟨"zstd", some .zstandard⟩,
   ⟨"sasl_oauthbearer", some .encryption⟩, ⟨"http", some .transfer⟩, ⟨"oidc", some .tokens⟩]

/-- The ways to compress messages. -/
def compressions : List (List Word) :=
  [[⟨"none", none⟩], [⟨"gzip", none⟩], [⟨"snappy", none⟩], [⟨"lz4", none⟩],
   [⟨"zstd", some .zstandard⟩]]

/-- The ways to protect a connection. -/
def protections : List (List Word) :=
  [[⟨"plaintext", none⟩], [⟨"ssl", some .encryption⟩], [⟨"sasl_plaintext", none⟩],
   [⟨"sasl_ssl", some .encryption⟩]]

/-- How a ticket is renewed. -/
def ticketCommand : String :=
  "kinit -R -t \"%\x7bsasl.kerberos.keytab\x7d\" -k %\x7bsasl.kerberos.principal\x7d || "
    ++ "kinit -t \"%\x7bsasl.kerberos.keytab\x7d\" -k %\x7bsasl.kerberos.principal\x7d"

/-- The properties of every client. -/
def shared : List Property :=
  [{ name := "builtin.features", kind := .flags features true none },
   known "client.id" "rdkafka",
   known "client.software.name" "librdkafka",
   text "client.software.version",
   text "metadata.broker.list",
   integer "message.max.bytes" 1000 1000000000,
   integer "message.copy.max.bytes" 0 1000000000,
   integer "receive.message.max.bytes" 1000 most,
   integer "max.in.flight.requests.per.connection" 1 1000000,
   choice "metadata.recovery.strategy" ["none", "rebootstrap"],
   integer "metadata.recovery.rebootstrap.trigger.ms" 0 most,
   integer "metadata.request.timeout.ms" 10 900000,
   integer "topic.metadata.refresh.interval.ms" (-1) 3600000,
   integer "metadata.max.age.ms" 1 86400000,
   integer "topic.metadata.refresh.fast.interval.ms" 1 60000,
   integer "topic.metadata.refresh.fast.cnt" 0 1000,
   flag "topic.metadata.refresh.sparse",
   integer "topic.metadata.propagation.max.ms" 0 3600000,
   { name := "topic.blacklist", kind := .patterns },
   { name := "debug"
     kind := .flags (debugContexts.map fun name => ⟨name, none⟩) false (some "all") },
   integer "socket.timeout.ms" 10 300000,
   integer "socket.blocking.max.ms" 1 60000,
   integer "socket.send.buffer.bytes" 0 100000000,
   integer "socket.receive.buffer.bytes" 0 100000000,
   flag "socket.keepalive.enable",
   flag "socket.nagle.disable",
   integer "socket.max.fails" 0 1000000,
   integer "broker.address.ttl" 0 86400000,
   choice "broker.address.family" ["any", "v4", "v6"],
   integer "socket.connection.setup.timeout.ms" 1000 most,
   integer "connections.max.idle.ms" 0 most,
   flag "enable.sparse.connections",
   integer "reconnect.backoff.jitter.ms" 0 3600000,
   integer "reconnect.backoff.ms" 0 3600000,
   integer "reconnect.backoff.max.ms" 0 3600000,
   integer "statistics.interval.ms" 0 86400000,
   integer "enabled_events" 0 most,
   integer "log_level" 0 7,
   flag "log.queue",
   flag "log.thread.name",
   flag "enable.random.seed",
   flag "log.connection.close",
   integer "internal.termination.signal" 0 128,
   flag "api.version.request",
   integer "api.version.request.timeout.ms" 1 300000,
   integer "api.version.fallback.ms" 0 604800000,
   known "broker.version.fallback" "0.10.0" .brokerVersion,
   flag "allow.auto.create.topics",
   choice "client.dns.lookup" ["use_all_dns_ips", "resolve_canonical_bootstrap_servers_only"],
   { name := "client.rack", kind := .verbatim "" },
   flag "enable.metrics.push",
   integer "retry.backoff.ms" 1 300000,
   integer "retry.backoff.max.ms" 1 300000,
   { name := "plugin.library.paths", kind := .libraries },
   internal "interceptors",
   integer "test.mock.num.brokers" 0 10000,
   integer "test.mock.broker.rtt" 0 3600000]

/-- The properties that protect a connection. -/
def security : List Property :=
  [{ name := "security.protocol", kind := .choice protections },
   text "ssl.cipher.suites" (some .encryption),
   text "ssl.curves.list" (some .namedCurves),
   text "ssl.sigalgs.list" (some .namedCurves),
   text "ssl.key.location" (some .encryption),
   text "ssl.key.password" (some .encryption),
   text "ssl.key.pem" (some .encryption),
   internal "ssl_key" (some .encryption),
   text "ssl.certificate.location" (some .encryption),
   text "ssl.certificate.pem" (some .encryption),
   internal "ssl_certificate" (some .encryption),
   text "ssl.ca.location" (some .encryption),
   text "ssl.ca.pem" (some .encryption),
   internal "ssl_ca" (some .encryption),
   text "ssl.ca.certificate.stores" (some .systemStores),
   text "ssl.crl.location" (some .encryption),
   text "ssl.keystore.location" (some .encryption),
   text "ssl.keystore.password" (some .encryption),
   text "ssl.providers" (some .providers),
   text "ssl.engine.location" (some .engines),
   text "ssl.engine.id" (some .engines),
   hook "ssl_engine_callback_data" (some .engines),
   flag "enable.ssl.certificate.verification" (some .encryption),
   choice "ssl.endpoint.identification.algorithm" ["none", "https"] (some .namedCurves),
   hook "ssl.certificate.verify_cb" (some .encryption),
   text "https.ca.location" (some .encryptedTransfer),
   text "https.ca.pem" (some .encryptedTransfer),
   known "sasl.mechanisms" "GSSAPI" .single,
   known "sasl.kerberos.service.name" "kafka",
   known "sasl.kerberos.principal" "kafkaclient",
   known "sasl.kerberos.kinit.cmd" ticketCommand,
   text "sasl.kerberos.keytab",
   integer "sasl.kerberos.min.time.before.relogin" 0 86400000,
   text "sasl.username",
   text "sasl.password",
   text "sasl.oauthbearer.config" (some .encryption),
   flag "enable.sasl.oauthbearer.unsecure.jwt" (some .encryption),
   hook "oauthbearer_token_refresh_cb" (some .encryption)]

/-- The properties of tokens. -/
def tokens : List Property :=
  ["method", "client.id", "client.secret", "scope", "extensions", "token.endpoint.url",
   "grant.type", "assertion.algorithm", "assertion.private.key.file",
   "assertion.private.key.passphrase", "assertion.private.key.pem", "assertion.file",
   "assertion.claim.aud", "assertion.claim.exp.seconds", "assertion.claim.iss",
   "assertion.claim.jti.include", "assertion.claim.nbf.seconds", "assertion.claim.sub",
   "assertion.jwt.template.file", "metadata.authentication.type"].map
    fun name => text ("sasl.oauthbearer." ++ name) (some .tokens)

/-- The properties that consumers read. -/
def consuming : List Property :=
  [text "group.id",
   text "group.instance.id",
   known "partition.assignment.strategy" "range,roundrobin",
   integer "session.timeout.ms" 1 3600000,
   integer "heartbeat.interval.ms" 1 3600000,
   { name := "group.protocol.type", kind := .verbatim "consumer" },
   choice "group.protocol" ["classic", "consumer"],
   text "group.remote.assignor",
   integer "coordinator.query.interval.ms" 1 3600000,
   integer "max.poll.interval.ms" 1 86400000,
   flag "enable.auto.commit",
   integer "auto.commit.interval.ms" 0 86400000,
   flag "enable.auto.offset.store",
   integer "queued.min.messages" 1 10000000,
   integer "queued.max.messages.kbytes" 1 2097151,
   integer "fetch.wait.max.ms" 0 300000,
   integer "fetch.queue.backoff.ms" 0 300000,
   integer "fetch.message.max.bytes" 1 1000000000,
   integer "fetch.max.bytes" 0 2147483135,
   integer "fetch.min.bytes" 1 100000000,
   integer "fetch.error.backoff.ms" 0 300000,
   choice "offset.store.method" ["none", "file", "broker"],
   choice "isolation.level" ["read_uncommitted", "read_committed"],
   flag "enable.partition.eof",
   flag "check.crcs"]

/-- The properties that producers read. -/
def producing : List Property :=
  [text "transactional.id",
   integer "transaction.timeout.ms" 1000 most,
   flag "enable.idempotence",
   flag "enable.gapless.guarantee",
   integer "queue.buffering.max.messages" 0 most,
   integer "queue.buffering.max.kbytes" 1 most,
   { name := "queue.buffering.max.ms", kind := .decimal 0 900000 },
   integer "message.send.max.retries" 0 most,
   integer "queue.buffering.backpressure.threshold" 1 1000000,
   { name := "compression.codec", kind := .choice compressions },
   integer "batch.num.messages" 1 1000000,
   integer "batch.size" 1 most,
   flag "delivery.report.only.error",
   integer "sticky.partitioning.linger.ms" 0 900000]

/-- The hooks of a client. -/
def hooks : List Property :=
  ["error_cb", "throttle_cb", "stats_cb", "log_cb", "background_event_cb", "socket_cb",
   "connect_cb", "closesocket_cb", "open_cb", "resolve_cb", "opaque", "default_topic_conf",
   "consume_cb", "rebalance_cb", "offset_commit_cb", "dr_cb", "dr_msg_cb"].map hook

/-- Where the handbook of the client library tells how to set up a protocol. -/
def handbook (protocol : String) : String :=
  "/".intercalate ["https:", "", "github.com", "confluentinc", "librdkafka", "wiki",
    "-".intercalate ["Using", protocol, "with", "librdkafka"]]

/-- The properties of other clients, which are answered with advice. -/
def foreign : List Property :=
  [{ name := "ssl.truststore.location"
     kind := .refused <| "Java TrustStores are not supported, use \x60ssl.ca.location\x60 and a "
       ++ "certificate file instead. See " ++ handbook "SSL" ++ " for more information." },
   { name := "sasl.jaas.config"
     kind := .refused <| "Java JAAS configuration is not supported, see " ++ handbook "SASL"
       ++ " for more information." }]

/-- The properties of a client as a whole. -/
def ofClient : List Property :=
  shared ++ security ++ tokens ++ consuming ++ producing ++ hooks ++ foreign

/-- The properties of topics. -/
def ofTopics : List Property :=
  [{ name := "request.required.acks", kind := .integer (-1) 1000 [("all", -1)] },
   integer "request.timeout.ms" 1 900000,
   integer "message.timeout.ms" 0 most,
   choice "queuing.strategy" ["fifo", "lifo"],
   flag "produce.offset.report",
   known "partitioner" "consistent_random" .partitioner,
   hook "partitioner_cb",
   hook "msg_order_cmp",
   hook "opaque",
   { name := "compression.codec", kind := .choice (compressions ++ [[⟨"inherit", none⟩]]) },
   integer "compression.level" (-1) 12,
   flag "auto.commit.enable",
   integer "auto.commit.interval.ms" 10 86400000,
   { name := "auto.offset.reset"
     kind := .choice
       [[⟨"smallest", none⟩, ⟨"earliest", none⟩, ⟨"beginning", none⟩],
        [⟨"largest", none⟩, ⟨"latest", none⟩, ⟨"end", none⟩], [⟨"error", none⟩]] },
   known "offset.store.path" ".",
   integer "offset.store.sync.interval.ms" (-1) 86400000,
   choice "offset.store.method" ["file", "broker"],
   integer "consume.callback.max.messages" 0 1000000]

/-- The second names of a client's properties. -/
def clientAliases : List (String × String) :=
  [("bootstrap.servers", "metadata.broker.list"),
   ("max.in.flight", "max.in.flight.requests.per.connection"),
   ("sasl.mechanism", "sasl.mechanisms"),
   ("sasl.oauthbearer.client.credentials.client.id", "sasl.oauthbearer.client.id"),
   ("sasl.oauthbearer.client.credentials.client.secret", "sasl.oauthbearer.client.secret"),
   ("max.partition.fetch.bytes", "fetch.message.max.bytes"),
   ("linger.ms", "queue.buffering.max.ms"),
   ("retries", "message.send.max.retries"),
   ("compression.type", "compression.codec")]

/-- The second names of the properties of topics. -/
def topicAliases : List (String × String) :=
  [("acks", "request.required.acks"),
   ("delivery.timeout.ms", "message.timeout.ms"),
   ("compression.type", "compression.codec"),
   ("enable.auto.commit", "auto.commit.enable")]

/-- The property of a name among others, which may be a second one. -/
def find? (properties : List Property) (aliases : List (String × String)) (name : String) :
    Option Property :=
  let first := (aliases.lookup name).getD name
  properties.find? fun property => property.name = first

/-- The property of a client as a whole. -/
def clientProperty? (name : String) : Option Property := find? ofClient clientAliases name

/-- The name of a topic's property, which may carry a mark in front. -/
def topicName (name : String) : String :=
  if "topic.".toList.isPrefixOf name.toList then String.ofList (name.toList.drop 6) else name

/-- The property of topics, whose name may carry the mark. -/
def topicProperty? (name : String) : Option Property :=
  find? ofTopics topicAliases (topicName name)

end Catalogue
end Client
end OctetRelay

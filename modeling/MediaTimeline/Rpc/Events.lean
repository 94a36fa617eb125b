import MediaTimeline.Rpc.Basic
import MediaTimeline.Events.Publisher

/-! Calls on event delivery: checking its settings, and making Redis and Kafka publishers and
publishing through them. Durations are given and shown in nanoseconds; secrets are never shown. -/

namespace MediaTimeline.Rpc

open JsonValue Events

def redisArg (j : JsonValue) : Reading RedisSettings := do
  pure {
    enabled := ← flag j "enabled", addr := ← str j "addr", password := ← str j "password",
    db := ← int j "db", channel := ← str j "channel", poolSize := ← int j "pool_size",
    dialTimeout := ← int j "dial_timeout_ns", readTimeout := ← int j "read_timeout_ns",
    writeTimeout := ← int j "write_timeout_ns" }

def kafkaArg (j : JsonValue) : Reading KafkaSettings := do
  pure {
    enabled := ← flag j "enabled", brokers := ← strs j "brokers", topic := ← str j "topic",
    requiredAcks := ← int j "required_acks", compression := ← str j "compression",
    batchSize := ← int j "batch_size", batchTimeout := ← int j "batch_timeout_ns",
    writeTimeout := ← int j "write_timeout_ns", tls := ← flag j "tls", tlsSkipVerify := ← flag j "tls_skip_verify",
    saslMechanism := ← str j "sasl_mechanism", saslUsername := ← str j "sasl_username",
    saslPassword := ← str j "sasl_password" }

def eventSettingsArg (j : JsonValue) : Reading EventSettings := do
  pure { enabled := ← flag j "enabled", types := ← strs j "types",
         redis := ← redisArg (j.get "redis"), kafka := ← kafkaArg (j.get "kafka") }

def eventSettings (c : EventSettings) : JsonValue :=
  .obj [("enabled", c.enabled), ("has_publishers", c.hasPublishers), ("types", texts c.types),
    ("redis", .obj [("enabled", c.redis.enabled), ("addr", c.redis.addr), ("db", c.redis.db),
      ("channel", c.redis.channel), ("pool_size", c.redis.poolSize), ("dial_timeout_ns", c.redis.dialTimeout),
      ("read_timeout_ns", c.redis.readTimeout), ("write_timeout_ns", c.redis.writeTimeout)]),
    ("kafka", .obj [("enabled", c.kafka.enabled),
      ("brokers", if c.kafka.brokers.isEmpty then .null else texts c.kafka.brokers),
      ("topic", c.kafka.topic), ("required_acks", c.kafka.requiredAcks), ("compression", c.kafka.compression),
      ("batch_size", c.kafka.batchSize), ("batch_timeout_ns", c.kafka.batchTimeout),
      ("write_timeout_ns", c.kafka.writeTimeout)])]

def eventSettingsCall (j : JsonValue) : Reading JsonValue := do
  if ← flag j "default" then return .obj [("config", eventSettings EventSettings.default)]
  let c ← eventSettingsArg j
  return .obj [("has_publishers_before", c.hasPublishers), ("config", eventSettings c.validate)]

/-- The address the stand-in Redis server of a call listens on; the call names
it `$redis`. -/
def standInRedis : String := "127.0.0.1:46379"

/-- The address the stand-in Kafka broker of a call listens on; the call names
it `$broker`. -/
def standInBroker : String := "127.0.0.1:49092"

def redisOnStandIn (c : RedisSettings) : RedisSettings :=
  { c with addr := c.addr.replace "$redis" standInRedis }

def kafkaOnStandIn (c : KafkaSettings) : KafkaSettings :=
  { c with brokers := c.brokers.map (·.replace "$broker" standInBroker) }

def standInFailure (e : String) : JsonValue :=
  failure ((e.replace standInRedis "$redis").replace standInBroker "$broker")

def redisCall (h : Host) (j : JsonValue) : Reading JsonValue := do
  match connectRedis h (redisOnStandIn (← redisArg (j.get "redis"))) with
  | .error e => return .obj [("new", standInFailure e)]
  | .ok () => return .obj [("name", "redis"), ("publish", .arr []), ("received", .arr [])]

def producerAnswer (t : String) : ProducerAnswer :=
  if t.startsWith "fail:" then .reject (String.ofList (t.toList.drop 5)) else .accept

/-- Makes a Kafka publisher, over a scripted producer when the call gives one,
and publishes the call's messages. -/
def kafkaCall (h : Host) (j : JsonValue) : Reading JsonValue := do
  match j.get "mock_producer" with
  | .null =>
    match connectKafka h (kafkaOnStandIn (← kafkaArg (j.get "kafka"))) with
    | .error e => return .obj [("new", standInFailure e)]
    | .ok () => return .obj [("name", "kafka"), ("publish", .arr [])]
  | _ =>
    let topic ← str j "topic"
    let mut p : ScriptedProducer := { answers := (← strs j "mock_producer").map producerAnswer,
                                      expectedTopic := ← str j "expect_topic" }
    let mut out : Array JsonValue := #[]
    for _ in ← arrOf j "publish" do
      let (r, p') := publishKafka p topic
      p := p'
      out := out.push (match r with | .ok () => ok | .error e => failure e)
    return .obj [("name", "kafka"), ("publish", .arr out.toList)]

def publishersCall (h : Host) (j : JsonValue) : Reading JsonValue := do
  let c ← eventSettingsArg j
  match connectAll h { c with redis := redisOnStandIn c.redis, kafka := kafkaOnStandIn c.kafka } with
  | .ok names => return .obj [("publishers", texts names)]
  | .error e => return standInFailure e

end MediaTimeline.Rpc

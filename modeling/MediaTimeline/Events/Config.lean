/-! Settings of event delivery. -/

namespace MediaTimeline.Events

/-- Settings of the Redis publisher. -/
structure RedisSettings where
  enabled : Bool := false
  addr : String := ""
  password : String := ""
  db : Int := 0
  channel : String := ""
  poolSize : Int := 0
  dialTimeout : Int := 0
  readTimeout : Int := 0
  writeTimeout : Int := 0
deriving Inhabited

/-- Settings of the Kafka publisher. -/
structure KafkaSettings where
  enabled : Bool := false
  brokers : List String := []
  topic : String := ""
  requiredAcks : Int := 0
  compression : String := ""
  batchSize : Int := 0
  batchTimeout : Int := 0
  writeTimeout : Int := 0
  tls : Bool := false
  tlsSkipVerify : Bool := false
  saslMechanism : String := ""
  saslUsername : String := ""
  saslPassword : String := ""
deriving Inhabited

/-- Settings of event delivery. -/
structure EventSettings where
  enabled : Bool := false
  types : List String := []
  redis : RedisSettings := {}
  kafka : KafkaSettings := {}
deriving Inhabited

def defaultChannel : String := "tams:events"

def defaultTopic : String := "tams-events"

def EventSettings.default : EventSettings := {
  redis := { addr := "localhost:6379", channel := defaultChannel, poolSize := 10,
             dialTimeout := 5000000000, readTimeout := 3000000000, writeTimeout := 3000000000 }
  kafka := { topic := defaultTopic, requiredAcks := 1, compression := "snappy", batchSize := 100,
             batchTimeout := 1000000000, writeTimeout := 10000000000 } }

def orText (v d : String) : String := if v.isEmpty then d else v

def orPositive (v d : Int) : Int := if v ≤ 0 then d else v

/-- The settings with their defaults filled in. -/
def EventSettings.validate (c : EventSettings) : EventSettings :=
  let d := EventSettings.default
  { c with
    redis := { c.redis with
      addr := orText c.redis.addr d.redis.addr, channel := orText c.redis.channel d.redis.channel,
      poolSize := orPositive c.redis.poolSize d.redis.poolSize,
      dialTimeout := orPositive c.redis.dialTimeout d.redis.dialTimeout,
      readTimeout := orPositive c.redis.readTimeout d.redis.readTimeout,
      writeTimeout := orPositive c.redis.writeTimeout d.redis.writeTimeout }
    kafka := { c.kafka with
      topic := orText c.kafka.topic d.kafka.topic,
      requiredAcks := if c.kafka.requiredAcks < -1 || c.kafka.requiredAcks > 1 then d.kafka.requiredAcks
        else c.kafka.requiredAcks,
      compression := orText c.kafka.compression d.kafka.compression,
      batchSize := orPositive c.kafka.batchSize d.kafka.batchSize,
      batchTimeout := orPositive c.kafka.batchTimeout d.kafka.batchTimeout,
      writeTimeout := orPositive c.kafka.writeTimeout d.kafka.writeTimeout } }

def EventSettings.hasPublishers (c : EventSettings) : Bool := c.redis.enabled || c.kafka.enabled

end MediaTimeline.Events

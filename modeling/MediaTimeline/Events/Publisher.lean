import MediaTimeline.Events.Config
import MediaTimeline.Host
import MediaTimeline.Host.Dial

/-! Publishers of events. -/

namespace MediaTimeline.Events

def connectRedis (h : Host) (c : RedisSettings) : Except String Unit :=
  if c.addr.isEmpty then .error "redis address is required"
  else .error ("redis ping failed: " ++ h.connectFailure "tcp" c.addr)

/-- What is wrong with the Kafka client settings, if anything: a user name
switches authentication on, which then needs a password. -/
def kafkaSettingsProblem (c : KafkaSettings) : Option String :=
  if !c.saslUsername.isEmpty && c.saslPassword.isEmpty then
    some "Net.SASL.Password must not be empty when SASL is enabled"
  else none

def connectKafka (h : Host) (c : KafkaSettings) : Except String Unit :=
  if c.brokers.isEmpty then .error "at least one Kafka broker is required"
  else match kafkaSettingsProblem c with
    | some p => .error ("kafka producer creation failed: kafka: invalid configuration (" ++ p ++ ")")
    | none => .error ("kafka producer creation failed: kafka: client has run out of available brokers to talk to: " ++
        "\n".intercalate (c.brokers.map (h.connectFailure "tcp")))

def connectAll (h : Host) (c : EventSettings) : Except String (List String) := do
  let c := c.validate
  let mut names := []
  if c.redis.enabled then
    connectRedis h c.redis
    names := names ++ ["redis"]
  if c.kafka.enabled then
    connectKafka h c.kafka
    names := names ++ ["kafka"]
  return names

/-- An answer a scripted producer gives to a message. -/
inductive ProducerAnswer where
  | accept
  | reject (message : String)
deriving Inhabited

/-- A producer that answers from a script. -/
structure ScriptedProducer where
  answers : List ProducerAnswer
  expectedTopic : String := ""
deriving Inhabited

def ScriptedProducer.send (p : ScriptedProducer) (topic : String) : Except String Unit × ScriptedProducer :=
  match p.answers with
  | [] => (.error "No more expectations set on this mock producer to handle the input message.", p)
  | a :: rest =>
    let p := { p with answers := rest }
    match a with
    | .reject m => (.error m, p)
    | .accept =>
      if !p.expectedTopic.isEmpty && topic != p.expectedTopic then (.error ("topic " ++ topic), p)
      else (.ok (), p)

def publishKafka (p : ScriptedProducer) (topic : String) : Except String Unit × ScriptedProducer :=
  let (r, p) := p.send (orText topic defaultTopic)
  (r.mapError ("kafka publish: " ++ ·), p)

end MediaTimeline.Events

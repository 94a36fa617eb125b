import MediaTimeline.Config.Cast
import MediaTimeline.Settings.Duration
import MediaTimeline.Events.Config
import MediaTimeline.Storage.Backend

/-! Decoding configured values into records of settings. -/

namespace MediaTimeline.Config

open Settings

/-- The failures met while decoding, and whether they were collected from the
parts of a record, list or table. -/
structure DecodeFailure where
  lines : List String
  collected : Bool
deriving Inhabited

def DecodeFailure.message (f : DecodeFailure) : String :=
  if f.collected then "decoding failed due to the following error(s):\n\n" ++ "\n".intercalate f.lines
  else "\n".intercalate f.lines

abbrev Decoding := Except DecodeFailure

def failAt {α : Type} (path message : String) : Decoding α := .error ⟨["'" ++ path ++ "' " ++ message], false⟩

def collected {α : Type} (value : α) (failures : List String) : Decoding α :=
  if failures.isEmpty then .ok value else .error ⟨failures, true⟩

def fieldPath (path key : String) : String := if path.isEmpty then key else path ++ "." ++ key

def itemPath (path index : String) : String := path ++ "[" ++ index ++ "]"

namespace ConfigValue

def typeName : ConfigValue → String
  | .list _ => "[]interface {}"
  | .table _ => "map[string]interface {}"
  | v => v.kindName

def unconvertible {α : Type} (path expected : String) (v : ConfigValue) : Decoding α :=
  failAt path ("expected type '" ++ expected ++ "', got unconvertible type '" ++ v.typeName ++ "'")

def fractionPositional (t : String) : String :=
  match readDecimal t with
  | .error _ => t
  | .ok d =>
    let m := d.digits.natAbs
    let ds := Nat.toDigits 10 m
    let body : List Char :=
      if 0 ≤ d.exponent then (if m = 0 then ['0'] else ds ++ List.replicate d.exponent.toNat '0')
      else
        let k := (-d.exponent).toNat
        let padded := List.replicate (k + 1 - min (k + 1) ds.length) '0' ++ ds
        let whole := padded.take (padded.length - k)
        let frac := ((padded.drop (padded.length - k)).reverse.dropWhile (· = '0')).reverse
        if frac.isEmpty then whole else whole ++ '.' :: frac
    (if d.digits < 0 then "-" else "") ++ String.ofList body

def takeText (expected path : String) (v : ConfigValue) (current : String) : Decoding String :=
  match v with
  | .null => .ok current
  | .text s => .ok s
  | .truth b => .ok (if b then "1" else "0")
  | .integer n => .ok (toString n)
  | .fraction t => .ok (fractionPositional t)
  | v => unconvertible path expected v

def readerFailure (reader : String) : NumberError → String
  | .malformed => reader ++ ": invalid syntax"
  | .outOfRange => reader ++ ": value out of range"

def takeInt (expected path : String) (v : ConfigValue) (current : Int) : Decoding Int :=
  match v with
  | .null => .ok current
  | .integer n => .ok n
  | .fraction t => .ok (fractionWhole t)
  | .truth b => .ok (if b then 1 else 0)
  | .text s =>
    match readInteger (if s.isEmpty then "0" else s) with
    | .ok n => .ok n
    | .error e => failAt path ("cannot parse value as '" ++ expected ++ "': " ++ readerFailure "strconv.ParseInt" e)
  | v => unconvertible path expected v

def takeBool (path : String) (v : ConfigValue) (current : Bool) : Decoding Bool :=
  match v with
  | .null => .ok current
  | .truth b => .ok b
  | .integer n => .ok (n != 0)
  | .fraction t => .ok (match readDecimal t with
    | .ok d => d.digits != 0
    | .error _ => false)
  | .text s =>
    match readBool s with
    | .ok b => .ok b
    | .error e =>
      if s.isEmpty then .ok false
      else failAt path ("cannot parse value as 'bool': " ++ readerFailure "strconv.ParseBool" e)
  | v => unconvertible path "bool" v

def durationFailure : DurationError → String
  | .malformed _ => "time: invalid duration"
  | .missingUnit _ => "time: missing unit in duration"
  | .unknownUnit _ _ => "time: unknown unit"

/-- Takes a value as a duration in nanoseconds; a text is read with its units. -/
def takeDuration (path : String) (v : ConfigValue) (current : Int) : Decoding Int :=
  match v with
  | .text s =>
    match readDuration s with
    | .ok d => .ok d
    | .error e => failAt path (durationFailure e)
  | v => takeInt "time.Duration" path v current

/-- The items a value stands for when a list is wanted: a list's items, the
comma-separated parts of a text, nothing for an empty table, else the value alone. -/
def asItems : ConfigValue → List ConfigValue
  | .list items => items
  | .text s => if s.isEmpty then [] else (s.splitOn ",").map .text
  | .table [] => []
  | v => [v]

/-- Takes a value as a list, each item by `take` from the item already there. -/
def takeList {α : Type} (zero : α) (take : String → ConfigValue → α → Decoding α) (path : String)
    (v : ConfigValue) (current : List α) : Decoding (List α) :=
  match v with
  | .null => .ok current
  | v =>
    let (out, failures) := (v.asItems.zipIdx).foldl (fun (out, failures) (item, i) =>
      match take (itemPath path (toString i)) item (current.getD i zero) with
      | .ok x => (out ++ [x], failures)
      | .error f => (out ++ [current.getD i zero], failures ++ f.lines)) ([], [])
    collected out failures

def takeTextEntries (path : String) (entries : List (String × ConfigValue)) (current : List (String × String)) :
    Decoding (List (String × String)) :=
  let (out, failures) := entries.foldl (fun (out, failures) (k, x) =>
    match takeText "string" (itemPath path k) x "" with
    | .ok s => ((out.filter (·.1 != k)) ++ [(k, s)], failures)
    | .error f => (out, failures ++ f.lines)) (current, [])
  collected out failures

/-- Takes a value as a table of texts; a list stands for the tables it holds. -/
def takeTextTable (path : String) (v : ConfigValue) (current : List (String × String)) :
    Decoding (List (String × String)) :=
  match v with
  | .null => .ok current
  | .table entries => takeTextEntries path entries current
  | .list items =>
    items.zipIdx.foldlM (fun out (item, i) => match item with
      | .table entries => takeTextEntries (itemPath path (toString i)) entries out
      | .null => .ok out
      | w => failAt (itemPath path (toString i)) ("expected a map or struct, got " ++ Text.quote w.kindName)) current
  | v => failAt path ("expected a map or struct, got " ++ Text.quote v.kindName)

end ConfigValue

/-- How a field of a record takes its entry. -/
structure FieldRule (α : Type) where
  key : String
  take : String → ConfigValue → α → Decoding α

/-- The entry of a table for a field: by its name, else by its name up to case. -/
def entryFor (entries : List (String × ConfigValue)) (key : String) : Option ConfigValue :=
  match entries.lookup key with
  | some v => some v
  | none => (entries.find? fun e => e.1.toLower == key.toLower).map (·.2)

def takeRecord {α : Type} (rules : List (FieldRule α)) (path : String) (v : ConfigValue) (current : α) :
    Decoding α :=
  match v with
  | .null => .ok current
  | .table entries =>
    let (out, failures) := rules.foldl (fun (out, failures) r =>
      match entryFor entries r.key with
      | none => (out, failures)
      | some x => match r.take (fieldPath path r.key) x out with
        | .ok o => (o, failures)
        | .error f => (out, failures ++ f.lines)) (current, [])
    collected out failures
  | v => failAt path ("expected a map or struct, got " ++ Text.quote v.kindName)

def textRule {α : Type} (key : String) (get : α → String) (set : String → α → α) : FieldRule α :=
  ⟨key, fun p v a => (ConfigValue.takeText "string" p v (get a)).map (set · a)⟩

def intRule {α : Type} (key : String) (get : α → Int) (set : Int → α → α) : FieldRule α :=
  ⟨key, fun p v a => (ConfigValue.takeInt "int" p v (get a)).map (set · a)⟩

def boolRule {α : Type} (key : String) (get : α → Bool) (set : Bool → α → α) : FieldRule α :=
  ⟨key, fun p v a => (ConfigValue.takeBool p v (get a)).map (set · a)⟩

def durationRule {α : Type} (key : String) (get : α → Int) (set : Int → α → α) : FieldRule α :=
  ⟨key, fun p v a => (ConfigValue.takeDuration p v (get a)).map (set · a)⟩

def textsRule {α : Type} (key : String) (get : α → List String) (set : List String → α → α) : FieldRule α :=
  ⟨key, fun p v a => (ConfigValue.takeList "" (ConfigValue.takeText "string") p v (get a)).map (set · a)⟩

open Events in
def redisRules : List (FieldRule RedisSettings) :=
  [boolRule "enabled" (·.enabled) fun x c => { c with enabled := x },
   textRule "addr" (·.addr) fun x c => { c with addr := x },
   textRule "password" (·.password) fun x c => { c with password := x },
   intRule "db" (·.db) fun x c => { c with db := x },
   textRule "channel" (·.channel) fun x c => { c with channel := x },
   intRule "pool_size" (·.poolSize) fun x c => { c with poolSize := x },
   durationRule "dial_timeout" (·.dialTimeout) fun x c => { c with dialTimeout := x },
   durationRule "read_timeout" (·.readTimeout) fun x c => { c with readTimeout := x },
   durationRule "write_timeout" (·.writeTimeout) fun x c => { c with writeTimeout := x }]

open Events in
def kafkaRules : List (FieldRule KafkaSettings) :=
  [boolRule "enabled" (·.enabled) fun x c => { c with enabled := x },
   textsRule "brokers" (·.brokers) fun x c => { c with brokers := x },
   textRule "topic" (·.topic) fun x c => { c with topic := x },
   intRule "required_acks" (·.requiredAcks) fun x c => { c with requiredAcks := x },
   textRule "compression" (·.compression) fun x c => { c with compression := x },
   intRule "batch_size" (·.batchSize) fun x c => { c with batchSize := x },
   durationRule "batch_timeout" (·.batchTimeout) fun x c => { c with batchTimeout := x },
   durationRule "write_timeout" (·.writeTimeout) fun x c => { c with writeTimeout := x },
   boolRule "tls" (·.tls) fun x c => { c with tls := x },
   boolRule "tls_skip_verify" (·.tlsSkipVerify) fun x c => { c with tlsSkipVerify := x },
   textRule "sasl_mechanism" (·.saslMechanism) fun x c => { c with saslMechanism := x },
   textRule "sasl_username" (·.saslUsername) fun x c => { c with saslUsername := x },
   textRule "sasl_password" (·.saslPassword) fun x c => { c with saslPassword := x }]

open Events in
def eventRules : List (FieldRule EventSettings) :=
  [boolRule "enabled" (·.enabled) fun x c => { c with enabled := x },
   textsRule "types" (·.types) fun x c => { c with types := x },
   ⟨"redis", fun p v c => (takeRecord redisRules p v c.redis).map fun r => { c with redis := r }⟩,
   ⟨"kafka", fun p v c => (takeRecord kafkaRules p v c.kafka).map fun k => { c with kafka := k }⟩]

def decodeEventSettings (v : ConfigValue) : Decoding Events.EventSettings :=
  takeRecord eventRules "" v Events.EventSettings.default

open Storage in
/-- The fields of a backend's settings; its options give the key prefix. -/
def backendRules : List (FieldRule (BackendSettings × List (String × String))) :=
  let text (key : String) (get : BackendSettings → String) (set : String → BackendSettings → BackendSettings) :
      FieldRule (BackendSettings × List (String × String)) :=
    ⟨key, fun p v (b, o) => (ConfigValue.takeText (if key = "type" then "types.StorageType" else "string")
      p v (get b)).map fun x => (set x b, o)⟩
  [text "id" (·.id) fun x b => { b with id := x },
   text "type" (·.kind) fun x b => { b with kind := x },
   text "endpoint" (·.endpoint) fun x b => { b with endpoint := x },
   text "bucket" (·.bucket) fun x b => { b with bucket := x },
   text "region" (·.region) fun x b => { b with region := x },
   text "access_key" (·.accessKey) fun x b => { b with accessKey := x },
   text "secret_key" (·.secretKey) fun x b => { b with secretKey := x },
   ⟨"options", fun p v (b, o) => (ConfigValue.takeTextTable p v o).map fun o => (b, o)⟩]

def decodeBackends (v : ConfigValue) : Decoding (List Storage.BackendSettings) :=
  (ConfigValue.takeList ({}, []) (takeRecord backendRules) "" v []).map fun bs =>
    bs.map fun (b, o) => { b with keyPrefix := (o.lookup "prefix").getD "" }

end MediaTimeline.Config

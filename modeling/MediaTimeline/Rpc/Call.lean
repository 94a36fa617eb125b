import MediaTimeline.Rpc.Stateless
import MediaTimeline.Rpc.Session
import MediaTimeline.Rpc.Cache
import MediaTimeline.Rpc.Queue
import MediaTimeline.Rpc.Api
import MediaTimeline.Rpc.Host
import MediaTimeline.Rpc.Events
import MediaTimeline.Rpc.Storage
import MediaTimeline.Rpc.Sql
import MediaTimeline.Rpc.TaskTable
import MediaTimeline.Rpc.Cli

/-! Answering one call: the operation named by `op` picks the part of the library that answers it.
-/

namespace MediaTimeline.Rpc

def badInput (reason : String) : JsonValue := .obj [("error", "bad_input"), ("message", reason)]

def answer (host : Host) (j : JsonValue) (src : List UInt8) : JsonValue :=
  let r : Reading JsonValue := do
    match ← str j "op" with
    | "session" => session j
    | "cache" => cacheCall j
    | "queue" => queueCall j src
    | "api" => apiCall host.platform j
    | "utils" => hostCall host j
    | "env" => deploymentCall j
    | "logger" => logCall j
    | "events_config" => eventSettingsCall j
    | "redis" => redisCall host j
    | "kafka" => kafkaCall host j
    | "publishers" => publishersCall host j
    | "s3" => backendCall j
    | "backend_manager" => managerCall j
    | "db_config" => poolCall j
    | "sql" => sqlCall j
    | "dbqueue" => taskTableCall j src
    | "cli" => cliCall host j
    | op => stateless op j
  let v := match r with
    | .ok v => v
    | .error e => badInput e
  (({} : Aliases).apply (fun _ => none) v).1

/-- Answers a call written as one line of JSON text; a line that is no JSON is refused. -/
def answerLine (host : Host) (line : String) : JsonValue :=
  let src := line.toUTF8.toList
  match Json.readJson src with
  | .ok j => answer host j src
  | .error _ => badInput "invalid json"

end MediaTimeline.Rpc

import MediaTimeline.Rpc.Media
import MediaTimeline.Rpc.Queue
import MediaTimeline.Sql.Store

/-! The SQL store driven step by step against a scripted database. -/

namespace MediaTimeline.Rpc

open JsonValue Sql

def databaseNow : Instant := seconds 1767225600

def cellArg (k : String) : JsonValue → Reading SqlValue
  | .null => pure .null
  | .str s => pure (.text s)
  | .bool b => pure (.truth b)
  | .num lit => SqlValue.int <$> intOf k (.num lit)
  | .obj fs =>
    let o := JsonValue.obj fs
    match o.get "b" with
    | .null => do pure (.time (Instant.ofUnix (← int o "t") (← int o "ns")))
    | _ => do pure (.bytes (← str o "b"))
  | .arr _ => wrong k "cell"

def responseArg (r : JsonValue) : Reading Response := do
  let failure ← match r.get "error", r.get "mysql_error", r.get "pg_error" with
    | .null, .null, .null => pure none
    | .null, .null, e => pure (some (ServerError.postgres (← str e "code") (← str e "message")))
    | .null, e, _ => pure (some (ServerError.mysql (← int e "number") (← str e "message")))
    | _, _, _ => pure (some (ServerError.plain (← str r "error")))
  let rows ← (← arrOf r "rows").mapM fun row => match row with
    | .arr cells => cells.mapM (cellArg "rows")
    | _ => wrong "rows" "list"
  pure { failure := failure, affected := (← optInt r "affected").getD 1,
         affectedProblem := ← optStr r "affected_error", rows := rows, rowProblem := ← optStr r "row_error" }

def stepConnection (st : JsonValue) : Reading Connection := do
  let nonEmpty (k : String) : Reading (Option String) := do
    pure ((← optStr st k).filter (!·.isEmpty))
  pure { script := ← (← arrOf st "script").mapM responseArg, failBegin := ← nonEmpty "fail_begin",
         failCommit := ← nonEmpty "fail_commit", failRollback := ← nonEmpty "fail_rollback", now := databaseNow }

/-- A logged argument: a time whose year is before 2000 in Unix seconds and
nanoseconds, a later one as now. -/
def loggedValue : SqlValue → JsonValue
  | .null => .null
  | .int n => JsonValue.int n
  | .text s => .str s
  | .truth b => .bool b
  | .bytes s => .obj [("b", .str s)]
  | .time t =>
    if beforeYear2000 t then .obj [("t", JsonValue.int t.unix), ("ns", JsonValue.int t.nanos)]
    else "<now>"

def logEntry : LogEntry → JsonValue
  | .exec sql args => .obj [("exec", sql), ("args", .arr (args.map loggedValue))]
  | .query sql args => .obj [("query", sql), ("args", .arr (args.map loggedValue))]
  | .event e => .obj [("tx", e)]

def connectionLog (c : Connection) : JsonValue := .arr (c.log.map logEntry)

/-- A flow with, when its segments were ever written, the unix second of the last time. -/
def storedFlow (f : Flow) : JsonValue :=
  match f.segmentsUpdated with
  | some t => (flow f).set "segments_updated_unix" (JsonValue.int t.unix)
  | none => flow f

def instantArg (j : JsonValue) (k : String) : Reading Instant := do
  pure ((← optInt j k).map seconds |>.getD .zero)

def sqlStep (d : Dialect) (st : JsonValue) : Reading (StoreM JsonValue) := do
  let done {α : Type} (m : StoreM α) : StoreM JsonValue := (fun _ => ok) <$> m
  match ← str st "call" with
  | "put_segment" =>
    match ← segmentArg st "flow" with
    | .error e => pure (throw e)
    | .ok seg => match seg.withKeys with
      | .error e => pure (throw (.segment e))
      | .ok seg => pure (done (putSegment d seg))
  | "get_segment" =>
    let flow ← str st "flow"
    let stop ← int st "end"
    pure ((fun s => .obj [("segment", segment s)]) <$> getSegment d flow stop)
  | "delete_segment" =>
    let flow ← str st "flow"
    let stop ← int st "end"
    pure ((fun s => .obj [("segment", segment s)]) <$> deleteSegment d flow stop)
  | "query" =>
    let q ← queryArg st
    pure ((fun (p : SegmentPage) => .obj [("segments", segments p.segments), ("last_key", opt key p.lastKey)]) <$>
      querySegments d q)
  | "append_storage_ids" =>
    let flow ← str st "flow"
    let stop ← int st "end"
    let ids ← strs st "ids"
    pure (done (appendStorageIds d flow stop ids))
  | "count_refs" =>
    let object ← str st "object"
    pure ((fun n => .obj [("count", JsonValue.int n)]) <$> countObjectReferences d object)
  | "put_flow" =>
    let f : Flow := { id := ← str st "id", source := ← str st "source_id", label := ← str st "label",
                      container := ← str st "container", readOnly := ← flag st "read_only",
                      created := ← instantArg st "created", updated := ← instantArg st "updated" }
    pure (done (putFlow d f))
  | "get_flow" =>
    let id ← str st "id"
    pure ((fun f => .obj [("flow", storedFlow f)]) <$> getFlow d id)
  | "delete_flow" =>
    let id ← str st "id"
    pure (done (deleteFlow d id))
  | "touch" =>
    let id ← str st "id"
    let instant ← instantArg st "at"
    pure (done (touchSegmentsUpdated d id instant))
  | "put_request" =>
    let id ← str st "id"
    let flowId ← str st "flow"
    let whole ← flag st "delete_flow"
    let status := RequestStatus.ofText (← str st "status")
    let createdBy ← str st "created_by"
    let created ← instantArg st "created"
    match ← rangeArg st "to_delete" with
    | .error e => pure (throw e)
    | .ok r =>
      let req : DeleteRequest := {
        id := id, flow := flowId, deleteFlow := whole, toDelete := r, remaining := r, status := status,
        createdBy := createdBy, created := created, updated := created }
      pure (done (putDeleteRequest d req))
  | "get_request" =>
    let id ← str st "id"
    pure ((fun r => .obj [("request", request r)]) <$> getDeleteRequest d id)
  | "list_requests" =>
    let flowId ← str st "flow"
    pure ((fun rs => .obj [("requests", .arr (rs.map request))]) <$> listDeleteRequests d flowId)
  | "delete_request" =>
    let id ← str st "id"
    pure (done (deleteDeleteRequest d id))
  | "migrate" => pure (done (migrate d))
  | "stats" => pure (pure ok)
  | "with_tx" =>
    let stmts ← strs st "statements"
    pure (done (withTx (stmts.forM fun s => discard (run d s []))))
  | "raw_query" =>
    let sql ← str st "sql"
    pure (do
      let rows ← ask d sql []
      if let some p := rows.problem then throw (.plain p)
      pure (.obj [("rows", JsonValue.int rows.rows.length)]))
  | _ => throw "unknown sql call"

def sqlCall (j : JsonValue) : Reading JsonValue := do
  let d ← match ← str j "dialect" with
    | "" | "mysql" => pure Dialect.mysql
    | "postgres" => pure Dialect.postgres
    | _ => throw "unknown dialect"
  let pingProblem := (← optStr j "ping_error").filter (!·.isEmpty)
  let (opened, conn) := (openStore.run).run { failPing := pingProblem, now := databaseNow }
  match opened with
  | .error e => return .obj [("open", fault e), ("log", connectionLog conn)]
  | .ok () =>
    let mut results : List JsonValue := []
    for st in ← arrOf j "ops" do
      let step ← sqlStep d st
      let conn ← stepConnection st
      let (r, after) := (step.run).run conn
      results := results ++ [(match r with | .ok v => v | .error e => fault e).set "log" (connectionLog after)]
    return .obj [("open", .obj [("dialect", d.name)]), ("open_log", connectionLog conn), ("results", .arr results)]

end MediaTimeline.Rpc

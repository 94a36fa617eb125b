import MediaTimeline.Sql.Store
import MediaTimeline.Tasks.Queue

/-! A task queue kept in a table of the SQL database. -/

namespace MediaTimeline

/-- The database a task table sits on. -/
inductive TableDriver where
  | mysql
  | postgres
deriving DecidableEq, Inhabited

/-- A task queue kept in a database table. -/
structure TaskTable where
  name : String := "tasks"
  visibility : Int := 300 * 1000000000
  driver : TableDriver := .mysql
deriving Inhabited

namespace TaskTable

open Sql

def create (hasDatabase : Bool) (driver table : String) (visibility : Int) : Except Fault TaskTable := do
  if !hasDatabase then throw (.plain "database connection is required")
  let d ← match driver with
    | "" | "mysql" => pure TableDriver.mysql
    | "postgres" => pure .postgres
    | o => throw (.plain ("task queue: unsupported driver " ++ Text.quote o))
  pure { name := if table.isEmpty then "tasks" else table,
         visibility := if visibility == 0 then 300 * 1000000000 else visibility, driver := d }

def numberMarks : List Char → Nat → List Char
  | [], _ => []
  | '?' :: rest, n => '$' :: (toString n).toList ++ numberMarks rest (n + 1)
  | c :: rest, n => c :: numberMarks rest n

def rebind (tq : TaskTable) (sql : String) : String :=
  match tq.driver with
  | .mysql => sql
  | .postgres => String.ofList (numberMarks sql.toList 1)

def columns : String :=
  "id, type, status, priority, payload, scheduled_at, started_at, completed_at, attempts, max_retries, " ++
    "retry_after, last_error, created_at, updated_at, heartbeat_at, flow_id, worker_id"

def targets : List Target :=
  [.text, .named "*taskqueue.TaskType", .named "*taskqueue.TaskStatus", .int "int", .raw, .time, .maybeTime,
    .maybeTime, .int "int", .int "int", .maybeTime, .maybeText, .time, .time, .maybeTime, .maybeText, .maybeText]

def instantOf : SqlValue → Option Instant
  | .time t => some t
  | _ => none

def taskOfRow (row : List SqlValue) : Task :=
  let cell (i : Nat) := row.getD i .null
  { id := (cell 0).asText, kind := (cell 1).asText, status := TaskStatus.ofText (cell 2).asText,
    priority := (cell 3).intValue, payload := (cell 4).asText,
    scheduledAt := (instantOf (cell 5)).getD .zero, startedAt := instantOf (cell 6),
    completedAt := instantOf (cell 7), attempts := (cell 8).intValue, maxRetries := (cell 9).intValue,
    retryAfter := (instantOf (cell 10)).getD .zero, lastError := (cell 11).asText,
    createdAt := (instantOf (cell 12)).getD .zero, updatedAt := (instantOf (cell 13)).getD .zero,
    flow := (cell 15).asText, worker := (cell 16).asText }

def nullable (s : String) : SqlValue := if s.isEmpty then .null else .text s

def retryDeadlocks {α : Type} (m : ConnM α) : Nat → ConnM α
  | 0 => m
  | n + 1 => tryCatch m fun e => if e.isDeadlock then retryDeadlocks m n else throw e

/-- Adds a task; one without an id takes `freshId`. Unset fields take their
defaults: pending, three retries, and now for its schedule and creation. -/
def enqueue (tq : TaskTable) (freshId : String) (t : Task) : StoreM Task := do
  let now := (← get).now
  let t := { t with
    id := if t.id.isEmpty then freshId else t.id,
    status := if t.status == .other "" then .pending else t.status,
    maxRetries := if t.maxRetries == 0 then defaultMaxRetries else t.maxRetries,
    scheduledAt := if t.scheduledAt.isZero then now else t.scheduledAt,
    createdAt := if t.createdAt.isZero then now else t.createdAt,
    updatedAt := now }
  let _ ← wrapping ("enqueue " ++ t.kind ++ " task") (onServer (exec (tq.rebind
    ("INSERT INTO " ++ tq.name ++ " (id, type, status, priority, payload, scheduled_at, attempts, max_retries, " ++
      "created_at, updated_at, flow_id) VALUES (?, ?, ?, ?, ?, ?, ?, ?, ?, ?, ?)"))
    [.text t.id, .text t.kind, .text t.status.text, .int t.priority, .bytes t.payload, .time t.scheduledAt,
      .int t.attempts, .int t.maxRetries, .time t.createdAt, .time t.updatedAt, nullable t.flow]))
  pure t

def pickStatement (tq : TaskTable) (kinds : List String) : String :=
  "SELECT " ++ columns ++ " FROM " ++ tq.name ++ " WHERE ( (status = 'pending' AND scheduled_at <= ? AND " ++
    "(retry_after IS NULL OR retry_after <= ?)) OR (status = 'running' AND heartbeat_at < ?) )" ++
    (if kinds.isEmpty then "" else " AND type IN (" ++ ",".intercalate (kinds.map fun _ => "?") ++ ")") ++
    " ORDER BY priority DESC, scheduled_at ASC LIMIT 1 FOR UPDATE SKIP LOCKED"

/-- One try at handing out a task. The transaction is rolled back unless it
commits; a failed rollback goes unnoticed. -/
def dequeueOnce (tq : TaskTable) (worker : String) (kinds : List String) : ConnM (Option Task) := do
  beginTx
  let now := (← get).now
  let picked ← attempt do
    let rows ← query (tq.rebind (pickStatement tq kinds))
      ([.time now, .time now, .time (now.back tq.visibility)] ++ kinds.map SqlValue.text)
    match rows.first? targets with
    | .error e => throw e
    | .ok none => pure none
    | .ok (some row) =>
      let t := taskOfRow row
      let attempts := if t.status == .running then t.attempts + 1 else t.attempts
      let _ ← exec (tq.rebind ("UPDATE " ++ tq.name ++ " SET status = 'running', started_at = ?, heartbeat_at = ?, " ++
        "worker_id = ?, attempts = ?, updated_at = ? WHERE id = ?"))
        [.time now, .time now, .text worker, .int attempts, .time now, .text t.id]
      pure (some { t with status := .running, startedAt := some now, worker := worker, attempts := attempts,
                          updatedAt := now })
  match picked with
  | .error e =>
    let _ ← attempt rollbackTx
    throw e
  | .ok none =>
    let _ ← attempt rollbackTx
    pure none
  | .ok (some t) =>
    commitTx
    pure (some t)

def dequeue (tq : TaskTable) (worker : String) (kinds : List String) : StoreM (Option Task) :=
  onServer (retryDeadlocks (dequeueOnce tq worker kinds) 2)

def execOne (tq : TaskTable) (sql : String) (args : List SqlValue) : StoreM Unit := do
  let r ← onServer (exec (tq.rebind sql) args)
  if r.affected == 0 then throw (.missing .task)

def complete (tq : TaskTable) (id : String) : StoreM Unit := do
  let now := (← get).now
  execOne tq ("UPDATE " ++ tq.name ++ " SET status = 'completed', completed_at = ?, updated_at = ? WHERE id = ?")
    [.time now, .time now, .text id]

def cancel (tq : TaskTable) (id : String) : StoreM Unit := do
  let now := (← get).now
  execOne tq ("UPDATE " ++ tq.name ++ " SET status = 'cancelled', updated_at = ? WHERE id = ?") [.time now, .text id]

def lookup (tq : TaskTable) (id : String) : StoreM Task := do
  let rows ← onServer (query (tq.rebind ("SELECT " ++ columns ++ " FROM " ++ tq.name ++ " WHERE id = ?")) [.text id])
  match ← firstRow rows targets with
  | none => throw (.missing .task)
  | some row => pure (taskOfRow row)

/-- Records a failed run of a task: it is retried after a backoff, or given up
once its runs reach its retries. As in memory, the count wraps as a 64-bit
integer and a task left to retry with a count below zero stops the program
before the update is sent. -/
def fail (tq : TaskTable) (id problem : String) : StoreM Unit := do
  let t ← tq.lookup id
  let now := (← get).now
  let attempts := nextAttempts t.attempts
  let (status, retryAt) : TaskStatus × SqlValue ←
    if t.maxRetries ≤ attempts then pure (.deadLetter, .null)
    else if attempts < 0 then throw (.crash negativeShift)
    else pure (.pending, .time (now.add (retryBackoff attempts)))
  execOne tq ("UPDATE " ++ tq.name ++ " SET status = ?, attempts = ?, last_error = ?, retry_after = ?, " ++
    "worker_id = NULL, updated_at = ? WHERE id = ?")
    [.text status.text, .int attempts, .text problem, retryAt, .time now, .text id]

def listStatement (tq : TaskTable) (f : TaskFilter) : String × List SqlValue :=
  let conds : List (String × String) :=
    (if f.kind.isEmpty then [] else [(" AND type = ?", f.kind)]) ++
    (if f.status.isEmpty then [] else [(" AND status = ?", f.status)]) ++
    (if f.flow.isEmpty then [] else [(" AND flow_id = ?", f.flow)])
  ("SELECT " ++ columns ++ " FROM " ++ tq.name ++ " WHERE 1=1" ++ String.join (conds.map (·.1)) ++
    " ORDER BY created_at DESC, id ASC" ++
    (if 0 < f.limit then " LIMIT " ++ toString f.limit else "") ++
    (if 0 < f.offset then " OFFSET " ++ toString f.offset else ""), conds.map fun c => .text c.2)

def list (tq : TaskTable) (f : TaskFilter) : StoreM (List Task) := do
  let (sql, args) := listStatement tq f
  let rows ← onServer (query (tq.rebind sql) args)
  let ts ← liftResult ((rows.rows.mapM fun row => storeRow row targets).mapError Fault.plain)
  if let some p := rows.problem then throw (.plain p)
  pure (ts.map taskOfRow)

def counted (sql : String) : StoreM (List (String × Int)) := do
  let rows ← onServer (query sql [])
  let cells ← liftResult ((rows.rows.mapM fun row => storeRow row [.text, .int "int64"]).mapError Fault.plain)
  if let some p := rows.problem then throw (.plain p)
  pure (cells.map fun c => ((c.getD 0 .null).asText, (c.getD 1 .null).intValue))

def setCount (k : String) (n : Int) (counts : List (String × Int)) : List (String × Int) :=
  if counts.any (·.1 == k) then counts.map fun (j, m) => if j == k then (j, n) else (j, m) else counts ++ [(k, n)]

def stats (tq : TaskTable) : StoreM QueueStats := do
  let byStatus ← counted ("SELECT status, COUNT(*) FROM " ++ tq.name ++ " GROUP BY status")
  let st : QueueStats := byStatus.foldl (fun s (status, n) =>
    match TaskStatus.ofText status with
    | .pending => { s with pending := n }
    | .running => { s with running := n }
    | .completed => { s with completed := n }
    | .failed => { s with failed := n }
    | .deadLetter => { s with deadLetter := n }
    | _ => s) {}
  let byKind ← counted ("SELECT type, COUNT(*) FROM " ++ tq.name ++ " WHERE status = 'pending' GROUP BY type")
  let rows ← onServer (query ("SELECT MIN(scheduled_at) FROM " ++ tq.name ++ " WHERE status = 'pending'") [])
  let oldest ← match ← firstRow rows [.maybeTime] with
    | some row => pure (instantOf (row.getD 0 .null))
    | none => pure none
  pure { st with byKind := byKind.foldl (fun acc (k, n) => setCount k n acc) [], oldestPending := oldest }

/-- Removes the completed and cancelled tasks finished more than `olderThan` ago, answering how many went. -/
def cleanup (tq : TaskTable) (olderThan : Int) : StoreM Int := do
  let now := (← get).now
  let r ← onServer (exec (tq.rebind ("DELETE FROM " ++ tq.name ++
    " WHERE status IN ('completed', 'cancelled') AND completed_at < ?")) [.time (now.back olderThan)])
  pure r.affected

def heartbeat (tq : TaskTable) (id worker : String) : StoreM Unit := do
  let now := (← get).now
  let r ← onServer (retryDeadlocks (exec (tq.rebind ("UPDATE " ++ tq.name ++
    " SET heartbeat_at = ?, updated_at = ? WHERE id = ? AND worker_id = ? AND status = 'running'"))
    [.time now, .time now, .text id, .text worker]) 2)
  if r.affected == 0 then throw (.missing .task)

/-- Takes back the running tasks whose worker stopped beating: pending again
while retries are left, given up otherwise. Answers how many were taken back,
and the failure that cut the work short, if any. -/
def reclaimStale (tq : TaskTable) : StoreM (Int × Option Fault) := do
  let now := (← get).now
  let stale := now.back tq.visibility
  let first ← attemptStore (onServer (exec (tq.rebind ("UPDATE " ++ tq.name ++
    " SET status = 'pending', worker_id = NULL, attempts = attempts + 1, last_error = 'reclaimed: worker timeout', " ++
    "updated_at = ? WHERE status = 'running' AND heartbeat_at < ? AND attempts < max_retries")) [.time now, .time stale]))
  match first with
  | .error e => pure (0, some e)
  | .ok r =>
    let second ← attemptStore (onServer (exec (tq.rebind ("UPDATE " ++ tq.name ++
      " SET status = 'dead_letter', worker_id = NULL, last_error = 'reclaimed: max retries exceeded', " ++
      "updated_at = ? WHERE status = 'running' AND heartbeat_at < ? AND attempts >= max_retries"))
      [.time now, .time stale]))
    match second with
    | .error e => pure (r.affected, some e)
    | .ok r2 => pure (r.affected + r2.affected, none)

end TaskTable

end MediaTimeline

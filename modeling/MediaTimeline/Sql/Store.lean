import MediaTimeline.Sql.Script
import MediaTimeline.Sql.Documents
import MediaTimeline.Sql.Dialect
import MediaTimeline.Sql.Migrations
import MediaTimeline.Sql.Statements
import MediaTimeline.Store.Query

/-! The metadata store kept in a SQL database. -/

namespace MediaTimeline.Sql

attribute [local instance (high)] instPowNat

abbrev StoreM := ExceptT Fault (StateM Connection)

def onServer {α : Type} (m : ConnM α) : StoreM α :=
  ExceptT.mk (do let r ← m.run; pure (r.mapError fun e => Fault.plain e.message))

def wrapping {α : Type} (step : String) (m : StoreM α) : StoreM α :=
  tryCatch m fun e => throw (.within step e)

def attemptStore {α : Type} (m : StoreM α) : StoreM (Except Fault α) :=
  tryCatch (Except.ok <$> m) fun e => pure (.error e)

def liftResult {α : Type} : Except Fault α → StoreM α
  | .ok a => pure a
  | .error e => throw e

def run (d : Dialect) (sql : String) (args : List SqlValue) : StoreM ExecResult :=
  onServer (exec (d.rewritePlaceholders sql) args)

def ask (d : Dialect) (sql : String) (args : List SqlValue) : StoreM Rows :=
  onServer (query (d.rewritePlaceholders sql) args)

/-- The first row of a query's answer stored into destinations; none when there is none. -/
def firstRow (rows : Rows) (targets : List Target) : StoreM (Option (List SqlValue)) :=
  liftResult ((rows.first? targets).mapError fun e => Fault.plain e.message)

/-- Whether an executed statement reports that it touched no row; a count that
cannot be read says nothing. -/
def ExecResult.touchedNone (r : ExecResult) : Bool := r.problem.isNone && r.affected == 0

def SqlValue.intValue : SqlValue → Int
  | .int n => n
  | _ => 0

def openStore : StoreM Unit := wrapping "ping database" (onServer ping)

/-- Runs `body` in a transaction: rolled back when it fails, committed otherwise. -/
def withTx {α : Type} (body : StoreM α) : StoreM α := do
  wrapping "begin transaction" (onServer beginTx)
  match ← attemptStore body with
  | .error e =>
    match ← onServer (attempt rollbackTx) with
    | .error rb => throw (.rollbackFailed rb.message e)
    | .ok () => throw e
  | .ok a =>
    wrapping "commit transaction" (onServer commitTx)
    pure a

/-! ### Segments -/

def segmentColumns : String := "flow_id, timerange_end, timerange_start, object_id, doc"

def segmentTargets : List Target := [.text, .int "int64", .int "int64", .text, .text]

def segmentOfRow (row : List SqlValue) : Except Fault Segment :=
  let cell (i : Nat) := row.getD i .null
  readSegment (cell 0).asText (cell 1).intValue (cell 2).intValue (cell 3).asText (cell 4).asText

def scanSegment (rows : Rows) : StoreM (Option Segment) := do
  match ← firstRow rows segmentTargets with
  | none => pure none
  | some row => some <$> liftResult (segmentOfRow row)

def putSegment (d : Dialect) (s : Segment) : StoreM Unit :=
  wrapping "put segment" do
    let _ ← run d ("INSERT INTO segments (" ++ segmentColumns ++ ") VALUES ($1, $2, $3, $4, $5)" ++
      d.upsertSuffix "flow_id, timerange_end" ["timerange_start", "object_id", "doc"])
      [.text s.flow, .int s.stop, .int s.start, .text s.object, .text (JsonValue.render s.toDoc)]

def segmentByKey (lock : Bool) : String :=
  "SELECT " ++ segmentColumns ++ " FROM segments WHERE flow_id = $1 AND timerange_end = $2" ++
    (if lock then " FOR UPDATE" else "")

def getSegment (d : Dialect) (flow : String) (stop : Int) : StoreM Segment := do
  match ← wrapping "get segment" (ask d (segmentByKey false) [.text flow, .int stop] >>= scanSegment) with
  | some s => pure s
  | none => throw (.missing .segment)

/-- Removes the segment of a flow that ends at `stop`, and answers the row removed. -/
def deleteSegment (d : Dialect) (flow : String) (stop : Int) : StoreM Segment := do
  let r ← attemptStore <| withTx do
    let some seg ← ask d (segmentByKey true) [.text flow, .int stop] >>= scanSegment
      | throw (.missing .segment)
    let res ← run d "DELETE FROM segments WHERE flow_id = $1 AND timerange_end = $2" [.text flow, .int stop]
    if res.touchedNone then throw (.missing .segment)
    pure seg
  match r with
  | .ok seg => pure seg
  | .error e => throw (if e.classes.contains .segmentMissing then .missing .segment else .within "delete segment" e)

/-- The statement and arguments of a query, in the dialect's placeholders;
none when the exclusive start key lies at the end of the timeline already. -/
def segmentQuery (d : Dialect) (q : SegmentQuery) : Option (String × List SqlValue) := do
  let conds : List (String × SqlValue) :=
    [("flow_id = ?", .text q.flow)] ++
    (if q.object.isEmpty then [] else [("object_id = ?", .text q.object)]) ++
    (q.endMin.toList.map fun n => ("timerange_end >= ?", .int n)) ++
    (q.endMax.toList.map fun n => ("timerange_end <= ?", .int n)) ++
    (q.startMax.toList.map fun n => ("timerange_start <= ?", .int n))
  let conds ← match q.after with
    | none => some conds
    | some k =>
      if q.reverse then
        if k.stop = int64Min then none else some (conds ++ [("timerange_end < ?", .int k.stop)])
      else if k.stop = int64Max then none else some (conds ++ [("timerange_end > ?", .int k.stop)])
  let wheres := conds.zipIdx.map fun ((c, _), i) => c.replace "?" (d.placeholder (i + 1))
  some ("SELECT " ++ segmentColumns ++ " FROM segments WHERE " ++ " AND ".intercalate wheres ++
    " ORDER BY timerange_end " ++ (if q.reverse then "DESC" else "ASC") ++
    -- the probe for one row more is a sum of signed 64-bit integers, and wraps as one
    (if 0 < q.limit then " LIMIT " ++ toString (Int.bmod (q.limit + 1) (2 ^ (64 : Nat))) else ""),
    conds.map (·.2))

def segmentsOfRows : List (List SqlValue) → Except Fault (List Segment)
  | [] => .ok []
  | row :: rest => do
    let stored ← (storeRow row segmentTargets).mapError Fault.plain
    let seg ← segmentOfRow stored
    pure (seg :: (← segmentsOfRows rest))

def querySegments (d : Dialect) (q : SegmentQuery) : StoreM SegmentPage := do
  let some (sql, args) := segmentQuery d q | pure {}
  let rows ← wrapping "query segments" (onServer (query sql args))
  let segs ← wrapping "scan segment" (liftResult (segmentsOfRows rows.rows))
  if let some p := rows.problem then throw (.within "query segments" (.plain p))
  if 0 < q.limit ∧ q.limit < segs.length then
    let page := segs.take q.limit.toNat
    pure { segments := page, lastKey := page.getLast?.map Segment.key }
  else pure { segments := segs }

/-- Adds storage ids to a segment, each once; nothing is written when none is new. -/
def appendStorageIds (d : Dialect) (flow : String) (stop : Int) (ids : List String) : StoreM Unit := do
  let r ← attemptStore <| withTx do
    let some seg ← ask d (segmentByKey true) [.text flow, .int stop] >>= scanSegment
      | throw (.missing .segment)
    let grown := ids.foldl (fun acc id => if acc.contains id then acc else acc ++ [id]) seg.storageIds
    if grown.length ≠ seg.storageIds.length then
      let _ ← run d "UPDATE segments SET doc = $1 WHERE flow_id = $2 AND timerange_end = $3"
        [.text (JsonValue.render { seg with storageIds := grown }.toDoc), .text flow, .int stop]
  match r with
  | .ok () => pure ()
  | .error e => throw (if e.classes.contains .segmentMissing then .missing .segment else .within "append storage ids" e)

def countObjectReferences (d : Dialect) (object : String) : StoreM Int :=
  wrapping "count object references" do
    match ← ask d "SELECT COUNT(*) FROM segments WHERE object_id = $1" [.text object] >>= (firstRow · [.int "int"]) with
    | some row => pure (row.getD 0 .null).intValue
    | none => throw (.plain "sql: no rows in result set")

/-! ### Flows -/

def writeFlow (d : Dialect) (f : Flow) : StoreM Unit := do
  let doc ← liftResult ((encodeDoc (flowTimes f) (flowDoc f)).mapError (.within "encode flow"))
  let now := (← get).now
  let _ ← run d ("INSERT INTO flows (id, source_id, doc, updated_at) VALUES ($1, $2, $3, $4)" ++
    d.upsertSuffix "id" ["source_id", "doc", "updated_at"])
    [.text f.id, .text f.source, .text doc, .time now]

def readFlowRow (d : Dialect) (id : String) (lock : Bool) : StoreM Flow := do
  let rows ← ask d ("SELECT doc FROM flows WHERE id = $1" ++ if lock then " FOR UPDATE" else "") [.text id]
  match ← firstRow rows [.text] with
  | none => throw (.missing .flow)
  | some row => liftResult (readFlow id (row.getD 0 .null).asText)

def putFlow (d : Dialect) (f : Flow) : StoreM Unit := wrapping "put flow" (writeFlow d f)

def wrappingFound {α : Type} (step : String) (m : StoreM α) : StoreM α :=
  tryCatch m fun e => throw (if e.classes.contains .flowMissing then e else .within step e)

def getFlow (d : Dialect) (id : String) : StoreM Flow := wrappingFound "get flow" (readFlowRow d id false)

def deleteFlow (d : Dialect) (id : String) : StoreM Unit := do
  let res ← wrapping "delete flow" (run d "DELETE FROM flows WHERE id = $1" [.text id])
  if res.touchedNone then throw (.missing .flow)

def touchSegmentsUpdated (d : Dialect) (id : String) (instant : Instant) : StoreM Unit :=
  wrappingFound "touch segments_updated" <| withTx do
    let f ← readFlowRow d id true
    writeFlow d { f with segmentsUpdated := some instant }

/-! ### Delete requests -/

def putDeleteRequest (d : Dialect) (r : DeleteRequest) : StoreM Unit := do
  let doc ← liftResult ((encodeDoc (requestTimes r) (requestDoc r)).mapError (.within "encode delete request"))
  wrapping "put delete request" do
    let _ ← run d ("INSERT INTO delete_requests (id, flow_id, status, created_at, doc) VALUES ($1, $2, $3, $4, $5)" ++
      d.upsertSuffix "id" ["status", "doc"])
      [.text r.id, .text r.flow, .text r.status.text, .int r.created.unixNanos, .text doc]

def getDeleteRequest (d : Dialect) (id : String) : StoreM DeleteRequest := do
  match ← wrapping "get delete request" (ask d "SELECT doc FROM delete_requests WHERE id = $1" [.text id] >>= (firstRow · [.text])) with
  | none => throw (.missing .request)
  | some row => liftResult (readRequest (row.getD 0 .null).asText)

def requestsOfRows : List (List SqlValue) → Except Fault (List DeleteRequest)
  | [] => .ok []
  | row :: rest => do
    let stored ← (storeRow row [.text]).mapError fun e => Fault.within "scan delete request" (.plain e)
    let r ← readRequest (stored.getD 0 .null).asText
    pure (r :: (← requestsOfRows rest))

/-- The delete requests, of one flow or of all when `flow` is empty, oldest first. -/
def listDeleteRequests (d : Dialect) (flow : String) : StoreM (List DeleteRequest) := do
  let rows ← wrapping "list delete requests" <|
    if flow.isEmpty then ask d "SELECT doc FROM delete_requests ORDER BY created_at, id" []
    else ask d "SELECT doc FROM delete_requests WHERE flow_id = $1 ORDER BY created_at, id" [.text flow]
  let rs ← liftResult (requestsOfRows rows.rows)
  if let some p := rows.problem then throw (.plain p)
  pure rs

def deleteDeleteRequest (d : Dialect) (id : String) : StoreM Unit := do
  let res ← wrapping "delete delete request" (run d "DELETE FROM delete_requests WHERE id = $1" [.text id])
  if res.touchedNone then throw (.missing .request)

/-! ### Schema -/

def currentVersion (d : Dialect) : StoreM Int :=
  wrapping "get current version" do
    match ← ask d "SELECT COALESCE(MAX(version), 0) FROM schema_migrations" [] >>= (firstRow · [.int "int"]) with
    | some row => pure (row.getD 0 .null).intValue
    | none => throw (.plain "sql: no rows in result set")

def applyMigration (d : Dialect) (m : Migration) : StoreM Unit := do
  for stmt in splitStatements m.text do
    let stmt := stripLeadingComments stmt
    if !stmt.isEmpty then
      let _ ← wrapping "execute statement" (run d stmt [])

/-- Brings the schema up to date: every migration of the dialect above the
current version is applied and then recorded, in order. -/
def migrate (d : Dialect) : StoreM Unit := do
  let _ ← wrapping "create schema_migrations table" (run d
    "CREATE TABLE IF NOT EXISTS schema_migrations ( version INT PRIMARY KEY, applied_at TIMESTAMP DEFAULT CURRENT_TIMESTAMP )" [])
  let ms ← liftResult ((loadMigrations d.name).mapError fun e => .within "load migrations" (.plain e.message))
  let current ← wrapping "get current version" (currentVersion d)
  for m in ms do
    if current < m.version then
      wrapping ("apply migration " ++ toString m.version ++ " (" ++ m.name ++ ")") (applyMigration d m)
      let _ ← wrapping ("set version " ++ toString m.version) (wrapping "record migration version"
        (run d "INSERT INTO schema_migrations (version) VALUES ($1)" [.int m.version]))

end MediaTimeline.Sql

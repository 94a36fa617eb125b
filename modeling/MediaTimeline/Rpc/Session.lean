import MediaTimeline.Rpc.Media
import MediaTimeline.Rpc.Alias
import MediaTimeline.Service.Flows
import MediaTimeline.Service.Segments
import MediaTimeline.Service.Deletion
import MediaTimeline.Deletion.Engine
import MediaTimeline.Tasks.Worker
import MediaTimeline.Tasks.Inline
import MediaTimeline.Json.Read
import MediaTimeline.Settings.Double

/-! Sessions: a list of steps on one service. -/

namespace MediaTimeline.Rpc

open JsonValue

/-- The state of a session: the service, the aliases, the last next page, and
the crash that ended the session, if one did. -/
structure Session where
  svc : Service
  aliases : Aliases := {}
  nextPage : String := ""
  crashed : Option Crash := none

abbrev SessionM := StateT Session Reading

/-- Runs a service step, keeping the service's state whatever the outcome. A
crash is kept as the end of the session; the step's reply no longer counts. -/
def exec {α : Type} (m : ServiceM α) : SessionM (Except Fault α) := do
  let s ← get
  let (r, svc) := (ExceptT.run m).run.run s.svc
  match r with
  | .ok r => set { s with svc := svc }; pure r
  | .error c => set { s with svc := svc, crashed := some c }; pure (.error (.plain c.message))

def sessionFault (f : Fault) : JsonValue :=
  .obj [("error", FaultClass.name f.primary), ("message", f.message), ("http", f.httpStatus)]

def reply {α : Type} (r : Except Fault α) (f : α → JsonValue) : JsonValue :=
  match r with
  | .ok a => f a
  | .error e => sessionFault e

def realId (id : String) : SessionM String := do
  pure ((← get).aliases.resolve id)

mutual
def asDoubles : JsonValue → JsonValue
  | .num lit => match Settings.readDecimal lit with
    | .ok d => .num d.jsonText
    | .error _ => .num lit
  | .arr items => .arr (itemsAsDoubles items)
  | .obj fields => .obj (fieldsAsDoubles fields)
  | v => v

def itemsAsDoubles : List JsonValue → List JsonValue
  | [] => []
  | v :: vs => asDoubles v :: itemsAsDoubles vs

def fieldsAsDoubles : List (String × JsonValue) → List (String × JsonValue)
  | [] => []
  | (k, v) :: fs => (k, asDoubles v) :: fieldsAsDoubles fs
end

/-- A task the queue accepted, its payload read as a table of plain values,
or null when it is no table; an event's time and sequence number are left out. -/
def task (t : Task) : JsonValue :=
  let payload := match Json.readJson t.payload.toUTF8.toList with
    | .ok (.obj fs) =>
      let p := asDoubles (.obj fs)
      if t.kind == eventTask then p.without ["timestamp", "sequencer"] else p
    | .ok _ => .null
    | .error _ => .null
  .obj [("id", t.id), ("type", t.kind), ("priority", t.priority), ("max_retries", t.maxRetries),
    ("flow_id", t.flow), ("payload", payload)]

def delivered (ds : List Delivery) : JsonValue :=
  let of (p : String) : JsonValue := .arr ((ds.filter (·.publisher == p)).map fun d =>
    .obj [("key", d.key), ("event", asDoubles (d.event.without ["event_timestamp", "sequencer"]))])
  .obj [("p1", of primaryPublisher), ("p2", of secondaryPublisher)]

def paramsArg (j : JsonValue) : SessionM (Except Fault ListParams) := do
  let r ← optRange j "tr"
  let page ← str j "page"
  let np := (← get).nextPage
  let page := if page == "$next" then np else page
  let p : ListParams := {
      object := ← str j "object_id", reverse := ← flag j "reverse", page := page,
      limit := ← int j "limit" }
  pure (r.map fun r => { p with range := r })

def workerArg (j : JsonValue) : Reading Worker := do
  let names ← match j.get "register" with
    | .null => pure [deleteRequestTask, objectCleanupTask, eventTask, scriptedTask]
    | _ => strs j "register"
  let known := [deleteRequestTask, objectCleanupTask, eventTask, scriptedTask]
  pure { handlers := names.filter known.contains, kinds := ← strs j "types" }

def queuedTasks : SessionM JsonValue := do
  let s := (← get).svc
  pure (.arr (s.accepted.filterMap fun t => (s.queue.get t.id).toOption.map fun t =>
    .obj [("id", t.id), ("type", t.kind), ("status", t.status.text), ("attempts", t.attempts),
      ("last_error", t.lastError)]))

def rangeStep (r : Except Fault TimeRange) (m : TimeRange → ServiceM JsonValue) : SessionM JsonValue := do
  match r with
  | .error e => pure (sessionFault e)
  | .ok r => return reply (← exec (m r)) id

def outcome (o : DeleteOutcome) : JsonValue :=
  .obj [("pending", o.pending), ("deleted", o.deleted), ("request", opt request o.request)]

def outagesArg (j : JsonValue) : Reading Outages := do
  let after (k : String) : Reading (Option Nat) := do
    match j.get k with
    | .null => pure none
    | v => do
      let n ← intOf k v
      pure (if n < 0 then none else some n.toNat)
  let failNow ← flag j "put_request_fail"
  let putAfter ← match j.get "put_request_fail_after" with
    | .null => pure (if failNow then some 0 else none)
    | _ => after "put_request_fail_after"
  pure {
      deleteAfter := ← after "delete_fail_after", queryAfter := ← after "query_fail_after",
      putRequestAfter := putAfter,
      countReferences := ← flag j "count_refs_fail", putSegment := ← flag j "put_segment_fail",
      getFlow := ← flag j "get_flow_fail", touch := ← flag j "touch_fail", enqueueKinds := ← strs j "enqueue_fail",
      publisher := ← flag j "publisher_fail", queueCalls := ← strs j "queue_fail" }

/-- The payload a step hands to a task handler: a document, or else a raw
text, empty when the step gives neither. When it reads as a delete request
task's payload whose request id is an alias, the handler is given the id the
alias stands for. -/
def payloadArg (j : JsonValue) : SessionM String := do
  let text := match j.get "payload", j.get "payload_text" with
    | .null, .str t => t
    | .null, _ => ""
    | p, _ => render p
  match TaskPayload.requestId text with
  | .ok id =>
    let real ← realId id
    pure (if real == id then text else render (.obj [("delete_request_id", .str real)]))
  | .error _ => pure text

def flowStep (op : String) (j : JsonValue) : SessionM JsonValue := do
  match op with
  | "put_flow" =>
    let f : Flow := {
        id := ← str j "id", container := ← str j "container", readOnly := ← flag j "read_only",
        source := ← str j "source_id", label := ← str j "label" }
    return reply (← exec (ServiceM.putFlow f)) fun _ => ok
  | "get_flow" => return reply (← exec (ServiceM.getFlow (← str j "id"))) fun f => .obj [("flow", flow f)]
  | "db_get_flow" => return reply (← exec (ServiceM.loadFlow (← str j "id"))) fun f => .obj [("flow", flow f)]
  | "db_delete_flow" =>
    let id ← str j "id"
    return reply (← exec (ServiceM.withStore fun st => (st.deleteFlow id).map ((), ·))) fun _ => ok
  | _ =>
    let f : Flow := { id := ← str j "id", container := ← str j "container", readOnly := ← flag j "read_only" }
    return reply (← exec (modify fun s => { s with store := s.store.putFlow f } : ServiceM Unit)) fun _ => ok

def segmentStep (op : String) (j : JsonValue) : SessionM JsonValue := do
  match op with
  | "post_segment" =>
    let flow ← str j "flow"
    match ← segmentArg j "flow" with
    | .error e => return sessionFault e
    | .ok seg => return reply (← exec (ServiceM.postSegment flow seg)) fun s => .obj [("segment", segment s)]
  | "put_segment" =>
    match ← segmentArg j "flow" with
    | .error e => return sessionFault e
    | .ok seg => match seg.withKeys with
      | .error e => return sessionFault (.segment e)
      | .ok seg =>
        -- the store's answer is not looked at
        discard <| exec (ServiceM.putSegment seg)
        return .obj [("segment", segment seg)]
  | "insert" =>
    match ← segmentArg j "flow" with
    | .error e => return sessionFault e
    | .ok seg => return reply (← exec (ServiceM.insert seg)) fun s => .obj [("segment", segment s)]
  | "plan" =>
    match ← paramsArg j with
    | .error e => return sessionFault e
    | .ok p =>
      let r ← exec (ServiceM.plan (← str j "flow") p)
      return reply r fun r => .obj [("ok", r.2), ("query", query r.1)]
  | _ =>
    match ← paramsArg j with
    | .error e => return sessionFault e
    | .ok p =>
      let flow ← str j "flow"
      let r ← exec (if op == "list" then ServiceM.list flow p else ServiceM.listSegments flow p)
      if let .ok l := r then modify fun s => { s with nextPage := l.nextPage }
      return reply r listing

def indexStep (op : String) (j : JsonValue) : SessionM JsonValue := do
  match op with
  | "flow_timerange" =>
    return reply (← exec (ServiceM.flowTimerange (← str j "flow"))) fun r => .obj [("timerange", r.toText)]
  | "index_flow_timerange" =>
    return reply (← exec (ServiceM.flowRange (← str j "flow"))) fun r => .obj [("timerange", r.toText)]
  | "append_storage_ids" =>
    let flow ← str j "flow"
    let ids ← strs j "ids"
    rangeStep (← valueRange j "tr") fun r => do ServiceM.appendStorageIds flow r ids; pure ok
  | "index_append_storage_ids" =>
    let flow ← str j "flow"
    let stop ← int j "end"
    let ids ← strs j "ids"
    return reply (← exec (ServiceM.withStore fun st => (st.appendStorageIds flow stop ids).map ((), ·))) fun _ => ok
  | "get_segment" =>
    let flow ← str j "flow"
    let stop ← int j "end"
    return reply ((← get).svc.store.getSegment flow stop) fun s => .obj [("segment", segment s)]
  | "delete_segment" =>
    let flow ← str j "flow"
    let stop ← int j "end"
    return reply (← exec (ServiceM.remove flow stop)) fun
      | some s => .obj [("deleted", true), ("segment", segment s)]
      | none => .obj [("deleted", false)]
  | "query" =>
    let q ← queryArg j
    return reply (← exec (ServiceM.query q)) fun p =>
      .obj [("segments", segments p.segments), ("last_key", opt key p.lastKey)]
  | "iter" =>
    let q ← queryArg j
    return reply (← exec (ServiceM.iterate q)) fun ss => .obj [("segments", segments ss)]
  | "first" =>
    return reply (← exec (ServiceM.first? (← str j "flow") (← flag j "ascending"))) fun
      | some s => .obj [("found", true), ("segment", segment s)]
      | none => .obj [("found", false)]
  | "exact_end" =>
    return reply (← exec (ServiceM.exactEnd (← str j "flow") (← int j "bound"))) fun e => .obj [("end", e)]
  | "has_segments" =>
    let flow ← str j "flow"
    rangeStep (← valueRange j "tr") fun r => do pure (.obj [("has", ← ServiceM.hasSegments flow r)])
  | "count_refs" =>
    return reply (← exec (ServiceM.countReferences (← str j "object"))) fun n => .obj [("count", n)]
  | "segment_count" => return .obj [("count", (← get).svc.store.segments.length)]
  | _ =>
    return reply (← exec (ServiceM.query { flow := ← str j "flow" })) fun p =>
      .obj [("segments", texts (p.segments.map fun s => s.object ++ " " ++ s.range.toText))]

def deletionStep (op : String) (j : JsonValue) : SessionM JsonValue := do
  match op with
  | "delete_segments" | "delete_flow" =>
    let flow ← str j "flow"
    let author ← str j "created_by"
    if op == "delete_flow" then
      return reply (← exec (ServiceM.deleteFlow flow author)) outcome
    match ← optRange j "tr" with
    | .error e => return sessionFault e
    | .ok r => return reply (← exec (ServiceM.deleteSegments flow r (← str j "object_id") author)) outcome
  | "get_delete_request" =>
    let id ← realId (← str j "id")
    return reply (← exec (ServiceM.getRequest id)) fun r => .obj [("request", request r)]
  | "list_delete_requests" =>
    let flow ← str j "flow"
    return .obj [("requests", .arr (((← get).svc.store.listRequests flow).map request))]
  | "db_delete_request" =>
    let id ← realId (← str j "id")
    return reply (← exec (ServiceM.withStore fun st => (st.deleteRequest id).map ((), ·))) fun _ => ok
  | "put_request" =>
    let toDelete ← valueRange j "to_delete"
    let remaining ← match ← optStr j "remaining" with
      | none => pure toDelete
      | some _ => valueRange j "remaining"
    let status ← str j "status"
    match toDelete, remaining with
    | .error e, _ => return sessionFault e
    | _, .error e => return sessionFault e
    | .ok a, .ok b =>
      let r : DeleteRequest := {
          id := ← str j "id", flow := ← str j "flow", deleteFlow := ← flag j "delete_flow",
          toDelete := a, remaining := b, status := if status.isEmpty then .created else RequestStatus.ofText status }
      return reply (← exec (modify fun s => { s with store := s.store.putRequest r } : ServiceM Unit)) fun _ => ok
  | _ =>
    let id ← realId (← str j "id")
    let readings : List Int ← StateT.lift (intsOf j "remaining_ns")
    let r ← exec (do ServiceM.runRequest (← ServiceM.getRequest id) (budgetReading readings))
    let stored := (← get).svc.store.getRequest id
    return reply r fun (rep, req) => .obj [("status", rep.status.text), ("batches", rep.batches),
      ("deleted", rep.deleted), ("object_ids", rep.objects), ("checkpointed", rep.checkpointed),
      ("remaining_calls", rep.budgetReads), ("request", request req),
      ("stored", match stored with | .ok r => request r | .error e => sessionFault e)]

def taskStep (op : String) (j : JsonValue) : SessionM JsonValue := do
  match op with
  | "run_tasks" =>
    let n ← int j "max"
    let before := (← get).svc.deliveries.length
    let runs ← exec (ServiceM.runAccepted (if n ≤ 0 then 200 else n.toNat))
    let left ← exec ServiceM.notYetRun
    let s := (← get).svc
    return .obj [("handled", .arr ((runs.toOption.getD []).map fun r =>
        .obj ([("task", .str r.task), ("type", .str r.kind), ("ok", .bool r.failure.isNone)] ++
          (match r.failure with | some e => [("err", fault e)] | none => [])))),
      ("left", (left.toOption.getD 0 : Nat)), ("delivered", delivered (s.deliveries.drop before))]
  | "inject" =>
    let o ← outagesArg j
    modify fun s => { s with svc := { s.svc with outages := o } }
    return ok
  | "handle_task" =>
    let kind ← str j "type"
    let payload ← payloadArg j
    unless [deleteRequestTask, objectCleanupTask, eventTask].contains kind do throw "unknown task type"
    let before := (← get).svc.deliveries.length
    let r ← exec (ServiceM.handle kind "input-task" payload)
    let s := (← get).svc
    return .obj ([("ok", .bool r.toBool), ("delivered", delivered (s.deliveries.drop before))] ++
      (match r with | .error e => [("err", fault e)] | .ok _ => []))
  | "put_blob" =>
    let store ← str j "store"
    let key ← str j "key"
    modify fun s => { s with svc := { s.svc with blobs := s.svc.blobs.put store key } }
    return ok
  | "blobs" =>
    let keys ← strs j "keys"
    return .obj [("stores", .obj ((← get).svc.blobs.stores.map fun (id, held) =>
      (id, .obj [("len", held.length), ("present", texts (keys.filter held.contains))])))]
  | "enqueue_task" =>
    let t : Task := {
        kind := ← str j "type", payload := render (j.get "payload"),
        priority := ← int j "priority", maxRetries := ← int j "max_retries", flow := ← str j "flow_id" }
    return reply (← exec (ServiceM.enqueue t)) fun _ => ok
  | "worker_process" =>
    let w ← workerArg j
    let n ← int j "max"
    let r ← exec (ServiceM.processMany w (if n ≤ 0 then 100 else n.toNat))
    return .obj [("processed", .arr ((r.toOption.getD []).map .bool)), ("handler_types", texts w.handledKinds),
      ("queue_same", true), ("tasks", ← queuedTasks)]
  | "worker_run" =>
    let w ← workerArg j
    discard <| exec (ServiceM.runUntilIdle w)
    return .obj [("tasks", ← queuedTasks)]
  | _ => throw ("unknown session op " ++ op)

def sessionStep (j : JsonValue) : SessionM JsonValue := do
  let op ← str j "op"
  match op with
  | "put_flow" | "get_flow" | "db_get_flow" | "db_delete_flow" | "db_put_flow" => flowStep op j
  | "post_segment" | "put_segment" | "insert" | "plan" | "list_segments" | "list" => segmentStep op j
  | "flow_timerange" | "index_flow_timerange" | "append_storage_ids" | "index_append_storage_ids"
  | "get_segment" | "delete_segment" | "query" | "iter" | "first" | "exact_end" | "has_segments"
  | "count_refs" | "segment_count" | "dump" => indexStep op j
  | "delete_segments" | "delete_flow" | "get_delete_request" | "list_delete_requests"
  | "db_delete_request" | "put_request" | "run_request" => deletionStep op j
  | _ => taskStep op j

def configArg (cfg : JsonValue) : Reading ServiceConfig := do
  let pos (k : String) (d : Int) : Reading Int := do
    let v ← int cfg k
    pure (if v ≤ 0 then d else v)
  pure {
      batchSize := ← pos "batch_size" 100, safetyMargin := ← pos "safety_margin_ns" 5000000000,
      maxMessageSize := ← pos "max_message_size" 250000, cleanupRetries := ← pos "max_retries" 10,
      events := !(← flag cfg "no_events"), budget := ← pos "budget_ns" 60000000000,
      eventTypes := ← strs cfg "event_types" }

/-- Where a session's reply shows a task's or a delete request's id: the ids
of the tasks it lists and has handled, of the requests it shows, and the
request a listed task's payload names. -/
def sessionIdPlaces : IdPlaces
  | ["id", "tasks"] | ["task", "handled"] => some .task
  | ["id", "request"] | ["id", "requests"] | ["id", "stored"] | ["delete_request_id", "payload", "tasks"] =>
    some .request
  | _ => none

/-- Runs a session: each step's reply lists the tasks it made the queue accept,
and shows ids under their aliases. A crash ends the session, which is then
answered by the crash alone. -/
def session (j : JsonValue) : Reading JsonValue := do
  let config ← configArg (← objOf j "config")
  let steps ← objsOf j "ops"
  let run : SessionM (List JsonValue) := steps.filterMapM fun st => do
    if (← get).crashed.isSome then return none
    let before := (← get).svc.accepted.length
    let a ← sessionStep st
    let s ← get
    let added := s.svc.accepted.drop before
    let a := if added.isEmpty then a else a.set "tasks" (.arr (added.map task))
    let (a, aliases) := s.aliases.apply sessionIdPlaces a
    set { s with aliases := aliases }
    pure (some a)
  let (results, s) ← run.run { svc := { config := config, store := default } }
  match s.crashed with
  | some c => pure (.obj [("error", "panic"), ("message", c.message)])
  | none => pure (.obj [("results", .arr results)])

end MediaTimeline.Rpc

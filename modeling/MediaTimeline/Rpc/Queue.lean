import MediaTimeline.Rpc.Alias
import MediaTimeline.Tasks.Queue
import MediaTimeline.Json.Source

/-! A task queue driven step by step. The clock starts at a fixed instant and moves on by a
microsecond at every step; a task enqueued without a schedule is due one second after the last. -/

namespace MediaTimeline.Rpc

open JsonValue

def seconds (n : Int) : Instant := Instant.ofUnix n 0

def beforeYear2000 (t : Instant) : Bool := t.year < 2000

def when (t : Instant) : JsonValue := if beforeYear2000 t then JsonValue.int t.unix else "recent"

def queuedFields (t : Task) : List (String × JsonValue) :=
  [("id", t.id), ("type", t.kind), ("status", t.status.text), ("priority", t.priority),
    ("attempts", t.attempts), ("max_retries", t.maxRetries), ("last_error", t.lastError),
    ("worker_id", t.worker), ("flow_id", t.flow), ("started", t.startedAt.isSome),
    ("completed", t.completedAt.isSome), ("retry_after", !t.retryAfter.isZero), ("payload", t.payload)]

def stats (st : QueueStats) : JsonValue :=
  .obj [("pending", st.pending), ("running", st.running), ("completed", st.completed),
    ("failed", st.failed), ("dead_letter", st.deadLetter),
    ("by_type", .obj (st.byKind.map fun (k, n) => (k, JsonValue.int n))),
    ("oldest_pending", opt when st.oldestPending)]

def filterArg (j : JsonValue) : Reading TaskFilter := do
  let f := j.get "filter"
  pure { kind := ← str f "type", status := ← str f "status", flow := ← str f "flow_id",
         limit := ← int f "limit", offset := ← int f "offset" }

def stepSources (src : List UInt8) : List (List UInt8) :=
  ((Json.sourceAt [.member "ops"] src).bind Json.itemSources).getD []

/-- The payload a step gives, kept as written in the step's text `src`: the
empty text when it gives none. -/
def payloadText (st : JsonValue) (src : Option (List UInt8)) : String :=
  match st.get "payload" with
  | .null => ""
  | p => match src.bind (Json.sourceAt [.member "payload"]) with
    | some bs => Text.stringOfUtf8 bs
    | none => render p

/-- The task an enqueue step describes, with its payload as written; `n` is how
many were enqueued before it. -/
def enqueuedArg (st : JsonValue) (payload : String) (n : Int) : Reading Task := do
  let sched ← match st.get "scheduled_at" with
    | .null => pure (1001 + n)
    | v => intOf "scheduled_at" v
  let created ← match st.get "created_at" with
    | .null => pure sched
    | v => intOf "created_at" v
  let unscheduled ← flag st "no_schedule"
  pure {
      id := ← str st "id", kind := ← str st "type", status := TaskStatus.ofText (← str st "status"),
      priority := ← int st "priority", maxRetries := ← int st "max_retries", flow := ← str st "flow_id",
      payload := payload,
      scheduledAt := if unscheduled then .zero else seconds sched,
      createdAt := if unscheduled then .zero else seconds created }

def queueIdPlaces : IdPlaces
  | ["id", "task"] | ["ids"] => some .task
  | _ => none

def queueCall (j : JsonValue) (src : List UInt8) : Reading JsonValue := do
  let sources := stepSources src
  let mut q : TaskQueue := {}
  let mut out : Array JsonValue := #[]
  let mut now := seconds 1794500000
  let mut enqueued : Int := 0
  let mut aliases : Aliases := {}
  for (st, i) in (← arrOf j "ops").zipIdx do
    now := now.add 1000
    let id := aliases.resolve (← str st "id")
    let done (r : Except Fault TaskQueue) (q : TaskQueue) : TaskQueue × JsonValue := match r with
      | .ok q' => (q', ok)
      | .error e => (q, fault e)
    match ← str st "op" with
    | "enqueue" =>
      let t ← enqueuedArg st (payloadText st sources[i]?) enqueued
      enqueued := enqueued + 1
      match q.enqueue now t with
      | .ok (t, q') =>
        q := q'
        out := out.push (.obj [("task", .obj (queuedFields t))])
      | .error e => out := out.push (fault e)
    | "dequeue" =>
      match q.dequeue now (← str st "worker") (← strs st "types") with
      | .ok (t, q') =>
        q := q'
        out := out.push (.obj [("task", opt (fun t => .obj (queuedFields t)) t)])
      | .error e => out := out.push (fault e)
    | "complete" => let (q', a) := done (q.complete now id) q; q := q'; out := out.push a
    | "cancel" => let (q', a) := done (q.cancel now id) q; q := q'; out := out.push a
    | "fail" =>
      match q.fail now id (← str st "error") with
      | .error (.crash m) => return panicked m
      | r => let (q', a) := done r q; q := q'; out := out.push a
    | "heartbeat" => let (q', a) := done (q.heartbeat now id (← str st "worker")) q; q := q'; out := out.push a
    | "get" => out := out.push (orFault (fun t => .obj [("task", .obj (queuedFields t))]) (q.get id))
    | "list" => out := out.push (.obj [("ids", texts ((q.list (← filterArg st)).map (·.id)))])
    | "stats" => out := out.push (stats q.stats)
    | "cleanup" =>
      let (n, q') := q.cleanup now (← int st "older_than_ns")
      q := q'
      out := out.push (.obj [("removed", n)])
    | "close" => q := q.close; out := out.push ok
    | _ => throw "unknown queue op"
    let (shown, next) := aliases.apply queueIdPlaces (out.back?.getD .null)
    aliases := next
    out := out.pop.push shown
  return .obj [("results", .arr out.toList)]

end MediaTimeline.Rpc

import MediaTimeline.Rpc.Sql
import MediaTimeline.Tasks.Table

/-! A task queue kept in a scripted database, driven step by step. -/

namespace MediaTimeline.Rpc

open JsonValue Sql

def storedTask (t : Task) : JsonValue :=
  .obj (queuedFields t ++ [("scheduled_at", when t.scheduledAt), ("created_at", when t.createdAt)])

def tableTaskArg (st : JsonValue) (payload : String) : Reading Task := do
  let time (k : String) : Reading Instant := do pure ((← optInt st k).map seconds |>.getD .zero)
  pure {
      id := ← str st "id", kind := ← str st "type", status := TaskStatus.ofText (← str st "status"),
      priority := ← int st "priority", maxRetries := ← int st "max_retries", flow := ← str st "flow_id",
      payload := payload,
      scheduledAt := ← time "scheduled_at", createdAt := ← time "created_at" }

/-- What a step on a task table does and how its result is shown, with the
count of ids generated after it; `issued` counts those generated before it, and
an enqueue of a task without an id generates one whether or not it succeeds.
`src` is the step's text, and `resolve` gives the id an alias stands for. -/
def tableStep (tq : TaskTable) (issued : Nat) (resolve : String → String) (st : JsonValue)
    (src : Option (List UInt8)) : Reading (StoreM JsonValue × Nat) := do
  let id := resolve (← str st "id")
  let shown {α : Type} (f : α → JsonValue) (m : StoreM α) : StoreM JsonValue × Nat := (f <$> m, issued)
  match ← str st "call" with
  | "enqueue" =>
    let t ← tableTaskArg st (payloadText st src)
    let fresh := if t.id.isEmpty then issued + 1 else issued
    pure ((fun t => .obj [("task", storedTask t)]) <$> tq.enqueue (generatedId fresh) t, fresh)
  | "dequeue" =>
    let worker ← str st "worker"
    let kinds ← strs st "types"
    pure (shown (fun t => .obj [("task", opt storedTask t)]) (tq.dequeue worker kinds))
  | "complete" => pure (shown (fun _ => ok) (tq.complete id))
  | "cancel" => pure (shown (fun _ => ok) (tq.cancel id))
  | "fail" =>
    let problem ← str st "error"
    pure (shown (fun _ => ok) (tq.fail id problem))
  | "heartbeat" =>
    let worker ← str st "worker"
    pure (shown (fun _ => ok) (tq.heartbeat id worker))
  | "get" => pure (shown (fun t => .obj [("task", storedTask t)]) (tq.lookup id))
  | "list" =>
    let f ← filterArg st
    pure (shown (fun ts => .obj [("tasks", .arr (ts.map storedTask))]) (tq.list f))
  | "stats" => pure (shown stats tq.stats)
  | "cleanup" =>
    let olderThan ← int st "older_than_ns"
    pure (shown (fun n => .obj [("removed", JsonValue.int n)]) (tq.cleanup olderThan))
  | "reclaim" =>
    pure (shown (fun (n, e) => match e with
      | some e => (fault e).set "reclaimed" (JsonValue.int n)
      | none => .obj [("reclaimed", JsonValue.int n)]) tq.reclaimStale)
  | "close" => pure (pure ok, issued)
  | _ => throw "unknown dbqueue call"

def tableIdPlaces : IdPlaces
  | ["id", "task"] | ["id", "tasks"] => some .task
  | _ => none

def taskTableCall (j : JsonValue) (src : List UInt8) : Reading JsonValue := do
  let sources := stepSources src
  let created := TaskTable.create (!(← flag j "nil_db")) (← str j "driver") (← str j "table") (← int j "visibility_ns")
  match created with
  | .error e => return .obj [("new", fault e)]
  | .ok tq =>
    let mut results : List JsonValue := []
    let mut issued : Nat := 0
    let mut aliases : Aliases := {}
    for (st, i) in (← arrOf j "ops").zipIdx do
      let (step, n) ← tableStep tq issued aliases.resolve st sources[i]?
      issued := n
      let conn ← stepConnection st
      let (r, after) := (step.run).run conn
      if let .error (.crash m) := r then return panicked m
      let reply := match r with
        | .ok v => v
        | .error e => fault e
      let (shown, next) := aliases.apply tableIdPlaces (reply.set "log" (connectionLog after))
      aliases := next
      results := results ++ [shown]
    return .obj [("new", .obj [("visibility_ns", JsonValue.int tq.visibility)]), ("results", .arr results)]

end MediaTimeline.Rpc

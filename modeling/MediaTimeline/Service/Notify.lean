import MediaTimeline.Service.Index
import MediaTimeline.Cleanup.Batches

/-! Work the service hands to the task queue. -/

namespace MediaTimeline

namespace ServiceM

def cleanupDoc (ids : List String) : JsonValue :=
  .obj [("object_ids", .arr (ids.map .str))]

def requestDoc (id : String) : JsonValue :=
  .obj [("delete_request_id", .str id)]

/-- Raises an event as a task, unless events are off; a refused task is dropped. -/
def emit (name flow range : String) (count : Int) : ServiceM Unit := do
  if !(← get).config.events then return
  let t ← now
  let n ← modifyGet fun s => (s.raised + 1, { s with raised := s.raised + 1 })
  let p : EventPayload :=
    { name := name, flow := flow, range := range, count := count,
      timestamp := t / 1000000, sequencer := hex12 n }
  let id ← freshId .task
  tryCatch (discard <| enqueue
    { id := id, kind := eventTask, priority := 5, payload := p.toDoc.render,
      maxRetries := 3, flow := flow })
    fun _ => pure ()

def segmentsAdded (flow : String) (r : TimeRange) (count : Int) : ServiceM Unit :=
  emit segmentsAddedEvent flow r.toText count

def segmentsDeleted (flow : String) (r : TimeRange) (count : Int) : ServiceM Unit :=
  emit segmentsDeletedEvent flow r.toText count

def flowDeleted (flow : String) : ServiceM Unit :=
  emit flowDeletedEvent flow "" 0

def cleanupEnvelope : Int := (cleanupDoc []).render.utf8ByteSize - 2

/-- Hands objects to cleanup, in batches whose payloads fit the message cap; a
cap that the batching arithmetic cannot follow crashes the run. -/
def dispatch (ids : List String) : ServiceM Unit := do
  let cfg := (← get).config
  let batches ← match Cleanup.pack ids (max (cfg.maxMessageSize - cleanupEnvelope) 1) with
    | .ok bs => pure bs
    | .error e => crash e.message
  let total := batches.length
  let rec go : List (List String) → Nat → ServiceM Unit
    | [], _ => pure ()
    | b :: rest, i => do
      step ("enqueue cleanup batch " ++ toString (i + 1) ++ "/" ++ toString total) <|
        discard <| enqueue
          { kind := objectCleanupTask, priority := 0, payload := (cleanupDoc b).render,
            maxRetries := cfg.cleanupRetries }
      go rest (i + 1)
  go batches 0

def scheduleContinuation (r : DeleteRequest) : ServiceM Unit :=
  discard <| enqueue
    { kind := deleteRequestTask, priority := 5, payload := (requestDoc r.id).render,
      maxRetries := 5, flow := r.flow }

def noteSegmentsDeleted (flow : String) (r : TimeRange) (count : Int) : ServiceM Unit := do
  forgetFlow flow
  segmentsDeleted flow r count

def noteFlowDeleted (flow : String) : ServiceM Unit := do
  forgetFlow flow
  flowDeleted flow

end ServiceM

end MediaTimeline

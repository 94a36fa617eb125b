import MediaTimeline.Deletion.Engine
import MediaTimeline.Json.Decode

/-! What the service does with each kind of task. -/

namespace MediaTimeline

def primaryPublisher : String := "p1"

def secondaryPublisher : String := "p2"

namespace TaskPayload

open Json

def requestId (payload : String) : Except DecodeError String :=
  decodeRecordText "DeleteRequestPayload" "taskqueue.DeleteRequestPayload"
    [⟨"delete_request_id", fun p v s => (decodeText p v).map (·.getD s)⟩] "" (Text.utf8Bytes payload)

def objectIds (payload : String) : Except DecodeError (List String) :=
  decodeRecordText "ObjectCleanupPayload" "taskqueue.ObjectCleanupPayload"
    [⟨"object_ids", fun p v _ => (decodeTexts p v).map (·.getD [])⟩] [] (Text.utf8Bytes payload)

def eventRules : List (FieldRule EventPayload) :=
  [⟨"event_name", fun p v e => (decodeText p v).map fun s => { e with name := s.getD e.name }⟩,
   ⟨"flow_id", fun p v e => (decodeText p v).map fun s => { e with flow := s.getD e.flow }⟩,
   ⟨"timerange", fun p v e => (decodeText p v).map fun s => { e with range := s.getD e.range }⟩,
   ⟨"count", fun p v e => (decodeInt "int" p v).map fun n => { e with count := n.getD e.count }⟩,
   ⟨"timestamp", fun p v e =>
     (decodeInt "int64" p v).map fun n => { e with timestamp := n.getD e.timestamp }⟩,
   ⟨"sequencer", fun p v e =>
     (decodeText p v).map fun s => { e with sequencer := s.getD e.sequencer }⟩]

def event (payload : String) : Except DecodeError EventPayload :=
  decodeRecordText "EventPayload" "taskqueue.EventPayload" eventRules
    { name := "", flow := "" } (Text.utf8Bytes payload)

end TaskPayload

namespace ServiceM

def handleDeleteRequest (taskId payload : String) : ServiceM Unit := do
  let id ← match TaskPayload.requestId payload with
    | .ok id => pure id
    | .error _ => pure ""
  if id.isEmpty then throw (.badPayload ("delete_request task " ++ taskId) none)
  match (← get).store.getRequest id with
  | .error _ => pure ()
  | .ok req =>
    let budget := (← get).config.budget
    discard <| runRequest req fun _ => budget

/-- Removes one object from every blob store unless a segment still holds it;
answers the failure to count its holders, if any. -/
def cleanObject (object : String) : ServiceM (Option Fault) := do
  let refs ← tryCatch (Except.ok <$> countReferences object) fun e => pure (Except.error e)
  match refs with
  | .error e => pure (some (.within ("count references of " ++ object) e))
  | .ok n =>
    if n = 0 then modify fun s => { s with blobs := s.blobs.eraseEverywhere object }
    pure none

/-- Removes a cleanup task's unreferenced objects from blob storage; the
failures, if any, are reported together. -/
def handleObjectCleanup (taskId payload : String) : ServiceM Unit := do
  let ids ← match TaskPayload.objectIds payload with
    | .ok ids => pure ids
    | .error e => throw (.badPayload ("object_cleanup task " ++ taskId) (some (.plain e.message)))
  let failures ← ids.filterMapM cleanObject
  if !failures.isEmpty then throw (.joined failures)

def handleEvent (payload : String) : ServiceM Unit := do
  match TaskPayload.event payload with
  | .error _ => pure ()
  | .ok p =>
    if !eventMatchesAny (← get).config.eventTypes p.name then return
    let deliver (pub : String) : ServiceM Unit :=
      modify fun s => { s with deliveries := s.deliveries ++ [⟨pub, p.flow, p.toEvent⟩] }
    deliver primaryPublisher
    if (← get).outages.publisher then throw (.joined [.outage ("publisher " ++ secondaryPublisher ++ " down")])
    deliver secondaryPublisher

def handle (kind taskId payload : String) : ServiceM Unit :=
  if kind == deleteRequestTask then handleDeleteRequest taskId payload
  else if kind == objectCleanupTask then handleObjectCleanup taskId payload
  else if kind == eventTask then handleEvent payload
  else pure ()

end ServiceM

end MediaTimeline

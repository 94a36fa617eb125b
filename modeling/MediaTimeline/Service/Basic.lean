import MediaTimeline.Store.Query
import MediaTimeline.Tasks.Queue
import MediaTimeline.Cache
import MediaTimeline.Blobs
import MediaTimeline.Events.Event

/-! The state of a running service and the operations every part of it uses. -/

namespace MediaTimeline

/-- The settings of a service; each setting of zero or less takes its default. -/
structure ServiceConfig where
  batchSize : Int := 100
  safetyMargin : Int := 5000000000
  maxMessageSize : Int := 250000
  cleanupRetries : Int := 10
  events : Bool := true
  budget : Int := 60000000000
  eventTypes : List String := []
deriving Inhabited

/-- Calls made to fail on purpose. A count `n` makes every call fail once `n`
calls have gone through to the store since the plan was set, whatever the store
answered them. -/
structure Outages where
  deleteAfter : Option Nat := none
  queryAfter : Option Nat := none
  putRequestAfter : Option Nat := none
  countReferences : Bool := false
  putSegment : Bool := false
  getFlow : Bool := false
  touch : Bool := false
  enqueueKinds : List String := []
  publisher : Bool := false
  queueCalls : List String := []
  deletes : Nat := 0
  queries : Nat := 0
  requestPuts : Nat := 0
deriving Inhabited

/-- What a service is built on: a metadata store and a task queue, both required. -/
structure ServiceParts where
  store : Bool
  queue : Bool
deriving Inhabited

def ServiceParts.check (p : ServiceParts) : Except Fault Unit :=
  if !p.store then .error (.plain "service: DB is required")
  else if !p.queue then .error (.plain "service: Queue is required")
  else .ok ()

/-- An event emitter raises events only when it is switched on and has a queue. -/
structure Emitter where
  enabled : Bool
  queue : Bool
deriving Inhabited

def Emitter.isEnabled (e : Emitter) : Bool := e.enabled && e.queue

/-- What a generated id names. -/
inductive IdUse where
  | task
  | request
deriving DecidableEq, Inhabited

/-- An event handed to a publisher. -/
structure Delivery where
  publisher : String
  key : String
  event : JsonValue
deriving Inhabited

/-- The state of a service. -/
structure Service where
  config : ServiceConfig := {}
  store : Store := {}
  flows : Cache Flow := { ttl := 3600000000000, maxSize := 10000 }
  queue : TaskQueue := {}
  accepted : List Task := []
  blobs : BlobStores := {}
  outages : Outages := {}
  deliveries : List Delivery := []
  clock : Int := 978307200000000000
  issued : List (String × IdUse) := []
  raised : Nat := 0
  executed : Nat := 0
deriving Inhabited

/-- A failure of the machine running a step rather than of the step: it
unwinds every step that catches failures, up to a worker running a handler,
which reports it as the handler's failure, or else it ends the whole run. -/
structure Crash where
  message : String
deriving Inhabited

abbrev ServiceM := ExceptT Fault (ExceptT Crash (StateM Service))

namespace ServiceM

def now : ServiceM Int :=
  modifyGet fun s => (s.clock + 1, { s with clock := s.clock + 1 })

def instant : ServiceM Instant := Instant.ofNanos <$> now

/-- A new id in the shape of a random UUID, recorded with what it names. -/
def freshId (use : IdUse) : ServiceM String :=
  modifyGet fun s =>
    let id := generatedId (s.issued.length + 1)
    (id, { s with issued := s.issued ++ [(id, use)] })

def crash {α : Type} (message : String) : ServiceM α := throwThe Crash ⟨message⟩

def outage {α : Type} (what : String) : ServiceM α := throw (.outage what)

def withStore {α : Type} (f : Store → Except Fault (α × Store)) : ServiceM α := do
  match f (← get).store with
  | .ok (a, st) => modify (fun s => { s with store := st }); pure a
  | .error e => throw e

/-- Counts a call against a failure threshold: fails once the count is reached,
else counts one more success. -/
def countCall (limit : Option Nat) (count : Nat) : Bool := limit.any (· ≤ count)

def putSegment (seg : Segment) : ServiceM Unit := do
  if (← get).outages.putSegment then outage "segment table unavailable"
  modify fun s => { s with store := s.store.putSegment seg }

def query (q : SegmentQuery) : ServiceM SegmentPage := do
  let o := (← get).outages
  if countCall o.queryAfter o.queries then outage "query unavailable"
  modify fun s => { s with outages := { s.outages with queries := s.outages.queries + 1 } }
  pure ((← get).store.query q)

def deleteSegment (flow : String) (stop : Int) : ServiceM Segment := do
  let o := (← get).outages
  if countCall o.deleteAfter o.deletes then outage "storage unavailable"
  modify fun s => { s with outages := { s.outages with deletes := s.outages.deletes + 1 } }
  withStore fun st => st.deleteSegment flow stop

def countReferences (object : String) : ServiceM Nat := do
  if (← get).outages.countReferences then outage "object index unavailable"
  pure ((← get).store.countReferences object)

def loadFlow (id : String) : ServiceM Flow := do
  if (← get).outages.getFlow then outage "flow table unavailable"
  match (← get).store.getFlow id with
  | .ok f => pure f
  | .error e => throw e

def touchFlow (id : String) : ServiceM Unit := do
  let t ← instant
  if (← get).outages.touch then outage "flow table unavailable"
  withStore fun st => (st.touchFlow id t).map ((), ·)

def putRequest (r : DeleteRequest) : ServiceM Unit := do
  let o := (← get).outages
  if countCall o.putRequestAfter o.requestPuts then outage "request table unavailable"
  modify fun s => { s with
    store := s.store.putRequest r
    outages := { s.outages with requestPuts := s.outages.requestPuts + 1 } }

/-- Reads a flow through the cache, loading and caching it when absent. -/
def cachedFlow (id : String) : ServiceM Flow := do
  let t ← now
  match (← get).flows.get? t id with
  | some f => pure f
  | none =>
    let f ← loadFlow id
    let t ← now
    modify fun s => { s with flows := s.flows.set t id f }
    pure f

def forgetFlow (id : String) : ServiceM Unit :=
  modify fun s => { s with flows := s.flows.erase id }

/-- Puts a task on the queue and records it; a task without an id gets one. -/
def enqueue (t : Task) : ServiceM Task := do
  let t ← if t.id.isEmpty then do pure { t with id := ← freshId .task } else pure t
  if (← get).outages.enqueueKinds.contains t.kind then outage "queue unavailable"
  let time ← instant
  match (← get).queue.enqueue time t with
  | .ok (t, q) =>
    modify fun s => { s with queue := q, accepted := s.accepted ++ [t] }
    pure t
  | .error e => throw e

end ServiceM

end MediaTimeline

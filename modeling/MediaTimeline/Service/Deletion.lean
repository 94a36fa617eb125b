import MediaTimeline.Service.Segments

/-! Deleting segments and flows. -/

namespace MediaTimeline

/-- What a deletion did: the request it left pending, or how many segments it removed. -/
structure DeleteOutcome where
  request : Option DeleteRequest := none
  deleted : Nat := 0
deriving Inhabited

def DeleteOutcome.pending (o : DeleteOutcome) : Bool := o.request.isSome

namespace ServiceM

def submitRequest (flow : String) (r : TimeRange) (deleteFlow : Bool) (createdBy : String) :
    ServiceM DeleteRequest := do
  let t ← instant
  let id ← freshId .request
  let req : DeleteRequest :=
    { id := id, flow := flow, deleteFlow := deleteFlow, toDelete := r, remaining := r,
      status := .created, createdBy := createdBy, created := t, updated := t }
  step "create delete request" (putRequest req)
  step "queue delete request" (scheduleContinuation req)
  pure req

/-- The pass over one page of an object's segments: removes those wholly inside
`r`, adding to the count and the range covered. -/
def removeContained (flow : String) (r : TimeRange) :
    List Segment → Nat → TimeRange → ServiceM (Nat × TimeRange)
  | [], n, covered => pure (n, covered)
  | s :: rest, n, covered => do
    if !r.contains s.range then removeContained flow r rest n covered
    else
      match ← step ("delete segment " ++ s.range.toText) (remove flow s.stop) with
      | some gone => removeContained flow r rest (n + 1) (covered.extend gone.range)
      | none => removeContained flow r rest n covered

/-- Removes, page by page from `cursor` on, an object's segments wholly inside `r`.
The fuel bounds the number of pages. -/
def removeObjectPages (flow object : String) (r : TimeRange) :
    Nat → TimeRange → Nat → TimeRange → ServiceM (Nat × TimeRange)
  | 0, _, n, covered => pure (n, covered)
  | fuel + 1, cursor, n, covered => do
    if cursor.isEmpty then return (n, covered)
    let (q, ok) ← plan flow
      { object := object, limit := maxPageLimit,
        range := if cursor.isEternity then none else some cursor }
    if !ok then return (n, covered)
    let page ← step "query object segments" (query q)
    if page.segments.isEmpty then return (n, covered)
    let (n, covered) ← removeContained flow r page.segments n covered
    match page.lastKey, page.segments.getLast? with
    | some _, some last => removeObjectPages flow object r fuel (r.intersect last.range.after) n covered
    | _, _ => pure (n, covered)

def deleteObjectSegments (flow object : String) (r : TimeRange) : ServiceM Nat := do
  let fuel := (← get).store.segments.length + 1
  let (n, covered) ← removeObjectPages flow object r fuel r 0 TimeRange.never
  if n = 0 then return 0
  touch flow
  segmentsDeleted flow covered n
  step "dispatch object cleanup" (dispatch [object])
  pure n

def deleteSegments (flow : String) (range : Option TimeRange) (object createdBy : String) :
    ServiceM DeleteOutcome := do
  discard <| writableFlow flow
  let r := range.getD TimeRange.eternity
  if !object.isEmpty then
    return { deleted := ← deleteObjectSegments flow object r }
  if !(← step "check segments" (hasSegments flow r)) then return {}
  pure { request := some (← submitRequest flow r false createdBy) }

def deleteFlow (flow createdBy : String) : ServiceM DeleteOutcome := do
  discard <| writableFlow flow
  if ← step "check segments" (hasSegments flow TimeRange.eternity) then
    return { request := some (← submitRequest flow TimeRange.eternity true createdBy) }
  withStore fun st => (st.deleteFlow flow).map ((), ·)
  forgetFlow flow
  flowDeleted flow
  pure {}

def getRequest (id : String) : ServiceM DeleteRequest := do
  match (← get).store.getRequest id with
  | .ok r => pure r
  | .error e => throw e

def listRequests (flow : String) : ServiceM (List DeleteRequest) := do
  pure ((← get).store.listRequests flow)

end ServiceM

end MediaTimeline

import MediaTimeline.Service.Notify

/-! Flows as the service serves them. -/

namespace MediaTimeline

namespace ServiceM

/-- Stores a flow's document, answering the flow as stored; its id is required. -/
def putFlow (f : Flow) : ServiceM Flow := do
  if f.id.isEmpty then refuse .idRequired
  let t ← instant
  let old ← tryCatch (some <$> loadFlow f.id) fun e =>
    match e with
    | .missing .flow => pure none
    | e => throw (.within "load flow" e)
  let f := match old with
    | some o => { f with created := o.created, segmentsUpdated := o.segmentsUpdated, updated := t }
    | none => { f with created := t, updated := t }
  modify fun s => { s with store := s.store.putFlow f }
  forgetFlow f.id
  pure f

def getFlow (id : String) : ServiceM Flow := cachedFlow id

def writableFlow (id : String) : ServiceM Flow := do
  let f ← cachedFlow id
  if f.readOnly then throw (.readOnly id)
  pure f

def touch (flow : String) : ServiceM Unit := do
  tryCatch (touchFlow flow) fun _ => pure ()
  forgetFlow flow

end ServiceM

end MediaTimeline

import MediaTimeline.Service.Flows

/-! Segments as the service serves them. -/

namespace MediaTimeline

namespace ServiceM

def postSegment (flow : String) (seg : Segment) : ServiceM Segment := do
  let f ← writableFlow flow
  if f.container.isEmpty then refuse .noContainer
  let seg ← insert { seg with flow := flow }
  touch flow
  segmentsAdded flow seg.range 1
  pure seg

def listSegments (flow : String) (p : ListParams) : ServiceM Listing := do
  discard <| cachedFlow flow
  list flow p

def flowTimerange (flow : String) : ServiceM TimeRange := do
  discard <| cachedFlow flow
  flowRange flow

/-- Adds storage ids to the segment of a flow that ends where `r` ends; `r` must be bounded. -/
def appendStorageIds (flow : String) (r : TimeRange) (ids : List String) : ServiceM Unit := do
  let stop ← match r.stopKey with
    | .ok b => if r.isBounded then pure b else refuse (.rangeNotBounded none)
    | .error e => refuse (.rangeNotBounded (some e))
  discard <| cachedFlow flow
  withStore fun st => (st.appendStorageIds flow stop ids).map ((), ·)

end ServiceM

end MediaTimeline

import MediaTimeline.Service.Deletion
import MediaTimeline.Deletion.Trim

/-! Carrying out a delete request. -/

namespace MediaTimeline

/-- What a run of a delete request did. -/
structure RunReport where
  status : RequestStatus
  batches : Nat := 0
  deleted : Nat := 0
  objects : Nat := 0
  checkpointed : Bool := false
  budgetReads : Nat := 0
deriving Inhabited

/-- What one batch did. -/
structure BatchReport where
  deleted : Nat := 0
  objects : Nat := 0
  more : Bool := false
  last : Option TimeRange := none
deriving Inhabited

def budgetReading (readings : List Int) (n : Nat) : Int :=
  match readings[n]? with
  | some t => t
  | none => readings.getLast?.getD 3600000000000

namespace ServiceM

/-- Removes the segments of a batch in order, stopping at the first failure;
answers how many went, the range they covered, their objects once each, and
the failure. -/
def removeBatch (flow : String) :
    List Segment → Nat → TimeRange → List String → ServiceM (Nat × TimeRange × List String × Option Fault)
  | [], n, covered, objs => pure (n, covered, objs, none)
  | s :: rest, n, covered, objs => do
    let removed ← tryCatch (Except.ok <$> remove flow s.stop) fun e =>
      pure (Except.error (Fault.within ("delete segment " ++ s.range.toText) e))
    match removed with
    | .error e => pure (n, covered, objs, some e)
    | .ok none => removeBatch flow rest n covered objs
    | .ok (some gone) =>
      removeBatch flow rest (n + 1) (covered.extend gone.range)
        (if objs.contains gone.object then objs else objs ++ [gone.object])

def runBatch (flow : String) (toDelete cursor : TimeRange) : ServiceM (BatchReport × Option Fault) := do
  let planned ← tryCatch (Except.ok <$> plan flow { range := some cursor, limit := (← get).config.batchSize })
    fun e => pure (Except.error e)
  match planned with
  | .error e => pure ({}, some (.within "plan batch" e))
  | .ok (_, false) => pure ({}, none)
  | .ok (q, true) =>
  let page ← tryCatch (Except.ok <$> query q) fun e => pure (Except.error e)
  match page with
  | .error e => pure ({}, some (.within "query batch" e))
  | .ok page =>
  let b : BatchReport := { more := page.lastKey.isSome, last := page.segments.getLast?.map (·.range) }
  let items := trimEnds toDelete (·.range) page.segments
  let (n, covered, objs, failure) ← removeBatch flow items 0 TimeRange.never []
  let b := { b with deleted := n }
  if 0 < n then
    tryCatch (touchFlow flow) fun _ => pure ()
    noteSegmentsDeleted flow covered n
  if objs.isEmpty then return (b, failure)
  let b := { b with objects := objs.length }
  let sent ← tryCatch (Except.ok <$> dispatch objs) fun e => pure (Except.error e)
  match sent with
  | .ok () => pure (b, failure)
  | .error e => pure (b, some (.joined (failure.toList ++ [.within "dispatch object cleanup" e])))

def runBatches (req : DeleteRequest) (timeLeft : Nat → Int) :
    Nat → TimeRange → RunReport → ServiceM (RunReport × TimeRange × Bool × Option Fault)
  | 0, cursor, r => pure (r, cursor, true, none)
  | fuel + 1, cursor, r => do
    let (b, failure) ← runBatch req.flow req.toDelete cursor
    let r := { r with batches := r.batches + 1, deleted := r.deleted + b.deleted,
                      objects := r.objects + b.objects }
    if failure.isSome then return (r, cursor, true, failure)
    let cursor := match b.last with
      | some l => req.toDelete.intersect l.after
      | none => cursor
    if !b.more then return (r, cursor, false, none)
    let left := timeLeft r.budgetReads
    let r := { r with budgetReads := r.budgetReads + 1 }
    if left ≤ (← get).config.safetyMargin then return (r, cursor, true, none)
    runBatches req timeLeft fuel cursor r

def runRequest (req : DeleteRequest) (timeLeft : Nat → Int) : ServiceM (RunReport × DeleteRequest) := do
  if req.terminal then return ({ status := req.status }, req)
  let req ← if req.status == .created then do
      let req := { req with status := .started, updated := ← instant }
      step "mark delete request started" (putRequest req)
      pure req
    else pure req
  let fuel := (← get).store.segments.length + 2
  let (r, cursor, more, failure) ← runBatches req timeLeft fuel req.remaining { status := req.status }
  let t ← instant
  let req := { req with updated := t }
  match failure with
  | some e =>
    let req := { req with
      status := .failed
      remaining := cursor
      failure := some ⟨e.innermostKind, e.message⟩ }
    step "persist failed delete request" (putRequest req)
    pure ({ r with status := .failed }, req)
  | none =>
    if !more then
      if req.deleteFlow then
        tryCatch (withStore fun st => (st.deleteFlow req.flow).map ((), ·)) fun e =>
          match e with
          | .missing .flow => pure ()
          | e => throw (.within "delete flow" e)
        noteFlowDeleted req.flow
      let req := { req with status := .done, remaining := TimeRange.never }
      step "persist completed delete request" (putRequest req)
      pure ({ r with status := .done }, req)
    else
      let req := { req with remaining := cursor }
      step "checkpoint delete request" (putRequest req)
      step "schedule continuation" (scheduleContinuation req)
      pure ({ r with status := req.status, checkpointed := true }, req)

end ServiceM

end MediaTimeline

import MediaTimeline.Service.Basic
import MediaTimeline.Paging

/-! The segment index: inserting, planning queries, and listing pages. -/

namespace MediaTimeline

namespace ServiceM

def refuse {α : Type} (v : Violation) : ServiceM α := throw (.invalid v)

def step {α : Type} (name : String) (m : ServiceM α) : ServiceM α :=
  tryCatch m fun e => throw (.within name e)

/-- Adds a segment to its flow: the ids must be given, the range must have keys,
and no stored segment of the flow may share an instant with it. Answers the
segment with its keys. -/
def insert (seg : Segment) : ServiceM Segment := do
  if seg.flow.isEmpty then refuse .flowIdRequired
  if seg.object.isEmpty then refuse .objectIdRequired
  let seg ← match seg.withKeys with
    | .ok s => pure s
    | .error e => refuse (.segmentRange e)
  let page ← step "overlap check" <| query
    { flow := seg.flow, endMin := some seg.start, startMax := some seg.stop, limit := 1 }
  if let some other := page.segments.head? then
    throw (.overlap seg.flow seg.range other.range)
  step "put segment" (putSegment seg)
  pure seg

def remove (flow : String) (stop : Int) : ServiceM (Option Segment) :=
  tryCatch (some <$> deleteSegment flow stop) fun e =>
    match e with
    | .missing .segment => pure none
    | e => throw e

def first? (flow : String) (ascending : Bool) : ServiceM (Option Segment) := do
  pure (← query { flow := flow, reverse := !ascending, limit := 1 }).segments.head?

def exactEnd (flow : String) (bound : Int) : ServiceM Int := do
  match (← query { flow := flow, endMin := some bound, limit := 1 }).segments.head? with
  | some s => pure (if s.start ≤ bound then s.stop else bound)
  | none => pure bound

def flowRange (flow : String) : ServiceM TimeRange := do
  match ← first? flow true with
  | none => pure TimeRange.never
  | some a => match ← first? flow false with
    | none => pure a.range
    | some b => pure (a.range.extend b.range)

/-- Turns listing parameters into a query of `flow`. The flag is false when the
range is empty, so nothing is to be queried. -/
def plan (flow : String) (p : ListParams) : ServiceM (SegmentQuery × Bool) := do
  let q : SegmentQuery :=
    { flow := flow, object := p.object, reverse := p.reverse,
      limit := if p.limit ≤ 0 then defaultPageLimit else p.limit }
  let q ← if p.page.isEmpty then pure q else
    match SegmentKey.ofToken p.page with
    | .error v => refuse v
    | .ok k => if k.flow != flow then refuse .pageOfOtherFlow else pure { q with after := some k }
  match p.range with
  | none => pure (q, true)
  | some r =>
    if r.isEternity then pure (q, true)
    else if r.isEmpty then pure (q, false)
    else
      let q ← match r.lower with
        | none => pure q
        | some _ => match r.startKey with
          | .ok a => pure { q with endMin := some a }
          | .error e => refuse (.startOutOfRange e)
      match r.upper with
      | none => pure (q, true)
      | some _ => match r.stopKey with
        | .error e => refuse (.stopOutOfRange e)
        | .ok b =>
          let q ← if r.lower.isNone && p.object.isEmpty then do
              pure { q with endMax := some (← exactEnd flow b) }
            else pure q
          pure ({ q with startMax := some b }, true)

/-- All segments a query selects, read page by page (of 1000 when the query
sets no limit). The fuel bounds the number of pages. -/
def iteratePages (q : SegmentQuery) : Nat → ServiceM (List Segment)
  | 0 => pure []
  | fuel + 1 => do
    let page ← query q
    match page.lastKey with
    | none => pure page.segments
    | some k => return page.segments ++ (← iteratePages { q with after := some k } fuel)

def iterate (q : SegmentQuery) : ServiceM (List Segment) := do
  let q := if q.limit ≤ 0 then { q with limit := 1000 } else q
  iteratePages q ((← get).store.segments.length + 1)

def hasSegments (flow : String) (r : TimeRange) : ServiceM Bool := do
  let (q, ok) ← plan flow { range := some r, limit := 1 }
  if !ok then return false
  pure !(← query q).segments.isEmpty

end ServiceM

/-- A page of a listing, with what the caller needs to continue it. -/
structure Listing where
  segments : List Segment := []
  range : TimeRange := TimeRange.never
  reverse : Bool := false
  nextPage : String := ""
  limit : Int := 0
deriving Inhabited

namespace Listing

def count (l : Listing) : Nat := l.segments.length

def headers (l : Listing) : List (String × String) :=
  [("X-Paging-Count", toString l.count), ("X-Paging-Timerange", l.range.toText),
    ("X-Paging-Reverse-Order", if l.reverse then "true" else "false"),
    ("X-Paging-Limit", toString l.limit)] ++
  (if l.nextPage.isEmpty then [] else [("X-Paging-Nextkey", l.nextPage)])

end Listing

namespace ServiceM

def list (flow : String) (p : ListParams) : ServiceM Listing := do
  match p.validate with
  | .error v => refuse v
  | .ok () => pure ()
  let p := { p with limit := clampLimit p.limit }
  let (q, ok) ← plan flow p
  let empty : Listing := { reverse := p.reverse, limit := p.limit }
  if !ok then return empty
  let page ← query q
  let range := match page.segments.head?, page.segments.getLast? with
    | some a, some b => if page.segments.length = 1 then a.range else a.range.extend b.range
    | _, _ => TimeRange.never
  pure { empty with
    segments := page.segments
    range := range
    nextPage := (page.lastKey.map SegmentKey.toToken).getD "" }

end ServiceM

end MediaTimeline

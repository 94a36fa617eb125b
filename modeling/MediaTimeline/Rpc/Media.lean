import MediaTimeline.Rpc.Basic
import MediaTimeline.Paging
import MediaTimeline.Service.Index
import MediaTimeline.Deletion.Request

/-! Replies that show the library's media values, and arguments that name them. -/

namespace MediaTimeline.Rpc

open JsonValue

/-- A stored timestamp: seconds, nanoseconds, text and nanosecond count (or why it has none). -/
def stampWords (w : Stamp.Words) : JsonValue :=
  .obj [("sec", w.sec.toInt), ("nsec", w.nsec.toInt), ("s", w.toText),
    ("ns", orFault JsonValue.int (w.toNanosec.map Int64.toInt))]

def stamp (t : Stamp) : JsonValue := stampWords t.words

def boundText (b : Option Bound) : JsonValue := opt (fun b => .str b.stamp.toText) b

def rangeFields (r : TimeRange) : List (String × JsonValue) :=
  [("s", r.toText), ("start", boundText r.lower), ("end", boundText r.upper),
    ("inc_start", (r.lower.map (·.closed)).getD false), ("inc_end", (r.upper.map (·.closed)).getD false),
    ("empty", r.isEmpty), ("eternity", r.isEternity), ("instant", r.isInstant),
    ("bounded", r.isBounded), ("start_ns", orFault JsonValue.int r.startKey),
    ("end_ns", orFault JsonValue.int r.stopKey)]

def range (r : TimeRange) : JsonValue := .obj (rangeFields r)

def key (k : SegmentKey) : JsonValue := k.toDoc

def segmentFields (s : Segment) : List (String × JsonValue) :=
  [("flow_id", s.flow), ("object_id", s.object), ("timerange", s.range.toText), ("start", s.start),
    ("end", s.stop), ("storage_ids", texts s.storageIds), ("doc", s.toDoc)]

def segment (s : Segment) : JsonValue := .obj (segmentFields s)

def segments (ss : List Segment) : JsonValue := .arr (ss.map segment)

/-- A delete request, with the kind and summary of its failure if it has one. -/
def request (r : DeleteRequest) : JsonValue :=
  .obj [("id", r.id), ("flow_id", r.flow), ("delete_flow", r.deleteFlow),
    ("timerange_to_delete", r.toDelete.toText), ("timerange_remaining", r.remaining.toText),
    ("status", r.status.text), ("created_by", r.createdBy), ("terminal", r.terminal),
    ("error", opt (fun (f : DeleteFailure) => .obj [("type", f.kind), ("summary", f.summary)]) r.failure)]

def flow (f : Flow) : JsonValue :=
  .obj [("id", f.id), ("source_id", f.source), ("label", f.label), ("container", f.container),
    ("read_only", f.readOnly), ("segments_updated", f.segmentsUpdated.isSome)]

def listing (l : Listing) : JsonValue :=
  .obj [("segments", segments l.segments), ("count", l.count),
    ("timerange", l.range.toText), ("reverse", l.reverse), ("next_page", l.nextPage), ("limit", l.limit),
    ("headers", .obj (l.headers.map fun (k, v) => (k, .str v)))]

def query (q : SegmentQuery) : JsonValue :=
  .obj [("flow_id", q.flow), ("object_id", q.object), ("end_min", opt JsonValue.int q.endMin),
    ("end_max", opt JsonValue.int q.endMax), ("start_max", opt JsonValue.int q.startMax),
    ("reverse", q.reverse), ("limit", q.limit), ("esk", opt key q.after)]

def stampArg (j : JsonValue) (k : String) : Reading (Except Fault Stamp.Words) := do
  return (Stamp.Words.parse (← str j k)).mapError Fault.stamp

def rangeArg (j : JsonValue) (k : String) : Reading (Except Fault TimeRange) := do
  return (TimeRange.parse (← str j k)).mapError Fault.range

/-- A range argument that is the whole timeline when absent; one given as
null is read from the empty text. -/
def valueRange (j : JsonValue) (k : String) : Reading (Except Fault TimeRange) := do
  match ← givenStr j k with
  | none => pure (.ok TimeRange.eternity)
  | some t => pure ((TimeRange.parse t).mapError Fault.range)

def optRange (j : JsonValue) (k : String) : Reading (Except Fault (Option TimeRange)) := do
  match ← optStr j k with
  | none => pure (.ok none)
  | some t => pure (((TimeRange.parse t).map some).mapError Fault.range)

def segmentOver (j : JsonValue) (flowKey : String) (r : Except Fault TimeRange) :
    Reading (Except Fault Segment) := do
  let seg : Segment := {
      flow := ← str j flowKey, object := ← str j "object", range := TimeRange.eternity,
      tsOffset := ← str j "ts_offset", lastDuration := ← str j "last_duration",
      sampleOffset := ← optInt j "sample_offset", sampleCount := ← optInt j "sample_count",
      keyFrameCount := ← optInt j "key_frame_count", storageIds := ← strs j "storage_ids" }
  pure (r.map fun r => { seg with range := r })

/-- A segment argument: its flow is field `flowKey`, its range `tr`, the whole
timeline when absent. -/
def segmentArg (j : JsonValue) (flowKey : String) : Reading (Except Fault Segment) := do
  segmentOver j flowKey (← valueRange j "tr")

def queryArg (j : JsonValue) : Reading SegmentQuery := do
  let esk ← match j.get "esk" with
    | .null => pure none
    | e => pure (some (⟨← str e "flow_id", ← int e "timerange_end"⟩ : SegmentKey))
  pure {
      flow := ← str j "flow", object := ← str j "object_id", endMin := ← optInt j "end_min",
      endMax := ← optInt j "end_max", startMax := ← optInt j "start_max", reverse := ← flag j "reverse",
      limit := ← int j "limit", after := esk }

end MediaTimeline.Rpc

import MediaTimeline.Time.Range.Text
import MediaTimeline.Json.Value

/-! Segments: the pieces of media a flow is made of. -/

namespace MediaTimeline

/-- A segment's place in the index: its flow and its end key. -/
structure SegmentKey where
  flow : String
  stop : Int
deriving DecidableEq, Inhabited

/-- A segment of a flow, with its descriptive fields and derived keys. -/
structure Segment where
  flow : String
  object : String
  range : TimeRange
  tsOffset : String := ""
  lastDuration : String := ""
  sampleOffset : Option Int := none
  sampleCount : Option Int := none
  keyFrameCount : Option Int := none
  storageIds : List String := []
  start : Int := 0
  stop : Int := 0
deriving DecidableEq, Inhabited

/-- Why a range cannot be a segment's. -/
inductive SegmentError where
  | emptyRange
  | unboundedRange (r : TimeRange)
  | key (e : KeyError)
deriving DecidableEq

def SegmentError.message : SegmentError → String
  | .emptyRange => "segment timerange is empty"
  | .unboundedRange r => "segment timerange must be bounded: " ++ r.toText
  | .key e => e.message

namespace Segment

/-- The first and last nanosecond of a segment's range: the range must be
non-empty and bounded, and both ends must have keys. -/
def keysOf (r : TimeRange) : Except SegmentError (Int × Int) :=
  if r.isEmpty then .error .emptyRange
  else if !r.isBounded then .error (.unboundedRange r)
  else match r.startKey, r.stopKey with
    | .error e, _ => .error (.key e)
    | _, .error e => .error (.key e)
    | .ok a, .ok b => .ok (a, b)

def withKeys (s : Segment) : Except SegmentError Segment :=
  (keysOf s.range).map fun (a, b) => { s with start := a, stop := b }

def make (flow object : String) (r : TimeRange) : Except SegmentError Segment :=
  withKeys { flow := flow, object := object, range := r }

def key (s : Segment) : SegmentKey := ⟨s.flow, s.stop⟩

def toDoc (s : Segment) : JsonValue :=
  let text (k v : String) : List (String × JsonValue) := if v.isEmpty then [] else [(k, .str v)]
  let count (k : String) : Option Int → List (String × JsonValue)
    | some n => [(k, .int n)]
    | none => []
  .obj ([("object_id", .str s.object), ("timerange", .str s.range.toText)] ++
    text "ts_offset" s.tsOffset ++ text "last_duration" s.lastDuration ++
    count "sample_offset" s.sampleOffset ++ count "sample_count" s.sampleCount ++
    count "key_frame_count" s.keyFrameCount ++
    (if s.storageIds.isEmpty then [] else [("storage_ids", .arr (s.storageIds.map .str))]))

end Segment

end MediaTimeline

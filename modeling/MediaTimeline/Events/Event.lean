import MediaTimeline.Json.Value
import MediaTimeline.Time.Stamp

/-! Change events of flows. -/

namespace MediaTimeline

attribute [local instance (high)] instPowNat

def segmentsAddedEvent : String := "flows/segments_added"

def segmentsDeletedEvent : String := "flows/segments_deleted"

def flowDeletedEvent : String := "flows/deleted"

/-- An event as carried by a task. -/
structure EventPayload where
  name : String
  flow : String
  range : String := ""
  count : Int := 0
  timestamp : Int := 0
  sequencer : String := ""
deriving DecidableEq, Inhabited

namespace EventPayload

def toDoc (p : EventPayload) : JsonValue :=
  .obj ([("event_name", .str p.name), ("flow_id", .str p.flow)] ++
    (if p.range.isEmpty then [] else [("timerange", .str p.range)]) ++
    (if p.count = 0 then [] else [("count", .int p.count)]) ++
    [("timestamp", .int p.timestamp), ("sequencer", .str p.sequencer)])

/-- The instant of the event: its millisecond stamp scaled to nanoseconds, wrapped to 64 bits. -/
def instant (p : EventPayload) : Stamp :=
  Stamp.ofNanos (Int.bmod (p.timestamp * 1000000) (2 ^ (64 : Nat)))

def body (p : EventPayload) : JsonValue :=
  .obj ([("flow_id", .str p.flow)] ++
    (if p.range.isEmpty then [] else [("timerange", .str p.range)]) ++
    (if p.count = 0 then [] else [("segments", .int p.count)]))

def toEvent (p : EventPayload) : JsonValue :=
  .obj [("event_timestamp", .str p.instant.toText), ("event_type", .str p.name),
    ("event", p.body), ("sequencer", .str p.sequencer)]

end EventPayload

/-- Whether an event name matches a pattern: the same name, or a pattern ending
in `*` whose rest begins the name. -/
def eventMatches (pattern name : String) : Bool :=
  pattern = name ||
    (pattern.endsWith "*" && (pattern.toList.dropLast).isPrefixOf name.toList)

def eventMatchesAny (patterns : List String) (name : String) : Bool :=
  patterns.isEmpty || patterns.any (eventMatches · name)

end MediaTimeline

import MediaTimeline.Rpc.Media
import MediaTimeline.Sql.Migrations
import MediaTimeline.Sql.Dialect
import MediaTimeline.Cleanup.Batches
import MediaTimeline.Events.Event
import MediaTimeline.Deletion.Trim

/-! Calls that hold no state: timestamps, ranges, segments, page tokens, the packing of cleanup
batches, boundary trimming, events, SQL dialects and the schema migrations. -/

namespace MediaTimeline.Rpc

open JsonValue

instance : Failing Sql.MigrationError := ⟨fun e => Fault.plain e.message⟩

def packedIds (j : JsonValue) : Reading (List String) := do
  let mut ids ← strs j "ids"
  for g in ← arrOf j "gen" do
    let n ← int g "n"
    let len ← int g "len"
    let pre ← str g "prefix"
    for i in List.range n.toNat do
      let d := toString i
      ids := ids ++ [pre ++ String.ofList (List.replicate (len.toNat - pre.utf8ByteSize - d.length) 'x') ++ d]
  return ids

/-- Packs identifiers into cleanup batches; a long list shows only each batch's first and last,
and a batch count that 64-bit arithmetic ruins is shown as the runtime fault it raises. -/
def packCall (j : JsonValue) : Reading JsonValue := do
  let ids ← packedIds j
  match Cleanup.pack ids (← int j "max_size") with
  | .error e => return .obj [("error", "panic"), ("message", e.message)]
  | .ok bs =>
    let shown : List (String × JsonValue) :=
      if ids.length > 300 then [("firsts_lasts", .arr (bs.map fun b => texts [b.headD "", b.getLastD ""]))]
      else [("batches", if bs.isEmpty then .null else .arr (bs.map texts))]
    return .obj ([("count", (bs.length : JsonValue)), ("lens", .arr (bs.map fun b => JsonValue.int b.length)),
      ("sizes", .arr (bs.map fun b => JsonValue.int (Cleanup.arraySize b)))] ++ shown)

def newRange (j : JsonValue) : Reading JsonValue := do
  let parseOpt (k : String) : Reading (Except Fault (Option Stamp)) := do
    match ← optStr j k with
    | none => return .ok none
    | some s => return ((Stamp.parse s).map some).mapError Fault.stamp
  let a ← parseOpt "start"
  let b ← parseOpt "end"
  let ia ← flag j "inc_start"
  let ib ← flag j "inc_end"
  return orFault range (do pure (TimeRange.ofStamps (← a) (← b) ia ib))

def rangePair (j : JsonValue) : Reading JsonValue := do
  let a ← rangeArg j "a"
  let b ← rangeArg j "b"
  let which ← str j "which"
  match a, b with
  | .error e, _ | _, .error e => return fault e
  | .ok a, .ok b =>
    match which with
    | "intersect" => return range (a.intersect b)
    | "extend" => return range (a.extend b)
    | "contains" => return .obj [("result", a.contains b)]
    | "equal" => return .obj [("result", a.equiv b)]
    | _ => throw "unknown binop"

def dialectArg (j : JsonValue) : Reading Sql.Dialect := do
  match ← str j "dialect" with
  | "postgres" => pure .postgres
  | "mysql" => pure .mysql
  | _ => throw "unknown dialect"

def stateless (op : String) (j : JsonValue) : Reading JsonValue := do
  match op with
  | "ts_parse" => return orFault stampWords (← stampArg j "s")
  | "ts_from_ns" => return stampWords (Stamp.Words.ofNanosec (Int64.ofInt (← int j "ns")))
  | "ts_compare" =>
    let a ← stampArg j "a"
    let b ← stampArg j "b"
    return orFault id (do
      let c : Int := match (← a).compare (← b) with | .lt => -1 | .eq => 0 | .gt => 1
      pure (.obj [("cmp", c)]))
  | "tr_parse" =>
    return orFault (fun r => .obj (rangeFields r ++
      [("roundtrip_equal", .bool (match TimeRange.parse r.toText with
        | .ok r' => r'.equiv r
        | .error _ => false))])) (← rangeArg j "s")
  | "tr_new" => newRange j
  | "tr_instant" =>
    let some t ← givenStr j "t" | throw "t required"
    return orFault (range ∘ TimeRange.instant) ((Stamp.parse t).mapError Fault.stamp)
  | "tr_binop" => rangePair j
  | "tr_after" => return orFault (range ∘ TimeRange.after) (← rangeArg j "s")
  | "tr_json" =>
    return orFault (fun r => .obj [("json", render (.obj [("tr", r.toText)]))]) (← rangeArg j "s")
  | "segment_new" =>
    let flow ← str j "flow"
    let obj ← str j "object"
    let rr ← rangeArg j "tr"
    return orFault id (do
      let s ← (Segment.make flow obj (← rr)).mapError Fault.segment
      pure (.obj (segmentFields s ++ [("key", key s.key)])))
  | "page_encode" => return .obj [("token", SegmentKey.toToken ⟨← str j "flow_id", ← int j "timerange_end"⟩)]
  | "page_decode" => return orFault (fun k => .obj [("key", key k)]) (SegmentKey.ofToken (← str j "token"))
  | "clamp_limit" => return .obj [("limit", clampLimit (← int j "limit"))]
  | "params_validate" =>
    let p : ListParams := { page := ← str j "page", limit := ← int j "limit" }
    return orFault (fun _ => ok) p.validate
  | "pack" => packCall j
  | "trim" =>
    let tr ← rangeArg j "tr"
    let segs := (← strs j "segments").map fun s => (TimeRange.parse s).mapError Fault.range
    return orFault id (do
      let r ← tr
      let rs ← segs.mapM id
      pure (.obj [("kept", texts ((trimEnds r id rs).map TimeRange.toText))]))
  | "event_match" => return .obj [("match", eventMatches (← str j "pattern") (← str j "name"))]
  | "build_event" =>
    let p : EventPayload := ⟨← str j "event_name", ← str j "flow_id", ← str j "timerange",
      ← int j "count", ← int j "timestamp", ← str j "sequencer"⟩
    return .obj [("event", p.toEvent)]
  | "dialect" =>
    let d ← dialectArg j
    let err ← optStr j "err"
    return .obj [("name", d.name), ("placeholder", d.placeholder (← int j "n")),
      ("replaced", d.rewritePlaceholders (← str j "query")),
      ("upsert", d.upsertSuffix (← str j "conflict") (← strs j "update")),
      ("is_dup", (err.map d.isDuplicateKey).getD false)]
  | "migrations" =>
    return orFault (fun ms => .obj [("migrations", .arr (ms.map fun (m : Sql.Migration) =>
      .obj [("version", m.version), ("name", m.name), ("sql_len", m.text.utf8ByteSize)]))])
      (Sql.loadMigrations (← str j "dialect"))
  | _ => throw "unknown op"

end MediaTimeline.Rpc

import MediaTimeline.Fault
import MediaTimeline.Flow
import MediaTimeline.Deletion.Request
import MediaTimeline.Time.Instant
import MediaTimeline.Time.Rfc3339
import MediaTimeline.Time.Range.Text

/-! The JSON documents the SQL store keeps for segments, flows and delete requests. -/

namespace MediaTimeline.Sql

open Json

/-- How a document takes one member's value, given the path to the member. -/
structure DocField (α : Type) where
  name : String
  take : List PathStep → JsonValue → α → Except Fault α

def docFieldFor {α : Type} (fields : List (DocField α)) (key : String) : Option (DocField α) :=
  match fields.find? (·.name = key) with
  | some f => some f
  | none => fields.find? (fun f => sameUpToCase f.name key)

/-- Decodes a document of type `typeName` found at `path` from a value, starting from `init`. -/
def decodeDoc {α : Type} (typeName : String) (fields : List (DocField α)) (path : List PathStep) (init : α) :
    JsonValue → Except Fault α
  | .obj members =>
    members.foldlM (fun acc (k, v) =>
      match docFieldFor fields k with
      | some f => f.take (path ++ [PathStep.member k]) v acc
      | none => pure acc) init
  | .null => .ok init
  | v => .error (.plain (DecodeError.mismatch (kindName v) none [] typeName none).message)

/-- A value of kind `found` where the value at `path` of record `record` wants a `typeName`. -/
def mismatch {α : Type} (found record : String) (path : List PathStep) (typeName : String) :
    Except Fault α :=
  .error (.plain (DecodeError.mismatch found (some record) path typeName none).message)

def namedTextField {α : Type} (record name typeName : String) (set : String → α → α) : DocField α :=
  ⟨name, fun path v a => match v with
    | .str s => .ok (set s a)
    | .null => .ok a
    | v => mismatch (kindName v) record path typeName⟩

def textField {α : Type} (record name : String) (set : String → α → α) : DocField α :=
  namedTextField record name "string" set

def truthField {α : Type} (record name : String) (set : Bool → α → α) : DocField α :=
  ⟨name, fun path v a => match v with
    | .bool b => .ok (set b a)
    | .null => .ok a
    | v => mismatch (kindName v) record path "bool"⟩

def countField {α : Type} (record name : String) (set : Option Int → α → α) : DocField α :=
  ⟨name, fun path v a => match v with
    | .num lit => match literalInt lit (-9223372036854775808) 9223372036854775807 with
      | some n => .ok (set (some n) a)
      | none => mismatch ("number " ++ lit) record path "int64"
    | .null => .ok (set none a)
    | v => mismatch (kindName v) record path "int64"⟩

/-- The texts of an array at `path`, each element a text or `null` for the empty one. -/
def arrayTexts (record : String) (path : List PathStep) (items : List JsonValue) :
    Except Fault (List String) :=
  items.zipIdx.mapM fun
    | (.str s, _) => .ok s
    | (.null, _) => .ok ""
    | (w, i) => mismatch (kindName w) record (path ++ [PathStep.index i]) "string"

def textsField {α : Type} (record name : String) (set : List String → α → α) : DocField α :=
  ⟨name, fun path v a => match v with
    | .arr items => (arrayTexts record path items).map (set · a)
    | .null => .ok (set [] a)
    | v => mismatch (kindName v) record path "[]string"⟩

/-- A time range field, read from its text; any other kind of value is refused
by the time range type itself. -/
def rangeField {α : Type} (record name : String) (set : TimeRange → α → α) : DocField α :=
  ⟨name, fun path v a => match v with
    | .str s => match TimeRange.parse s with
      | .ok r => .ok (set r a)
      | .error e => .error (.range e)
    | .null => .ok a
    | v => .error (.plain (DecodeError.mismatch (kindName v) (some record) path "timerange.TimeRange"
        (some "JSON value must be string type")).message)⟩

def readInstant (s : String) : Except Fault Instant :=
  (Civil.parseRfc3339 s).map (fun (n, offset) => (Instant.ofNanos n).shownAt offset) |>.mapError
    fun e => .plain e.message

def instantField {α : Type} (record name : String) (set : Instant → α → α) : DocField α :=
  ⟨name, fun path v a => match v with
    | .str s => (readInstant s).map (set · a)
    | .null => .ok a
    | v => mismatch (kindName v) record path "time.Time"⟩

def maybeInstantField {α : Type} (record name : String) (set : Option Instant → α → α) : DocField α :=
  ⟨name, fun path v a => match v with
    | .str s => (readInstant s).map fun t => set (some t) a
    | .null => .ok (set none a)
    | v => mismatch (kindName v) record path "time.Time"⟩

def readDoc {α : Type} (text : String) (decode : JsonValue → Except Fault α) : Except Fault α :=
  match readJson text.toUTF8.toList with
  | .error e => .error (.plain e.message)
  | .ok v => decode v

def segmentFields : List (DocField Segment) :=
  [textField "Segment" "object_id" fun s x => { x with object := s },
   rangeField "Segment" "timerange" fun r x => { x with range := r },
   textField "Segment" "ts_offset" fun s x => { x with tsOffset := s },
   textField "Segment" "last_duration" fun s x => { x with lastDuration := s },
   countField "Segment" "sample_offset" fun n x => { x with sampleOffset := n },
   countField "Segment" "sample_count" fun n x => { x with sampleCount := n },
   countField "Segment" "key_frame_count" fun n x => { x with keyFrameCount := n },
   textsField "Segment" "storage_ids" fun xs x => { x with storageIds := xs }]

def readSegment (flow : String) (stop start : Int) (object doc : String) : Except Fault Segment := do
  let seg ← (readDoc doc (decodeDoc "types.Segment" segmentFields [] { flow := flow, object := "", range := TimeRange.eternity })).mapError
    fun e => .within ("decode segment " ++ flow ++ "/" ++ toString stop) e
  pure { seg with flow := flow, stop := stop, start := start, object := object }

def flowDoc (f : Flow) : JsonValue :=
  let text (k v : String) : List (String × JsonValue) := if v.isEmpty then [] else [(k, .str v)]
  .obj ([("id", .str f.id), ("source_id", .str f.source)] ++ text "label" f.label ++
    text "description" f.description ++ text "format" f.format ++ text "codec" f.codec ++
    text "container" f.container ++ (if f.readOnly then [("read_only", .bool true)] else []) ++
    (match f.segmentsUpdated with | some t => [("segments_updated", .str t.rfc3339)] | none => []) ++
    [("created", .str f.created.rfc3339), ("metadata_updated", .str f.updated.rfc3339)])

def flowTimes (f : Flow) : List Instant := f.segmentsUpdated.toList ++ [f.created, f.updated]

def flowFields : List (DocField Flow) :=
  [textField "Flow" "id" fun s x => { x with id := s },
   textField "Flow" "source_id" fun s x => { x with source := s },
   textField "Flow" "label" fun s x => { x with label := s },
   textField "Flow" "description" fun s x => { x with description := s },
   textField "Flow" "format" fun s x => { x with format := s },
   textField "Flow" "codec" fun s x => { x with codec := s },
   textField "Flow" "container" fun s x => { x with container := s },
   truthField "Flow" "read_only" fun b x => { x with readOnly := b },
   maybeInstantField "Flow" "segments_updated" fun t x => { x with segmentsUpdated := t },
   instantField "Flow" "created" fun t x => { x with created := t },
   instantField "Flow" "metadata_updated" fun t x => { x with updated := t }]

def readFlow (id doc : String) : Except Fault Flow :=
  (readDoc doc (decodeDoc "types.Flow" flowFields [] { id := "", created := .zero, updated := .zero })).mapError
    fun e => .within ("decode flow " ++ id) e

def requestDoc (r : DeleteRequest) : JsonValue :=
  .obj ([("id", .str r.id), ("flow_id", .str r.flow), ("delete_flow", .bool r.deleteFlow),
    ("timerange_to_delete", .str r.toDelete.toText), ("timerange_remaining", .str r.remaining.toText),
    ("status", .str r.status.text)] ++
    (match r.failure with
      | some f => [("error", .obj [("type", .str f.kind), ("summary", .str f.summary), ("traceback", .null),
          ("time", .str Instant.zero.rfc3339)])]
      | none => []) ++
    (if r.createdBy.isEmpty then [] else [("created_by", .str r.createdBy)]) ++
    [("created", .str r.created.rfc3339), ("updated", .str r.updated.rfc3339)])

def requestTimes (r : DeleteRequest) : List Instant :=
  (if r.failure.isSome then [Instant.zero] else []) ++ [r.created, r.updated]

/-- The text of a document whose instants are `times`; it fails when one of
them has no text in a document. -/
def encodeDoc (times : List Instant) (doc : JsonValue) : Except Fault String :=
  match times.filterMap (fun t => match t.documentText with | .error e => some e | .ok _ => none) with
  | e :: _ => .error (.plain ("json: error calling MarshalJSON for type *time.Time: " ++ e))
  | [] => .ok doc.render

def failureFields : List (DocField DeleteFailure) :=
  [textField "DeleteRequest" "type" (fun s x => { x with kind := s }),
   textField "DeleteRequest" "summary" (fun s x => { x with summary := s }),
   ⟨"traceback", fun path v x => match v with
     | .arr items => (arrayTexts "DeleteRequest" path items).map fun _ => x
     | .null => .ok x
     | w => mismatch (kindName w) "DeleteRequest" path "[]string"⟩,
   instantField "DeleteRequest" "time" fun _ x => x]

def requestFields : List (DocField DeleteRequest) :=
  [textField "DeleteRequest" "id" fun s x => { x with id := s },
   textField "DeleteRequest" "flow_id" fun s x => { x with flow := s },
   truthField "DeleteRequest" "delete_flow" fun b x => { x with deleteFlow := b },
   rangeField "DeleteRequest" "timerange_to_delete" fun r x => { x with toDelete := r },
   rangeField "DeleteRequest" "timerange_remaining" fun r x => { x with remaining := r },
   namedTextField "DeleteRequest" "status" "types.DeleteRequestStatus"
     fun s x => { x with status := RequestStatus.ofText s },
   ⟨"error", fun path v x => match v with
     | .null => .ok { x with failure := none }
     | .obj _ => do
       let f ← decodeDoc "types.DeleteError" failureFields path (x.failure.getD ⟨"", ""⟩) v
       pure { x with failure := some f }
     | w => mismatch (kindName w) "DeleteRequest" path "types.DeleteError"⟩,
   textField "DeleteRequest" "created_by" fun s x => { x with createdBy := s },
   instantField "DeleteRequest" "created" fun t x => { x with created := t },
   instantField "DeleteRequest" "updated" fun t x => { x with updated := t }]

def readRequest (doc : String) : Except Fault DeleteRequest :=
  (readDoc doc (decodeDoc "types.DeleteRequest" requestFields []
    { id := "", flow := "", toDelete := TimeRange.eternity, remaining := TimeRange.eternity,
      status := .other "", created := .zero, updated := .zero })).mapError
    fun e => .within "decode delete request" e

end MediaTimeline.Sql

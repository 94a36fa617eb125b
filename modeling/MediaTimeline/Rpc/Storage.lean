import MediaTimeline.Rpc.Basic
import MediaTimeline.Storage.Backend
import MediaTimeline.Storage.Manager
import MediaTimeline.Sql.Pool

/-! Calls on media object backends, on the backends a service knows by id, and
on the pool settings of the databases. -/

namespace MediaTimeline.Rpc

open JsonValue Storage

def backendArg (j : JsonValue) : Reading BackendSettings := do
  pure { id := ← str j "id", kind := ← str j "type", endpoint := ← str j "endpoint", bucket := ← str j "bucket",
         region := ← str j "region", accessKey := ← str j "access_key", secretKey := ← str j "secret_key",
         keyPrefix := ← str (j.get "options") "prefix" }

def blobFailure (e : BlobError) : JsonValue :=
  match e with
  | .notFound _ => .obj [("error", "ErrObjectNotFound"), ("message", e.message)]
  | .other m => failure m

def backendCall (j : JsonValue) : Reading JsonValue := do
  match Backend.create (← backendArg (j.get "config")) with
  | .error e => return .obj [("new", failure e)]
  | .ok b =>
    let mut b := b
    let mut out : Array JsonValue := #[]
    for st in ← arrOf j "ops" do
      let key ← str st "key"
      match ← str st "call" with
      | "write" =>
        let text ← str st "data"
        let data : Except String String := if ← flag st "bad_reader" then .error "reader failed" else .ok text
        match b.write key data with
        | .ok b' => b := b'; out := out.push ok
        | .error e => out := out.push (blobFailure e)
      | "read" => out := out.push (match b.read key with | .ok d => .obj [("data", d)] | .error e => blobFailure e)
      | "delete" =>
        match b.delete key with
        | .ok b' => b := b'; out := out.push ok
        | .error e => out := out.push (blobFailure e)
      | "exists" => out := out.push (match b.holds key with | .ok h => .obj [("exists", h)] | .error e => blobFailure e)
      | "type" => out := out.push (.obj [("type", b.kind)])
      | _ => throw "unknown s3 call"
    return .obj [("type", b.kind), ("results", .arr out.toList), ("requests", .arr [])]

def presence (b : Option Backend) : List (String × JsonValue) :=
  match b with
  | some b => [("found", true), ("type", b.kind)]
  | none => [("found", false)]

/-- A memory backend put through a write whose data cannot be read, a read of
a key it does not hold, and a write then a read of `k`. -/
def memoryRoundTrip : JsonValue :=
  let fresh : Backend := .memory []
  let message {α : Type} : Except BlobError α → JsonValue
    | .ok _ => .null
    | .error e => e.message
  let kind {α : Type} : Except BlobError α → JsonValue
    | .error (.notFound _) => "ErrObjectNotFound"
    | .error (.other _) => "error"
    | .ok _ => .null
  let missing := fresh.read "missing"
  let data := (fresh.write "k" (.ok "v")).bind (·.read "k")
  .obj [("write_err", message (fresh.write "k" (.error "reader failed"))), ("read_err", message missing),
    ("read_kind", kind missing), ("data", match data with | .ok d => .str d | .error _ => .null)]

def managedSettings (j : JsonValue) : Reading BackendSettings := do
  pure { id := ← str j "id", kind := ← str j "type", bucket := ← str j "bucket", region := ← str j "region",
         accessKey := ← str j "access_key", secretKey := ← str j "secret_key" }

def managerCall (j : JsonValue) : Reading JsonValue := do
  let mut m : BackendManager := {}
  let mut out : Array JsonValue := #[]
  for st in ← arrOf j "ops" do
    let id ← str st "id"
    match ← str st "call" with
    | "add" =>
      let c ← managedSettings st
      match m.add id c with
      | .ok m' => m := m'; out := out.push ok
      | .error e => out := out.push (failure e)
    | "add_memory" => m := m.put id (.memory []); out := out.push ok
    | "get" => out := out.push (.obj (presence (m.get id)))
    | "default" =>
      let (d, b) := m.defaultBackend
      out := out.push (.obj (("id", .str d) :: presence b))
    | "remove" => m := m.remove id; out := out.push ok
    | "list" => out := out.push (.obj [("ids", texts m.ids)])
    | "close" => m := m.close; out := out.push ok
    | "memory_rw" => out := out.push memoryRoundTrip
    | _ => throw "unknown manager call"
  return .obj [("results", .arr out.toList)]

/-- The default pool settings: general, and those of the MySQL and Postgres drivers. -/
def poolCall (j : JsonValue) : Reading JsonValue := do
  let dsn ← str j "dsn"
  let general : Sql.PoolSettings := { driver := ← str j "driver" }
  let mysql : Sql.PoolSettings := { dsn := dsn, driver := "mysql" }
  return .obj [
    ("db", .obj [("driver", general.driver), ("max_open", general.maxOpen), ("max_idle", general.maxIdle),
      ("lifetime_s", general.lifetime), ("idle_s", general.idleTime)]),
    ("mysql", .obj [("dsn", mysql.dsn), ("driver", mysql.driver), ("max_open", mysql.maxOpen),
      ("max_idle", mysql.maxIdle), ("lifetime_ns", Sql.secondsToNanos mysql.lifetime),
      ("idle_ns", Sql.secondsToNanos mysql.idleTime), ("tls", "")]),
    ("postgres", .obj [("dsn", dsn), ("driver", "postgres")])]

end MediaTimeline.Rpc

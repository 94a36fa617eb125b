import MediaTimeline.Rpc.Media
import MediaTimeline.Service.Basic
import MediaTimeline.Settings.Option
import MediaTimeline.Settings.Double
import MediaTimeline.Cli.Version

/-! Small calls on the build, the wiring of a service and its settings: the version record, event
emitters, service needs, segment matching and how a setting is read. -/

namespace MediaTimeline.Rpc

open JsonValue

/-- A setting's value. A fraction is written with all its digits, as a number;
an infinity or not a number has no JSON text, and the failure names it. -/
def setting : Settings.SettingValue → Except String JsonValue
  | .text s => .ok s
  | .integer n => .ok (JsonValue.int n)
  | .truth b => .ok b
  | .fraction (.finite d) => .ok (.num d.jsonText)
  | .fraction (.infinite neg) => .error (if neg then "-Inf" else "+Inf")
  | .fraction .notANumber => .error "NaN"
  | .duration ns => .ok (JsonValue.int ns)
  | .texts xs => .ok (texts xs)

def settingKindArg (j : JsonValue) : Reading Settings.SettingKind := do
  match ← str j "kind" with
  | "string" => pure .text
  | "int" => pure .integer
  | "bool" => pure .truth
  | "float" => pure .fraction
  | "duration" => pure .duration
  | "strings" => pure .texts
  | _ => throw "kind: unknown"

def apiCall (platform : Cli.Platform) (j : JsonValue) : Reading JsonValue := do
  match ← str j "call" with
  | "version_info" =>
    return .obj [("info", .obj (((({} : Cli.VersionInfo).fields platform).map fun (k, v) => (k, .str v))))]
  | "emitters" =>
    let e (en q : Bool) : JsonValue := Emitter.isEnabled ⟨en, q⟩
    return .obj [("noop", e false false), ("nil", e false false), ("no_queue", e true false),
      ("queue", e true true), ("queue_off", e false true)]
  | "unwrap" => return .obj [("same", true)]
  | "service_new" =>
    let parts : ServiceParts := ⟨!(← flag j "no_db"), !(← flag j "no_queue")⟩
    return orFault (fun _ => ok) parts.check
  | "query_matches" =>
    let q ← queryArg (j.get "query")
    let seg := j.get "segment"
    match ← segmentOver seg "flow" (← rangeArg seg "tr") with
    | .error e => return fault e
    | .ok seg => return orFault (fun s => .obj [("matches", q.selects s)]) seg.withKeys
  | "flag_loader" =>
    let kind ← settingKindArg j
    match Settings.resolve "opt" kind (← optStr j "flag") (← optStr j "viper") with
    | .ok v => return match setting v with
      | .ok x => .obj [("value", x)]
      | .error t => .obj [("error", "encode"), ("message", "json: unsupported value: " ++ t)]
    | .error e => return failure e
  | _ => throw "unknown api call"

end MediaTimeline.Rpc

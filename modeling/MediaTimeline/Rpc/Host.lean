import MediaTimeline.Rpc.Basic
import MediaTimeline.Cli.Settings
import MediaTimeline.Time.Jitter
import MediaTimeline.Deployment
import MediaTimeline.Logging
import MediaTimeline.Text.Infix

/-! Calls on the host: addresses, paths, jittered intervals and tickers, the announced address,
settings and configuration, the deployment environment and log lines. -/

namespace MediaTimeline.Rpc

open JsonValue

def fractionArg (j : JsonValue) : Reading Float := do
  return Float.ofInt (← int j "fraction_pct") / 100

/-- What a resolved path looks like: whether it is unchanged, still holds a
`~`, is absolute, and ends with what was written after leading `~` and `/`. -/
def pathShape (written resolved : String) : JsonValue :=
  let tail := String.ofList (written.toList.dropWhile fun c => c = '~' || c = '/')
  .obj [("unchanged", resolved == written), ("has_tilde", resolved.contains '~'),
    ("absolute", resolved.startsWith "/"), ("suffix_kept", resolved.endsWith tail)]

def hostCall (h : Host) (j : JsonValue) : Reading JsonValue := do
  match ← str j "call" with
  | "join_host_port" => return .obj [("result", joinHostPort (← str j "host") (← int j "port"))]
  | "resolve_path" =>
    let p ← str j "path"
    return pathShape p (h.resolvePath p)
  | "jitter" =>
    let base ← int j "base_ns"
    let f ← fractionArg j
    let v := jitter base f h.draw
    return .obj ([("in_range", .bool (withinJitter base f v))] ++ (if f ≤ 0 then [("value_ns", JsonValue.int v)] else []))
  | "ticker" =>
    let t : Ticker := { base := ← int j "base_ns", fraction := ← fractionArg j }
    let t := ((List.range (← int j "ticks").toNat).foldl (fun t _ => t.tick) t).stop
    return .obj [("ticks", t.fired), ("closed", t.closed)]
  | "host_address" => return .obj [("nonempty", !h.announcedAddress.isEmpty)]
  | "load_config" =>
    let file := Cli.loadConfig h (← str j "dir") (← str j "name")
    let keys ← strs j "keys"
    let sources : Cli.SettingSources := { host := h, file := file }
    return .obj [("loaded", file.isSome), ("values", .obj (keys.map fun k => (k, .str (sources.shown k))))]
  | _ => throw "unknown utils call"

def deploymentCall (j : JsonValue) : Reading JsonValue := do
  let mut current := localDeployment
  if let some v ← optStr j "set" then current := v
  let mut loaded : List (String × JsonValue) := []
  if let some v ← optStr j "viper_env" then
    current := deploymentOf v
    loaded := [("loaded", .str current)]
  return .obj ([("get", .str current), ("local", .bool (current == localDeployment)),
    ("production", .bool (current == productionDeployment)),
    ("testing", .bool (current == testingDeployment))] ++ loaded)

def logCall (j : JsonValue) : Reading JsonValue := do
  let pairs := fieldPairs (← strs j "fields")
  let msg ← str j "msg"
  let line := ({ level := "info", fields := pairs, message := msg } : LogLine).render
  let present (k v : String) : Bool := Text.containsText line ("\"" ++ k ++ "\":\"" ++ v ++ "\"")
  return .obj [("fields_present", .obj (pairs.map fun (k, v) => (k, .bool (present k v)))),
    ("has_message", Text.containsText line msg)]

end MediaTimeline.Rpc

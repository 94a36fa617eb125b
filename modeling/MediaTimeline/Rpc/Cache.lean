import MediaTimeline.Rpc.Basic
import MediaTimeline.Cache

/-! A cache driven step by step. The clock moves on by one at every step, and a loader, when the
call gives one, is a table of values; what it lacks fails to load. -/

namespace MediaTimeline.Rpc

open JsonValue

def loaderArg (cfg : JsonValue) : Option (List (String × String)) :=
  match cfg.get "loader" with
  | .obj fs => some (fs.reverse.map fun (k, v) => (k, match v with | .str t => t | _ => ""))
  | _ => none

def cacheCall (j : JsonValue) : Reading JsonValue := do
  let cfg := j.get "config"
  let loader := loaderArg cfg
  let mut c : Cache String := { maxSize := ← int cfg "max_size" }
  let mut out : Array JsonValue := #[]
  let mut t : Int := 0
  for st in ← arrOf j "ops" do
    t := t + 1
    let k ← str st "k"
    let size (c : Cache String) : JsonValue := .obj [("len", c.size)]
    match ← str st "op" with
    | "set" => c := c.set t k (← str st "v"); out := out.push (size c)
    | "get" =>
      let v := c.get? t k
      out := out.push (.obj [("found", v.isSome), ("value", v.getD "")])
    | "get_or_load" =>
      match c.getOrLoad t k (loader.map Cache.tableLoader) with
      | .ok (v, c') => c := c'; out := out.push (.obj [("value", v)])
      | .error e => out := out.push (fault e)
    | "delete" => c := c.erase k; out := out.push (size c)
    | "len" => out := out.push (size c)
    | "clear" => c := c.clear; out := out.push (size c)
    | _ => throw "unknown cache op"
  return .obj [("results", .arr out.toList)]

end MediaTimeline.Rpc

import MediaTimeline.Rpc.Basic
import MediaTimeline.Cli.Run

/-! Runs of the command line as calls. -/

namespace MediaTimeline.Rpc

/-- The length of an RFC 3339 time at the start of the characters, if one starts there. -/
def rfc3339Length (cs : List Char) : Option Nat :=
  let digitsAt (i n : Nat) : Bool := ((cs.drop i).take n).length = n && ((cs.drop i).take n).all Char.isDigit
  let charAt (i : Nat) (c : Char) : Bool := cs.getD i ' ' = c
  if digitsAt 0 4 && charAt 4 '-' && digitsAt 5 2 && charAt 7 '-' && digitsAt 8 2 && charAt 10 'T' && digitsAt 11 2 &&
      charAt 13 ':' && digitsAt 14 2 && charAt 16 ':' && digitsAt 17 2 then
    let fraction := if charAt 19 '.' then
        let ds := ((cs.drop 20).takeWhile Char.isDigit).length
        if ds = 0 then 0 else ds + 1
      else 0
    let z := 19 + fraction
    if charAt z 'Z' then some (z + 1)
    else if (charAt z '+' || charAt z '-') && digitsAt (z + 1) 2 && charAt (z + 3) ':' && digitsAt (z + 4) 2 then some (z + 6)
    else none
  else none

def maskTimes : List Char → List Char
  | [] => []
  | c :: rest =>
    match rfc3339Length (c :: rest) with
    | some n =>
      let year := ((c :: rest).take 4).foldl (fun acc d => acc * 10 + (d.toNat - '0'.toNat)) 0
      if _h : 2000 ≤ year ∧ 0 < n then "<time>".toList ++ maskTimes ((c :: rest).drop n)
      else c :: maskTimes rest
    | none => c :: maskTimes rest
termination_by cs => cs.length
decreasing_by
  all_goals simp only [List.length_drop, List.length_cons]
  · have := _h.2
    omega
  · omega
  · omega

def masked (s : String) : String := String.ofList (maskTimes s.toList)

def envArg (r : JsonValue) : Reading (List (String × String)) :=
  match r.get "env" with
  | .null => pure []
  | .obj fields => fields.mapM fun (k, v) => match v with
    | .str s => pure (k, s)
    | _ => wrong "env" "object of strings"
  | _ => wrong "env" "object of strings"

def cliCall (h : Host) (j : JsonValue) : Reading JsonValue := do
  let runs ← arrOf j "runs"
  let results ← runs.mapM fun r => do
    let words ← strs r "args"
    let env ← envArg r
    let o := Cli.run { h with environment := env ++ h.environment } words
    pure (.obj [("stdout", masked o.stdout), ("stderr", masked o.stderr),
      ("error", JsonValue.opt (fun e => .str (masked e)) o.error), ("served", o.served)])
  return .obj [("results", .arr results)]

end MediaTimeline.Rpc

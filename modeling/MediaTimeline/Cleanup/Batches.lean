import MediaTimeline.Json.Value

/-! Batches of object ids for cleanup messages. -/

namespace MediaTimeline.Cleanup

attribute [local instance (high)] instPowNat

def defaultMessageSize : Int := 250000

def arraySize (ids : List String) : Nat :=
  (JsonValue.arr (ids.map .str)).render.utf8ByteSize

def halve (cap : Int) (run : List String) : List (List String) :=
  if _h : run.length ≤ 1 ∨ (arraySize run : Int) ≤ cap then [run]
  else halve cap (run.take (run.length / 2)) ++ halve cap (run.drop (run.length / 2))
termination_by run.length
decreasing_by
  all_goals simp only [List.length_take, List.length_drop]
  all_goals omega

def runs (size : Nat) (ids : List String) : List (List String) :=
  if _h : size = 0 ∨ ids = [] then (if ids = [] then [] else [ids])
  else ids.take size :: runs size (ids.drop size)
termination_by ids.length
decreasing_by
  simp only [List.length_drop]
  have : ids.length ≠ 0 := by simp_all
  omega

def wrap64 (x : Int) : Int := (x + 2 ^ (63 : Nat)) % 2 ^ (64 : Nat) - 2 ^ (63 : Nat)

/-- Why ids cannot be cut into batches: the batch count, computed in 64-bit
arithmetic, came out zero, or negative. -/
inductive PackFault where
  | divideByZero
  | capacityOutOfRange
deriving DecidableEq

def PackFault.message : PackFault → String
  | .divideByZero => "runtime error: integer divide by zero"
  | .capacityOutOfRange => "runtime error: makeslice: cap out of range"

/-- The ids cut into batches for messages of at most `cap` bytes (the default cap
for none or less); no batches for no ids. The batch count is the array size over
the cap, rounded up in 64-bit arithmetic, so that a cap near the largest 64-bit
integer wraps it to zero or below, which no batching can follow. -/
def pack (ids : List String) (cap : Int) : Except PackFault (List (List String)) :=
  if ids = [] then .ok []
  else
    let cap := if cap ≤ 0 then defaultMessageSize else cap
    let batchCount := (wrap64 ((arraySize ids : Int) + cap - 1)).tdiv cap
    if batchCount = 0 then .error .divideByZero
    else if batchCount < 0 then .error .capacityOutOfRange
    else
      let batchSize := ((ids.length : Int) + batchCount - 1) / batchCount
      .ok ((runs batchSize.toNat ids).flatMap (halve cap))

end MediaTimeline.Cleanup

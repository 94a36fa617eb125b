import MediaTimeline.Time.Instant

/-! Background tasks. -/

namespace MediaTimeline

attribute [local instance (high)] instPowNat

/-- Where a task is in its life. -/
inductive TaskStatus where
  | pending
  | running
  | completed
  | failed
  | deadLetter
  | cancelled
  | other (text : String)
deriving DecidableEq, Inhabited

namespace TaskStatus

def text : TaskStatus → String
  | .pending => "pending"
  | .running => "running"
  | .completed => "completed"
  | .failed => "failed"
  | .deadLetter => "dead_letter"
  | .cancelled => "cancelled"
  | .other t => t

def ofText : String → TaskStatus
  | "pending" => .pending
  | "running" => .running
  | "completed" => .completed
  | "failed" => .failed
  | "dead_letter" => .deadLetter
  | "cancelled" => .cancelled
  | t => .other t

end TaskStatus

def deleteRequestTask : String := "delete_request"

def objectCleanupTask : String := "object_cleanup"

def eventTask : String := "event"

/-- A task and the record of its runs. -/
structure Task where
  id : String := ""
  kind : String
  status : TaskStatus := .other ""
  priority : Int := 0
  payload : String := ""
  scheduledAt : Instant := .zero
  startedAt : Option Instant := none
  completedAt : Option Instant := none
  attempts : Int := 0
  maxRetries : Int := 0
  retryAfter : Instant := .zero
  lastError : String := ""
  createdAt : Instant := .zero
  updatedAt : Instant := .zero
  flow : String := ""
  worker : String := ""
deriving DecidableEq, Inhabited

def hex12 (n : Nat) : String :=
  let ds := Nat.toDigits 16 n
  String.ofList (List.replicate (12 - ds.length) '0' ++ ds)

def generatedId (n : Nat) : String := "00000000-0000-4000-8000-" ++ hex12 n

/-- The number of the next generated id after the `n`-th that no id in `held`
is, as a random id would be: of the next `held.length + 1` numbers one is free. -/
def nextFreeId (held : List String) (n : Nat) : Nat :=
  ((List.range (held.length + 1)).map (n + 1 + ·)).find? (fun k => !held.contains (generatedId k))
    |>.getD (n + 1)

def defaultMaxRetries : Int := 3

/-- The wait before the next run after `attempts` failed runs: `2 ^ attempts`
seconds, with the exponent capped at ten. The power is a shift of one by the
count, which is only defined for a count that is not negative. -/
def retryBackoff (attempts : Int) : Int :=
  2 ^ (min attempts 10).toNat * 1000000000

def negativeShift : String := "runtime error: negative shift amount"

def nextAttempts (attempts : Int) : Int := Int.bmod (attempts + 1) (2 ^ (64 : Nat))

end MediaTimeline

import MediaTimeline.Tasks.Task
import MediaTimeline.Fault

/-! A queue of tasks held in memory. -/

namespace MediaTimeline

/-- The tasks a queue holds, in the order they were first enqueued. -/
structure TaskQueue where
  tasks : List Task := []
  closed : Bool := false
  issued : Nat := 0
deriving Inhabited

/-- Which tasks a listing asks for: a field left empty or zero picks all. -/
structure TaskFilter where
  kind : String := ""
  status : String := ""
  flow : String := ""
  limit : Int := 0
  offset : Int := 0
deriving Inhabited

/-- Counts of a queue's tasks by status, and of its pending tasks by kind. -/
structure QueueStats where
  pending : Int := 0
  running : Int := 0
  completed : Int := 0
  failed : Int := 0
  deadLetter : Int := 0
  byKind : List (String × Int) := []
  oldestPending : Option Instant := none
deriving Inhabited

namespace TaskQueue

def get (q : TaskQueue) (id : String) : Except Fault Task :=
  match q.tasks.find? (·.id == id) with
  | some t => .ok t
  | none => .error (.missing .task)

def replace (q : TaskQueue) (t : Task) : TaskQueue :=
  { q with tasks := q.tasks.map fun u => if u.id == t.id then t else u }

/-- Adds a task at `now`: a task without an id gets a new one, an unset status
becomes pending, no retries become the default, and unset schedule and
creation times become `now`. A new id is none that a held task has. A task
with the id of a held one replaces it. -/
def enqueue (q : TaskQueue) (now : Instant) (t : Task) : Except Fault (Task × TaskQueue) :=
  if q.closed then .error .queueClosed
  else
    let (id, q) := if t.id.isEmpty then
        let k := nextFreeId (q.tasks.map (·.id)) q.issued
        (generatedId k, { q with issued := k })
      else (t.id, q)
    let t := { t with
      id := id
      status := if t.status == .other "" then .pending else t.status
      maxRetries := if t.maxRetries == 0 then defaultMaxRetries else t.maxRetries
      scheduledAt := if t.scheduledAt.isZero then now else t.scheduledAt
      createdAt := if t.createdAt.isZero then now else t.createdAt
      updatedAt := now }
    if q.tasks.any (·.id == t.id) then .ok (t, q.replace t)
    else .ok (t, { q with tasks := q.tasks ++ [t] })

def due (now : Instant) (kinds : List String) (t : Task) : Bool :=
  t.status == .pending && !now.before t.scheduledAt &&
    (t.retryAfter.isZero || !now.before t.retryAfter) &&
    (kinds.isEmpty || kinds.contains t.kind)

/-- Whether `t` goes before `best`: a higher priority, or the same and an earlier schedule. -/
def preferred (t best : Task) : Bool :=
  best.priority < t.priority || (t.priority == best.priority && t.scheduledAt.before best.scheduledAt)

def next? (q : TaskQueue) (now : Instant) (kinds : List String) : Option Task :=
  (q.tasks.filter (due now kinds)).foldl
    (fun best t => match best with
      | none => some t
      | some b => if preferred t b then some t else some b) none

def dequeue (q : TaskQueue) (now : Instant) (worker : String) (kinds : List String) :
    Except Fault (Option Task × TaskQueue) :=
  if q.closed then .error .queueClosed
  else match q.next? now kinds with
    | none => .ok (none, q)
    | some t =>
      let t := { t with status := .running, worker := worker, startedAt := some now, updatedAt := now }
      .ok (some t, q.replace t)

def complete (q : TaskQueue) (now : Instant) (id : String) : Except Fault TaskQueue :=
  (q.get id).map fun t =>
    q.replace { t with status := .completed, completedAt := some now, updatedAt := now }

/-- Records a failed run: the task waits out its backoff and runs again, or,
once its retries are used, is dead-lettered. The backoff shifts by the count
of attempts, so a task left to retry with a count below zero (one enqueued
so, or one whose count wrapped) stops the program. -/
def fail (q : TaskQueue) (now : Instant) (id : String) (error : String) : Except Fault TaskQueue :=
  (q.get id).bind fun t =>
    let t := { t with attempts := nextAttempts t.attempts, lastError := error, updatedAt := now, worker := "" }
    if t.maxRetries ≤ t.attempts then .ok (q.replace { t with status := .deadLetter })
    else if t.attempts < 0 then .error (.crash negativeShift)
    else .ok (q.replace { t with retryAfter := now.add (retryBackoff t.attempts), status := .pending })

def cancel (q : TaskQueue) (now : Instant) (id : String) : Except Fault TaskQueue :=
  (q.get id).map fun t => q.replace { t with status := .cancelled, updatedAt := now }

def heartbeat (q : TaskQueue) (now : Instant) (id worker : String) : Except Fault TaskQueue :=
  match q.tasks.find? (·.id == id) with
  | some t =>
    if t.worker == worker && t.status == .running then .ok (q.replace { t with updatedAt := now })
    else .error (.missing .task)
  | none => .error (.missing .task)

def listedBefore (a b : Task) : Bool :=
  b.createdAt.before a.createdAt || (a.createdAt.same b.createdAt && decide (a.id ≤ b.id))

def list (q : TaskQueue) (f : TaskFilter) : List Task :=
  let picked := (q.tasks.filter fun t =>
    (f.kind.isEmpty || t.kind == f.kind) && (f.status.isEmpty || t.status.text == f.status) &&
      (f.flow.isEmpty || t.flow == f.flow)).mergeSort listedBefore
  let rest := if 0 < f.offset then picked.drop f.offset.toNat else picked
  if 0 < f.limit ∧ f.limit < rest.length then rest.take f.limit.toNat else rest

def bump (k : String) : List (String × Int) → List (String × Int)
  | [] => [(k, 1)]
  | (j, n) :: rest =>
    if j == k then (j, n + 1) :: rest
    else if decide (k < j) then (k, 1) :: (j, n) :: rest
    else (j, n) :: bump k rest

def stats (q : TaskQueue) : QueueStats :=
  q.tasks.foldl (fun s t =>
    match t.status with
    | .pending =>
      { s with pending := s.pending + 1, byKind := bump t.kind s.byKind
               oldestPending := some (match s.oldestPending with
                 | some o => if t.scheduledAt.before o then t.scheduledAt else o
                 | none => t.scheduledAt) }
    | .running => { s with running := s.running + 1 }
    | .completed => { s with completed := s.completed + 1 }
    | .failed => { s with failed := s.failed + 1 }
    | .deadLetter => { s with deadLetter := s.deadLetter + 1 }
    | _ => s) {}

def finishedBefore (cutoff : Instant) (t : Task) : Bool :=
  (t.status == .completed || t.status == .cancelled) && (t.completedAt.getD t.updatedAt).before cutoff

/-- Removes the completed and cancelled tasks that finished more than
`olderThan` before `now`, answering how many went. The cutoff is `now` moved
back by `olderThan`, so the most negative duration puts it far in the past. -/
def cleanup (q : TaskQueue) (now : Instant) (olderThan : Int) : Nat × TaskQueue :=
  let cutoff := now.back olderThan
  let gone := q.tasks.filter (finishedBefore cutoff)
  (gone.length, { q with tasks := q.tasks.filter fun t => !finishedBefore cutoff t })

def close (q : TaskQueue) : TaskQueue := { q with closed := true }

end TaskQueue

end MediaTimeline

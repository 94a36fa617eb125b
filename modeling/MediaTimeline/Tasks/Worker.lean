import MediaTimeline.Tasks.Handlers

/-! Workers: the processes that take tasks from the queue and run them. -/

namespace MediaTimeline

def scriptedTask : String := "test"

def workerName : String := "w1"

/-- A worker: the kinds it has handlers for, and the kinds it is told to take. -/
structure Worker where
  handlers : List String := []
  kinds : List String := []
deriving Inhabited

def Worker.handledKinds (w : Worker) : List String :=
  (w.handlers.foldl (fun acc k => if acc.contains k then acc else acc ++ [k]) []).mergeSort
    fun a b => decide (a ≤ b)

def Worker.takes (w : Worker) : List String := if w.kinds.isEmpty then w.handledKinds else w.kinds

/-- How a scripted task's run ends. -/
inductive ScriptedEnd where
  | done
  | fails
  | breaksDown
  | waitsOut
deriving DecidableEq, Inhabited

/-- How a scripted task's run ends, by the text under the member named exactly
`action` of its payload; a payload that says nothing of it is done. -/
def scriptedEnd (payload : String) : ScriptedEnd :=
  match Json.readJson (Text.utf8Bytes payload) with
  | .ok (.obj fs) => match JsonValue.field? fs "action" with
    | some (.str "fail") => .fails
    | some (.str "panic") => .breaksDown
    | some (.str "wait") => .waitsOut
    | _ => .done
  | _ => .done

namespace ServiceM

def queueDown (call : String) : ServiceM Bool := do
  pure ((← get).outages.queueCalls.contains call)

def runTask (t : Task) : ServiceM Unit :=
  if t.kind == scriptedTask then
    match scriptedEnd t.payload with
    | .done => pure ()
    | .fails => throw (.plain "test handler failed")
    | .breaksDown => crash "test handler panic"
    | .waitsOut => throw (.plain "context deadline exceeded")
  else handle t.kind t.id t.payload

/-- Reports a failed run; the report is dropped when the queue refuses it, and
a runtime error in the queue stops the worker. -/
def reportFailure (id message : String) : ServiceM Unit := do
  if ← queueDown "fail" then return
  let t ← instant
  match (← get).queue.fail t id message with
  | .ok q => modify fun s => { s with queue := q }
  | .error (.crash m) => crash m
  | .error _ => pure ()

def reportDone (id : String) : ServiceM Unit := do
  if ← queueDown "complete" then return
  let t ← instant
  match (← get).queue.complete t id with
  | .ok q => modify fun s => { s with queue := q }
  | .error _ => pure ()

/-- Takes and runs one task, with `run` as the handler of each kind the worker
has one for; false when none could be taken. -/
def processOneWith (run : Task → ServiceM Unit) (w : Worker) : ServiceM Bool := do
  if ← queueDown "dequeue" then return false
  let t ← instant
  match (← get).queue.dequeue t workerName w.takes with
  | .error _ => pure false
  | .ok (none, _) => pure false
  | .ok (some task, q) =>
    modify fun s => { s with queue := q }
    if !w.handlers.contains task.kind then
      reportFailure task.id "no handler registered"
      return true
    let outcome := tryCatch (Except.ok <$> run task) (fun e => pure (Except.error e))
    match ← tryCatchThe Crash outcome (fun c => pure (.error (.plain ("handler panic: " ++ c.message)))) with
    | .ok () => reportDone task.id
    | .error e => reportFailure task.id e.message
    pure true

def processOne (w : Worker) : ServiceM Bool := processOneWith runTask w

def processMany (w : Worker) : Nat → ServiceM (List Bool)
  | 0 => pure []
  | limit + 1 => do
    if ← processOne w then return true :: (← processMany w limit)
    pure [false]

def runUntilIdle (w : Worker) : ServiceM Unit := do
  if w.handlers.isEmpty then return
  discard <| processMany { w with kinds := [] } 100000

end ServiceM

end MediaTimeline

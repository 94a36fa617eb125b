import MediaTimeline.Tasks.Handlers

/-! Running accepted tasks in place, without a worker. -/

namespace MediaTimeline

/-- The outcome of running one task in place. -/
structure TaskRun where
  task : String
  kind : String
  failure : Option Fault := none
deriving Inhabited

namespace ServiceM

def runNext : ServiceM (Option TaskRun) := do
  let s ← get
  match s.accepted[s.executed]? with
  | none => pure none
  | some t =>
    modify fun s => { s with executed := s.executed + 1 }
    let failure ← tryCatch (handle t.kind t.id t.payload *> pure none) fun e => pure (some e)
    pure (some { task := t.id, kind := t.kind, failure := failure })

/-- Runs accepted tasks in order until none is left or `limit` have run. -/
def runAccepted : Nat → ServiceM (List TaskRun)
  | 0 => pure []
  | limit + 1 => do
    match ← runNext with
    | none => pure []
    | some r => return r :: (← runAccepted limit)

def notYetRun : ServiceM Nat := do
  let s ← get
  pure (s.accepted.length - s.executed)

end ServiceM

end MediaTimeline

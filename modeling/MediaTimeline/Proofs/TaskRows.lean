import Mathlib
import MediaTimeline.Proofs.SqlQuery
import MediaTimeline.Tasks.Table

/-! The task table as the database holds it: its rows, the statements the table queue sends, and
each call of the table queue run against a connection scripted with the database's answers. -/

namespace MediaTimeline

/-- A task as a queue takes it in at `now` under `id`: pending when its status is unset, with the
default retries when none are set, scheduled and created now unless set, and updated now. -/
def Task.admitted (t : Task) (now : Instant) (id : String) : Task :=
  { t with
    id := id
    status := if t.status == .other "" then .pending else t.status
    maxRetries := if t.maxRetries == 0 then defaultMaxRetries else t.maxRetries
    scheduledAt := if t.scheduledAt.isZero then now else t.scheduledAt
    createdAt := if t.createdAt.isZero then now else t.createdAt
    updatedAt := now }

namespace TaskTable

open Sql

/-- A row of the task table, cell by cell in column order; `none` is NULL. -/
structure Row where
  id : String
  kind : String
  status : String
  priority : Int
  payload : String
  scheduledAt : Instant
  startedAt : Option Instant
  completedAt : Option Instant
  attempts : Int
  maxRetries : Int
  retryAfter : Option Instant
  lastError : Option String
  createdAt : Instant
  updatedAt : Instant
  heartbeatAt : Option Instant
  flow : Option String
  worker : Option String

def timeCell : Option Instant → SqlValue
  | some t => .time t
  | none => .null

def textCell : Option String → SqlValue
  | some s => .text s
  | none => .null

namespace Row

def cells (r : Row) : List SqlValue :=
  [.text r.id, .text r.kind, .text r.status, .int r.priority, .bytes r.payload, .time r.scheduledAt,
    timeCell r.startedAt, timeCell r.completedAt, .int r.attempts, .int r.maxRetries,
    timeCell r.retryAfter, textCell r.lastError, .time r.createdAt, .time r.updatedAt,
    timeCell r.heartbeatAt, textCell r.flow, textCell r.worker]

def inserted (t : Task) : Row where
  id := t.id
  kind := t.kind
  status := t.status.text
  priority := t.priority
  payload := t.payload
  scheduledAt := t.scheduledAt
  startedAt := none
  completedAt := none
  attempts := t.attempts
  maxRetries := t.maxRetries
  retryAfter := none
  lastError := none
  createdAt := t.createdAt
  updatedAt := t.updatedAt
  heartbeatAt := none
  flow := if t.flow.isEmpty then none else some t.flow
  worker := none

def toTask (r : Row) : Task where
  id := r.id
  kind := r.kind
  status := TaskStatus.ofText r.status
  priority := r.priority
  payload := r.payload
  scheduledAt := r.scheduledAt
  startedAt := r.startedAt
  completedAt := r.completedAt
  attempts := r.attempts
  maxRetries := r.maxRetries
  retryAfter := r.retryAfter.getD .zero
  lastError := r.lastError.getD ""
  createdAt := r.createdAt
  updatedAt := r.updatedAt
  flow := r.flow.getD ""
  worker := r.worker.getD ""

@[simp] theorem store_timeCell (o : Option Instant) : (timeCell o).store .maybeTime = .ok (timeCell o) := by
  cases o <;> rfl

@[simp] theorem store_textCell (o : Option String) : (textCell o).store .maybeText = .ok (textCell o) := by
  cases o <;> rfl

/-- Every cell of a row converts into its column's destination; only the payload's bytes become
text. -/
theorem storeRow_cells (r : Row) : storeRow r.cells targets = .ok (r.cells.set 4 (.text r.payload)) := by
  have htext (s : String) : (SqlValue.text s).store .text = .ok (.text s) := rfl
  have hnamed (s n : String) : (SqlValue.text s).store (.named n) = .ok (.text s) := rfl
  have hint (n : Int) (w : String) : (SqlValue.int n).store (.int w) = .ok (.int n) := rfl
  have hraw (s : String) : (SqlValue.bytes s).store .raw = .ok (.text s) := rfl
  have htime (t : Instant) : (SqlValue.time t).store .time = .ok (.time t) := rfl
  simp [storeRow, cells, targets, htext, hnamed, hint, hraw, htime, Except.mapError]
  rfl

def readTask : Option Row → Except Fault Task
  | some row => .ok row.toTask
  | none => .error (.missing .task)

def finishedBefore (cutoff : Instant) (r : Row) : Bool :=
  (r.status == "completed" || r.status == "cancelled") && r.completedAt.any (·.before cutoff)

end Row

/-- A statement of a task's life cycle, as the queue sends it. -/
inductive Statement where
  | insert (t : Task)
  | complete (id : String) (now : Instant)
  | cancel (id : String) (now : Instant)
  | fail (id : String) (status : TaskStatus) (attempts : Int) (problem : String)
      (retryAt : Option Instant) (now : Instant)
  | select (id : String)
  | deleteFinished (cutoff : Instant)

namespace Statement

def sql (name : String) : Statement → String × List SqlValue
  | insert t =>
    ("INSERT INTO " ++ name ++ " (id, type, status, priority, payload, scheduled_at, attempts, max_retries, " ++
      "created_at, updated_at, flow_id) VALUES (?, ?, ?, ?, ?, ?, ?, ?, ?, ?, ?)",
      [.text t.id, .text t.kind, .text t.status.text, .int t.priority, .bytes t.payload,
        .time t.scheduledAt, .int t.attempts, .int t.maxRetries, .time t.createdAt, .time t.updatedAt,
        nullable t.flow])
  | complete id now =>
    ("UPDATE " ++ name ++ " SET status = 'completed', completed_at = ?, updated_at = ? WHERE id = ?",
      [.time now, .time now, .text id])
  | cancel id now =>
    ("UPDATE " ++ name ++ " SET status = 'cancelled', updated_at = ? WHERE id = ?", [.time now, .text id])
  | fail id status attempts problem retryAt now =>
    ("UPDATE " ++ name ++ " SET status = ?, attempts = ?, last_error = ?, retry_after = ?, " ++
      "worker_id = NULL, updated_at = ? WHERE id = ?",
      [.text status.text, .int attempts, .text problem, timeCell retryAt, .time now, .text id])
  | select id => ("SELECT " ++ columns ++ " FROM " ++ name ++ " WHERE id = ?", [.text id])
  | deleteFinished cutoff =>
    ("DELETE FROM " ++ name ++ " WHERE status IN ('completed', 'cancelled') AND completed_at < ?",
      [.time cutoff])

def setWhere (id : String) (f : Row → Row) (rows : List Row) : Response × List Row :=
  ({ affected := (rows.filter (·.id == id)).length }, rows.map fun r => if r.id == id then f r else r)

/-- What the database answers to the statement over its rows, and the rows after it. The id is
the table's key, so a second row with an id is refused. -/
def answer : Statement → List Row → Response × List Row
  | insert t, rows =>
    if rows.any (·.id == t.id) then ({ failure := some (.plain "duplicate key") }, rows)
    else ({ affected := 1 }, rows ++ [Row.inserted t])
  | complete id now, rows =>
    setWhere id (fun r => { r with status := "completed", completedAt := some now, updatedAt := now }) rows
  | cancel id now, rows => setWhere id (fun r => { r with status := "cancelled", updatedAt := now }) rows
  | fail id status attempts problem retryAt now, rows =>
    setWhere id (fun r => { r with
      status := status.text, attempts := attempts, lastError := some problem, retryAfter := retryAt,
      worker := none, updatedAt := now }) rows
  | select id, rows => ({ rows := (rows.filter (·.id == id)).map Row.cells }, rows)
  | deleteFinished cutoff, rows =>
    ({ affected := (rows.filter (Row.finishedBefore cutoff)).length },
      rows.filter fun r => !r.finishedBefore cutoff)

theorem select_keeps (id : String) (rows : List Row) : ((select id).answer rows).2 = rows := rfl

def answerAll : List Statement → List Row → List Response × List Row
  | [], rows => ([], rows)
  | st :: sts, rows => ((st.answer rows).1 :: (answerAll sts (st.answer rows).2).1,
      (answerAll sts (st.answer rows).2).2)

/-- The update that records a failed run of `t` at `now`: one attempt more, and dead-lettered once
the attempts reach the retries, else pending again after the backoff. There is none when the count
left to retry is below zero: the backoff's shift stops the program first. -/
def failed (id problem : String) (t : Task) (now : Instant) : Option Statement :=
  if t.maxRetries ≤ nextAttempts t.attempts then
    some (.fail id .deadLetter (nextAttempts t.attempts) problem none now)
  else if nextAttempts t.attempts < 0 then none
  else some (.fail id .pending (nextAttempts t.attempts) problem
    (some (now.add (retryBackoff (nextAttempts t.attempts)))) now)

def entry (tq : TaskTable) (st : Statement) : LogEntry :=
  match st with
  | select _ => .query (collapseBlanks (tq.rebind (st.sql tq.name).1)) (st.sql tq.name).2
  | _ => .exec (collapseBlanks (tq.rebind (st.sql tq.name).1)) (st.sql tq.name).2

end Statement

variable {c : Connection} {r : Response} {rest : List Response}

theorem run_exec (sql : String) (args : List SqlValue) (hscript : c.script = r :: rest)
    (hfail : r.failure = none) :
    (exec sql args).run.run c = (.ok ⟨r.affected, r.affectedProblem⟩,
      { c with script := rest, log := c.log ++ [.exec (collapseBlanks sql) args] }) := by
  obtain ⟨script, log, fb, fc, fr, fp, now⟩ := c
  obtain ⟨failure, affected, affectedProblem, rows, rowProblem⟩ := r
  dsimp only at hscript hfail
  subst hscript hfail
  rfl

theorem run_get : (get : StoreM Connection).run.run c = (.ok c, c) := rfl

theorem run_map {α β : Type} (f : α → β) (m : StoreM α) :
    (f <$> m).run.run c = ((m.run.run c).1.map f, (m.run.run c).2) := by
  simp only [ExceptT.run_map, StateT.run_map]
  rcases m.run.run c with ⟨_ | a, c'⟩ <;> rfl

/-- A statement that should change one task fails as the task missing when it changes none. -/
theorem run_execOne (tq : TaskTable) (sql : String) (args : List SqlValue)
    (hscript : c.script = r :: rest) (hfail : r.failure = none) :
    (tq.execOne sql args).run.run c =
      (if r.affected = 0 then .error (.missing .task) else .ok (),
        { c with script := rest, log := c.log ++ [.exec (collapseBlanks (tq.rebind sql)) args] }) := by
  unfold execOne
  rw [run_bind, run_onServer (run_exec _ _ hscript hfail)]
  dsimp only
  by_cases h : r.affected = 0 <;> simp [h] <;> rfl

theorem run_complete (tq : TaskTable) (id : String) (hscript : c.script = r :: rest)
    (hfail : r.failure = none) :
    (tq.complete id).run.run c =
      (if r.affected = 0 then .error (.missing .task) else .ok (),
        { c with script := rest, log := c.log ++ [(Statement.complete id c.now).entry tq] }) := by
  unfold complete
  rw [run_bind, run_get]
  exact run_execOne tq _ _ hscript hfail

theorem run_cancel (tq : TaskTable) (id : String) (hscript : c.script = r :: rest)
    (hfail : r.failure = none) :
    (tq.cancel id).run.run c =
      (if r.affected = 0 then .error (.missing .task) else .ok (),
        { c with script := rest, log := c.log ++ [(Statement.cancel id c.now).entry tq] }) := by
  unfold cancel
  rw [run_bind, run_get]
  exact run_execOne tq _ _ hscript hfail

theorem run_cleanup (tq : TaskTable) (olderThan : Int) (hscript : c.script = r :: rest)
    (hfail : r.failure = none) :
    (tq.cleanup olderThan).run.run c =
      (.ok r.affected, { c with
        script := rest, log := c.log ++ [(Statement.deleteFinished (c.now.back olderThan)).entry tq] }) := by
  unfold cleanup
  rw [run_bind, run_get]
  dsimp only
  rw [run_bind, run_onServer (run_exec _ _ hscript hfail)]
  rfl

theorem run_enqueue (tq : TaskTable) (freshId : String) (t : Task) (hscript : c.script = r :: rest)
    (hfail : r.failure = none) :
    let t' := t.admitted c.now (if t.id.isEmpty then freshId else t.id)
    (tq.enqueue freshId t).run.run c =
      (.ok t', { c with script := rest, log := c.log ++ [(Statement.insert t').entry tq] }) := by
  unfold enqueue
  rw [run_bind, run_get]
  dsimp only
  rw [run_bind, run_wrapping _ (run_onServer (run_exec _ _ hscript hfail))]
  rfl

@[simp] theorem instantOf_timeCell (o : Option Instant) : instantOf (timeCell o) = o := by
  cases o <;> rfl

@[simp] theorem asText_textCell (o : Option String) : (textCell o).asText = o.getD "" := by
  cases o <;> rfl

theorem taskOfRow_cells (r : Row) : taskOfRow (r.cells.set 4 (.text r.payload)) = r.toTask := by
  have htext (s : String) : (SqlValue.text s).asText = s := rfl
  have htime (t : Instant) : instantOf (.time t) = some t := rfl
  simp [taskOfRow, Row.toTask, Row.cells, htext, htime, SqlValue.intValue]

theorem run_lookup (tq : TaskTable) (id : String) (rows : List Row)
    (hscript : c.script = ((Statement.select id).answer rows).1 :: rest) :
    (tq.lookup id).run.run c =
      (Row.readTask (rows.filter (·.id == id)).head?,
        { c with script := rest, log := c.log ++ [(Statement.select id).entry tq] }) := by
  unfold lookup
  rw [run_bind, run_onServer (run_query _ _ hscript rfl)]
  dsimp only
  rw [run_bind]
  simp only [Statement.answer]
  cases hf : rows.filter (·.id == id) with
  | nil => rfl
  | cons row more =>
    simp only [List.map_cons, List.head?_cons, firstRow, Rows.first?, Row.storeRow_cells, Row.readTask]
    rw [← taskOfRow_cells]
    rfl

theorem run_fail_missing (tq : TaskTable) (id problem : String) (rows : List Row)
    (hrow : (rows.filter (·.id == id)).head? = none)
    (hscript : c.script = ((Statement.select id).answer rows).1 :: rest) :
    (tq.fail id problem).run.run c =
      (.error (.missing .task), { c with script := rest, log := c.log ++ [(Statement.select id).entry tq] }) := by
  unfold fail
  rw [run_bind, run_lookup tq id rows hscript, hrow]
  rfl

theorem run_fail_found (tq : TaskTable) (id problem : String) (rows : List Row) {row : Row}
    {st : Statement} (hrow : (rows.filter (·.id == id)).head? = some row)
    (hst : Statement.failed id problem row.toTask c.now = some st)
    (hscript : c.script = ((Statement.select id).answer rows).1 :: r :: rest)
    (hfail : r.failure = none) :
    (tq.fail id problem).run.run c =
      (if r.affected = 0 then .error (.missing .task) else .ok (),
        { c with
          script := rest
          log := c.log ++ [(Statement.select id).entry tq, st.entry tq] }) := by
  unfold fail
  rw [run_bind, run_lookup tq id rows hscript, hrow]
  dsimp only [Row.readTask]
  rw [run_bind, run_get]
  dsimp only
  unfold Statement.failed at hst
  by_cases hm : row.toTask.maxRetries ≤ nextAttempts row.toTask.attempts
  · simp only [hm, if_true, Option.some.injEq] at hst ⊢
    subst hst
    rw [run_bind]
    simp only [ExceptT.run_pure, StateT.run_pure]
    dsimp only [pure]
    rw [run_execOne tq _ _ rfl hfail]
    simp [Statement.entry, Statement.sql, timeCell]
  · have hneg : ¬ nextAttempts row.toTask.attempts < 0 := by
      intro hneg
      simp [hm, hneg] at hst
    simp only [hm, hneg, if_false, Option.some.injEq] at hst ⊢
    subst hst
    rw [run_bind]
    simp only [ExceptT.run_pure, StateT.run_pure]
    dsimp only [pure]
    rw [run_execOne tq _ _ rfl hfail]
    simp [Statement.entry, Statement.sql, timeCell]

theorem run_fail_crash (tq : TaskTable) (id problem : String) (rows : List Row) {row : Row}
    (hrow : (rows.filter (·.id == id)).head? = some row)
    (hst : Statement.failed id problem row.toTask c.now = none)
    (hscript : c.script = ((Statement.select id).answer rows).1 :: rest) :
    (tq.fail id problem).run.run c =
      (.error (.crash negativeShift),
        { c with script := rest, log := c.log ++ [(Statement.select id).entry tq] }) := by
  unfold fail
  rw [run_bind, run_lookup tq id rows hscript, hrow]
  dsimp only [Row.readTask]
  rw [run_bind, run_get]
  dsimp only
  unfold Statement.failed at hst
  split_ifs at hst with hm hneg
  simp only [hm, hneg, if_true, if_false]
  rfl

end TaskTable

end MediaTimeline

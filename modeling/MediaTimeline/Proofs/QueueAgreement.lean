import Mathlib
import MediaTimeline.Proofs.Delivery
import MediaTimeline.Proofs.TaskRows

/-! The queue kept in a table against the queue kept in memory. -/

namespace MediaTimeline

namespace TaskTable

/-- A row holds what the queue in memory holds of a task's life: its id, its status (one the
status text names back), attempts, retries and last error, and when it was completed and last
updated. -/
structure Mirror (r : Row) (t : Task) : Prop where
  id : r.id = t.id
  status : r.status = t.status.text
  named : TaskStatus.ofText t.status.text = t.status
  attempts : r.attempts = t.attempts
  maxRetries : r.maxRetries = t.maxRetries
  lastError : r.lastError.getD "" = t.lastError
  completedAt : r.completedAt = t.completedAt
  updatedAt : r.updatedAt = t.updatedAt

end TaskTable

/-- A call of a task's life cycle. -/
inductive LifeCall where
  | enqueue (t : Task)
  | complete (id : String)
  | fail (id problem : String)
  | cancel (id : String)
  | get (id : String)
  | cleanup (olderThan : Int)

/-- What a call answers, as far as a task's life shows: done, a task's id, status, attempts and
last error, or how many tasks a cleanup removed. -/
inductive LifeAnswer where
  | done
  | task (id : String) (status : TaskStatus) (attempts : Int) (lastError : String)
  | removed (count : Int)
deriving DecidableEq

def LifeAnswer.ofTask (t : Task) : LifeAnswer := .task t.id t.status t.attempts t.lastError

namespace LifeCall

open Sql TaskTable

def settle (q : TaskQueue) : Except Fault TaskQueue → Except Fault LifeAnswer × TaskQueue
  | .ok q' => (.ok .done, q')
  | .error e => (.error e, q)

def onQueue (now : Instant) (q : TaskQueue) : LifeCall → Except Fault LifeAnswer × TaskQueue
  | enqueue t =>
    match q.enqueue now t with
    | .ok (t', q') => (.ok (.ofTask t'), q')
    | .error e => (.error e, q)
  | complete id => settle q (q.complete now id)
  | fail id problem => settle q (q.fail now id problem)
  | cancel id => settle q (q.cancel now id)
  | get id => ((q.get id).map .ofTask, q)
  | cleanup olderThan => (.ok (.removed (q.cleanup now olderThan).1), (q.cleanup now olderThan).2)

def onTable (tq : TaskTable) (freshId : String) : LifeCall → StoreM LifeAnswer
  | enqueue t => LifeAnswer.ofTask <$> tq.enqueue freshId t
  | complete id => (fun _ => .done) <$> tq.complete id
  | fail id problem => (fun _ => .done) <$> tq.fail id problem
  | cancel id => (fun _ => .done) <$> tq.cancel id
  | get id => LifeAnswer.ofTask <$> tq.lookup id
  | cleanup olderThan => LifeAnswer.removed <$> tq.cleanup olderThan

/-- The statements the queue sends for a call at `now`, over the rows as they then stand: failing
a task reads its row first and writes the failed run only when there is one, and when its backoff
can be computed. -/
def statements (now : Instant) (freshId : String) (rows : List Row) : LifeCall → List Statement
  | enqueue t => [.insert (t.admitted now (if t.id.isEmpty then freshId else t.id))]
  | complete id => [.complete id now]
  | fail id problem =>
    match (rows.filter (·.id == id)).head? with
    | none => [.select id]
    | some row => .select id :: (Statement.failed id problem row.toTask now).toList
  | cancel id => [.cancel id now]
  | get id => [.select id]
  | cleanup olderThan => [.deleteFinished (now.back olderThan)]

def onRows (tq : TaskTable) (freshId : String) (now : Instant) (call : LifeCall) (rows : List Row)
    (c : Connection) : (Except Fault LifeAnswer × Connection) × List Row :=
  let answered := Statement.answerAll (call.statements now freshId rows) rows
  ((call.onTable tq freshId).run.run { c with now := now, script := answered.1 }, answered.2)

/-- What a caller may ask of both queues: a task enqueued has an id of its own, a status that its
text names back, no last error and no completion time; a cleanup meets no finished task that has
no completion time. -/
def Admissible (now : Instant) (q : TaskQueue) : LifeCall → Prop
  | enqueue t => t.id ≠ "" ∧ (∀ u ∈ q.tasks, u.id ≠ t.id) ∧
      (t.status = .other "" ∨ TaskStatus.ofText t.status.text = t.status) ∧
      t.lastError = "" ∧ t.completedAt = none
  | cleanup olderThan => ∀ u ∈ q.tasks, TaskQueue.finishedBefore (now.back olderThan) u = true → u.completedAt ≠ none
  | _ => True

instance decidableAdmissible (now : Instant) (q : TaskQueue) :
    (call : LifeCall) → Decidable (call.Admissible now q)
  | enqueue t => inferInstanceAs (Decidable (t.id ≠ "" ∧ (∀ u ∈ q.tasks, u.id ≠ t.id) ∧
      (t.status = .other "" ∨ TaskStatus.ofText t.status.text = t.status) ∧
      t.lastError = "" ∧ t.completedAt = none))
  | complete _ => isTrue trivial
  | fail _ _ => isTrue trivial
  | cancel _ => isTrue trivial
  | get _ => isTrue trivial
  | cleanup olderThan => inferInstanceAs (Decidable (∀ u ∈ q.tasks,
      TaskQueue.finishedBefore (now.back olderThan) u = true → u.completedAt ≠ none))

end LifeCall

section Lists

variable {α β : Type} {R : α → β → Prop}

theorem forall₂_with_mem {l₁ : List α} {l₂ : List β} (h : List.Forall₂ R l₁ l₂) :
    List.Forall₂ (fun a b => R a b ∧ b ∈ l₂) l₁ l₂ := by
  induction h with
  | nil => exact .nil
  | cons hab _ ih => exact .cons ⟨hab, .head _⟩ (ih.imp fun _ _ h => ⟨h.1, .tail _ h.2⟩)

theorem forall₂_find? {p : α → Bool} {p' : β → Bool} (hp : ∀ a b, R a b → p a = p' b)
    {l₁ : List α} {l₂ : List β} (h : List.Forall₂ R l₁ l₂) : Option.Rel R (l₁.find? p) (l₂.find? p') := by
  induction h with
  | nil => exact .none
  | cons hab _ ih =>
    rw [List.find?_cons, List.find?_cons, hp _ _ hab]
    split
    · exact .some hab
    · exact ih

end Lists

theorem TaskStatus.text_eq_iff {s s' : TaskStatus} (hs : ofText s.text = s) (hs' : ofText s'.text = s') :
    s.text = s'.text ↔ s = s' := by
  constructor
  · intro h
    rw [← hs, ← hs', h]
  · rintro rfl
    rfl

theorem TaskQueue.replace_ids (q : TaskQueue) (t : Task) : (q.replace t).tasks.map (·.id) = q.tasks.map (·.id) := by
  simp only [TaskQueue.replace, List.map_map]
  refine List.map_congr_left fun u _ => ?_
  by_cases h : u.id = t.id <;> simp [h]

theorem TaskQueue.enqueue_fresh {q : TaskQueue} {now : Instant} {t : Task} (hopen : q.closed = false)
    (hid : t.id ≠ "") (hfresh : ∀ u ∈ q.tasks, u.id ≠ t.id) :
    q.enqueue now t = .ok (t.admitted now t.id, { q with tasks := q.tasks ++ [t.admitted now t.id] }) := by
  have hany : q.tasks.any (·.id == t.id) = false := by simpa using hfresh
  have hempty : t.id.isEmpty = false := by simpa using hid
  simp [TaskQueue.enqueue, hopen, hempty, hany, Task.admitted]

namespace TaskTable

open Sql

variable {r : Row} {t : Task} {rows : List Row} {q : TaskQueue} {id : String}

namespace Mirror

theorem status_iff (h : Mirror r t) (s : TaskStatus) (hs : TaskStatus.ofText s.text = s) :
    r.status = s.text ↔ t.status = s := by
  rw [h.status]
  exact TaskStatus.text_eq_iff h.named hs

theorem finishedBefore_eq (h : Mirror r t) {cutoff : Instant}
    (hc : TaskQueue.finishedBefore cutoff t = true → t.completedAt ≠ none) :
    r.finishedBefore cutoff = TaskQueue.finishedBefore cutoff t := by
  have hcompleted : r.status = "completed" ↔ t.status = .completed := h.status_iff .completed rfl
  have hcancelled : r.status = "cancelled" ↔ t.status = .cancelled := h.status_iff .cancelled rfl
  have hstatus : (r.status == "completed" || r.status == "cancelled") =
      (t.status == .completed || t.status == .cancelled) := by
    rw [Bool.eq_iff_iff]
    simp only [Bool.or_eq_true, beq_iff_eq, hcompleted, hcancelled]
  cases hct : t.completedAt with
  | some c => simp [Row.finishedBefore, TaskQueue.finishedBefore, h.completedAt, hct, hstatus]
  | none =>
    -- the table never deletes a row without a completion time; memory must not take its task
    have hfin : TaskQueue.finishedBefore cutoff t = false := by
      by_contra hne
      exact hc (by simpa using hne) hct
    simp [hfin, Row.finishedBefore, h.completedAt, hct]

theorem ofTask_toTask (h : Mirror r t) : LifeAnswer.ofTask r.toTask = .ofTask t := by
  simp only [LifeAnswer.ofTask, Row.toTask, h.id, h.attempts, h.lastError, h.status, h.named]

theorem inserted (hs : TaskStatus.ofText t.status.text = t.status) (he : t.lastError = "")
    (hc : t.completedAt = none) : Mirror (Row.inserted t) t where
  id := rfl
  status := rfl
  named := hs
  attempts := rfl
  maxRetries := rfl
  lastError := he.symm
  completedAt := hc.symm
  updatedAt := rfl

end Mirror

/-- A table whose rows mirror a queue in memory task by task and in order; the ids are the queue's
keys, and the queue still takes tasks. -/
structure Mirrors (rows : List Row) (q : TaskQueue) : Prop where
  rows : List.Forall₂ Mirror rows q.tasks
  keys : (q.tasks.map (·.id)).Nodup
  accepting : q.closed = false

namespace Mirrors

theorem find? (h : Mirrors rows q) (id : String) :
    Option.Rel Mirror (rows.find? (·.id == id)) (q.tasks.find? (·.id == id)) :=
  forall₂_find? (fun _ _ hm => by rw [hm.id]) h.rows

theorem find?_none (h : Mirrors rows q) (hnone : q.tasks.find? (·.id == id) = none) :
    rows.find? (·.id == id) = none := by
  have hrel := h.find? id
  rw [hnone] at hrel
  generalize rows.find? (·.id == id) = o at hrel
  cases hrel
  rfl

theorem holds (h : Mirrors rows q) (hget : q.get id = .ok t) : q.Holds id t := by
  have hid := TaskQueue.get_id hget
  have hmem : t ∈ q.tasks := by
    unfold TaskQueue.get at hget
    split at hget
    · cases hget
      exact List.mem_of_find?_eq_some ‹_›
    · cases hget
  exact ⟨hid, hmem, fun u hu hu' => List.inj_on_of_nodup_map h.keys hu hmem (hu'.trans hid.symm)⟩

theorem count_eq (h : Mirrors rows q) (id : String) :
    (rows.filter (·.id == id)).length = (q.tasks.filter (·.id == id)).length :=
  (List.rel_filter (fun _ _ hm => by simp [hm.id]) h.rows).length_eq

theorem setWhere (h : Mirrors rows q) (hget : q.get id = .ok t) {f : Row → Row} {t' : Task}
    (hid : t'.id = id) (hf : ∀ r, Mirror r t → Mirror (f r) t') :
    (Statement.setWhere id f rows).1.affected ≠ 0 ∧
      Mirrors (Statement.setWhere id f rows).2 (q.replace t') := by
  obtain ⟨htid, hmem, huniq⟩ := h.holds hget
  have hpos : 0 < (q.tasks.filter (·.id == id)).length :=
    List.length_pos_of_mem (List.mem_filter.2 ⟨hmem, by simp [htid]⟩)
  refine ⟨?_, ⟨?_, by rw [TaskQueue.replace_ids]; exact h.keys, h.accepting⟩⟩
  · simp only [Statement.setWhere, h.count_eq]
    omega
  · refine List.rel_map (fun r u ⟨hm, hu⟩ => ?_) (forall₂_with_mem h.rows)
    by_cases hu' : u.id = id
    · obtain rfl := huniq u hu hu'
      simp [hm.id, hu', hid, hf r hm]
    · simp [hm.id, hu', hid, hm]

theorem setWhere_none (h : Mirrors rows q) (hnone : q.tasks.find? (·.id == id) = none) (f : Row → Row) :
    Statement.setWhere id f rows = ({ affected := 0 }, rows) := by
  have hout : ∀ r ∈ rows, r.id ≠ id := by simpa using h.find?_none hnone
  have hfilter : rows.filter (·.id == id) = [] := List.filter_eq_nil_iff.2 (by simpa using hout)
  have hmap : rows.map (fun r => if r.id == id then f r else r) = rows := by
    conv_rhs => rw [← List.map_id rows]
    exact List.map_congr_left fun r hr => by simp [hout r hr]
  rw [Statement.setWhere, hfilter, hmap]
  rfl

theorem lookup (h : Mirrors rows q) (id : String) :
    (Row.readTask (rows.filter (·.id == id)).head?).map LifeAnswer.ofTask = (q.get id).map .ofTask := by
  rw [List.head?_filter]
  unfold TaskQueue.get
  have hrel := h.find? id
  generalize rows.find? (·.id == id) = o at hrel ⊢
  generalize q.tasks.find? (·.id == id) = o' at hrel ⊢
  cases hrel with
  | none => rfl
  | some hm => simp [Row.readTask, Except.map, hm.ofTask_toTask]

theorem cleanup (h : Mirrors rows q) {cutoff : Instant}
    (hc : ∀ u ∈ q.tasks, TaskQueue.finishedBefore cutoff u = true → u.completedAt ≠ none) :
    (rows.filter (Row.finishedBefore cutoff)).length =
        (q.tasks.filter (TaskQueue.finishedBefore cutoff)).length ∧
      Mirrors (rows.filter fun r => !r.finishedBefore cutoff)
        { q with tasks := q.tasks.filter fun u => !TaskQueue.finishedBefore cutoff u } := by
  have hagree : ∀ r u, Mirror r u ∧ u ∈ q.tasks →
      r.finishedBefore cutoff = TaskQueue.finishedBefore cutoff u :=
    fun r u ⟨hm, hu⟩ => hm.finishedBefore_eq (hc u hu)
  have hmem := forall₂_with_mem h.rows
  refine ⟨(List.rel_filter (fun r u hru => by simp only [hagree r u hru]) hmem).length_eq, ?_, ?_,
    h.accepting⟩
  · exact (List.rel_filter (fun r u hru => by simp only [hagree r u hru]) hmem).imp fun _ _ hru => hru.1
  · exact h.keys.sublist (List.filter_sublist.map _)

theorem insert (h : Mirrors rows q) (hm : Mirror (Row.inserted t) t)
    (hfresh : ∀ u ∈ q.tasks, u.id ≠ t.id) :
    (Statement.insert t).answer rows = ({ affected := 1 }, rows ++ [Row.inserted t]) ∧
      Mirrors (rows ++ [Row.inserted t]) { q with tasks := q.tasks ++ [t] } := by
  have hnone : q.tasks.find? (·.id == t.id) = none := by simpa using hfresh
  have hany : rows.any (·.id == t.id) = false := by simpa using h.find?_none hnone
  refine ⟨by simp [Statement.answer, hany], List.rel_append h.rows (.cons hm .nil), ?_, h.accepting⟩
  simpa [List.nodup_append] using ⟨h.keys, hfresh⟩

theorem update (h : Mirrors rows q) (id : String) (f : Row → Row) (g : Task → Task)
    (hg : ∀ t, (g t).id = t.id) (hfg : ∀ r t, Mirror r t → Mirror (f r) (g t)) :
    (if (Statement.setWhere id f rows).1.affected = 0 then .error (.missing .task) else .ok .done) =
        (LifeCall.settle q ((q.get id).map fun t => q.replace (g t))).1 ∧
      Mirrors (Statement.setWhere id f rows).2 (LifeCall.settle q ((q.get id).map fun t => q.replace (g t))).2 := by
  cases hfind : q.tasks.find? (·.id == id) with
  | none =>
    have hget : q.get id = .error (.missing .task) := by simp [TaskQueue.get, hfind]
    simp [h.setWhere_none hfind, hget, LifeCall.settle, Except.map, h]
  | some t =>
    have hget : q.get id = .ok t := by simp [TaskQueue.get, hfind]
    obtain ⟨haff, hm⟩ := h.setWhere hget ((hg t).trans (TaskQueue.get_id hget)) (hfg · t)
    simp [haff, hget, LifeCall.settle, Except.map, hm]

/-- The update that records a failed run of a held task, read from a row mirroring it, changes
its row, and leaves rows that mirror the queue after the failed run in memory; when there is no
update, the run in memory stops at the same runtime error. -/
theorem failed (h : Mirrors rows q) {row : Row} (hrow : Mirror row t) (hget : q.get id = .ok t)
    (problem : String) (now : Instant) :
    match Statement.failed id problem row.toTask now with
    | some st => ∃ q', q.fail now id problem = .ok q' ∧ (st.answer rows).1.affected ≠ 0 ∧
        Mirrors (st.answer rows).2 q'
    | none => q.fail now id problem = .error (.crash negativeShift) := by
  have hmax : row.toTask.maxRetries = t.maxRetries := hrow.maxRetries
  have hatt : row.toTask.attempts = t.attempts := hrow.attempts
  have hid : t.id = id := TaskQueue.get_id hget
  simp only [TaskQueue.fail, hget, Statement.failed, hmax, hatt, Except.bind]
  split_ifs with hm hneg
  · exact ⟨_, rfl, h.setWhere hget hid fun r hr =>
      ⟨hr.id, rfl, rfl, rfl, hr.maxRetries, rfl, hr.completedAt, rfl⟩⟩
  · rfl
  · exact ⟨_, rfl, h.setWhere hget hid fun r hr =>
      ⟨hr.id, rfl, rfl, rfl, hr.maxRetries, rfl, hr.completedAt, rfl⟩⟩

end Mirrors

end TaskTable

namespace LifeCall

open Sql TaskTable

def StepsAlike (tq : TaskTable) (freshId : String) (now : Instant) (call : LifeCall) (rows : List Row)
    (q : TaskQueue) (c : Connection) : Prop :=
  ∃ rows', call.onRows tq freshId now rows c =
      (((call.onQueue now q).1,
        { c with now := now, script := [], log := c.log ++ (call.statements now freshId rows).map (·.entry tq) }),
        rows') ∧
    Mirrors rows' (call.onQueue now q).2

variable (tq : TaskTable) (freshId : String) (now : Instant) {rows : List Row} {q : TaskQueue}
  (c : Connection)

theorem stepsAlike_enqueue (h : Mirrors rows q) {t : Task} (hadm : (enqueue t).Admissible now q) :
    (enqueue t).StepsAlike tq freshId now rows q c := by
  obtain ⟨hid, hfresh, hstatus, hle, hca⟩ := hadm
  have hempty : t.id.isEmpty = false := by simpa using hid
  have hnamed : TaskStatus.ofText (t.admitted now t.id).status.text = (t.admitted now t.id).status := by
    simp only [Task.admitted]
    split_ifs with h₀
    · rfl
    · exact hstatus.resolve_left (by simpa using h₀)
  obtain ⟨hans, hm⟩ := h.insert (Mirror.inserted hnamed hle hca) hfresh
  have hq : (enqueue t).onQueue now q =
      (.ok (.ofTask (t.admitted now t.id)), { q with tasks := q.tasks ++ [t.admitted now t.id] }) := by
    simp [onQueue, TaskQueue.enqueue_fresh h.accepting hid hfresh]
  unfold StepsAlike
  rw [hq]
  refine ⟨_, ?_, hm⟩
  have hrun := @run_enqueue { c with now := now, script := [{ affected := 1 }] } { affected := 1 } []
    tq freshId t rfl rfl
  simp only [hempty, Bool.false_eq_true, ↓reduceIte] at hrun
  simp only [onRows, statements, hempty, Bool.false_eq_true, ↓reduceIte, Statement.answerAll, hans, onTable,
    run_map, hrun]
  rfl

theorem map_done {b : Prop} [Decidable b] (e : Fault) :
    (if b then Except.error e else Except.ok ()).map (fun _ => LifeAnswer.done) =
      if b then .error e else .ok .done := by
  split <;> rfl

theorem stepsAlike_complete (h : Mirrors rows q) (id : String) :
    (complete id).StepsAlike tq freshId now rows q c := by
  obtain ⟨hans, hm⟩ := h.update id
    (fun r => { r with status := "completed", completedAt := some now, updatedAt := now })
    (fun t => { t with status := .completed, completedAt := some now, updatedAt := now })
    (fun _ => rfl) (fun _ _ hm => ⟨hm.id, rfl, rfl, hm.attempts, hm.maxRetries, hm.lastError, rfl, rfl⟩)
  refine ⟨_, ?_, hm⟩
  have hq : ((complete id).onQueue now q).1 = _ := hans.symm
  have hrun := @run_complete { c with now := now, script := [((Statement.complete id now).answer rows).1] }
    _ [] tq id rfl rfl
  simp only [onRows, statements, Statement.answerAll, onTable, run_map, hrun, map_done, hq]
  rfl

theorem stepsAlike_cancel (h : Mirrors rows q) (id : String) :
    (cancel id).StepsAlike tq freshId now rows q c := by
  obtain ⟨hans, hm⟩ := h.update id
    (fun r => { r with status := "cancelled", updatedAt := now })
    (fun t => { t with status := .cancelled, updatedAt := now })
    (fun _ => rfl) (fun _ _ hm => ⟨hm.id, rfl, rfl, hm.attempts, hm.maxRetries, hm.lastError, hm.completedAt, rfl⟩)
  refine ⟨_, ?_, hm⟩
  have hq : ((cancel id).onQueue now q).1 = _ := hans.symm
  have hrun := @run_cancel { c with now := now, script := [((Statement.cancel id now).answer rows).1] }
    _ [] tq id rfl rfl
  simp only [onRows, statements, Statement.answerAll, onTable, run_map, hrun, map_done, hq]
  rfl

theorem stepsAlike_get (h : Mirrors rows q) (id : String) :
    (get id).StepsAlike tq freshId now rows q c := by
  refine ⟨rows, ?_, h⟩
  have hrun := @run_lookup { c with now := now, script := [((Statement.select id).answer rows).1] }
    [] tq id rows rfl
  simp only [onRows, statements, Statement.answerAll, onTable, run_map, hrun, onQueue, h.lookup id]
  rfl

theorem stepsAlike_cleanup (h : Mirrors rows q) (olderThan : Int) (hadm : (cleanup olderThan).Admissible now q) :
    (cleanup olderThan).StepsAlike tq freshId now rows q c := by
  obtain ⟨hcount, hm⟩ := h.cleanup hadm
  refine ⟨_, ?_, hm⟩
  have hrun := @run_cleanup
    { c with now := now, script := [((Statement.deleteFinished (now.back olderThan)).answer rows).1] }
    _ [] tq olderThan rfl rfl
  simp only [onRows, statements, Statement.answerAll, onTable, run_map, hrun]
  simp only [Statement.answer, onQueue, TaskQueue.cleanup, hcount]
  rfl

theorem stepsAlike_fail (h : Mirrors rows q) (id problem : String) :
    (fail id problem).StepsAlike tq freshId now rows q c := by
  have hrel := h.find? id
  cases hfind : q.tasks.find? (·.id == id) with
  | none =>
    have hrow : (rows.filter (·.id == id)).head? = none := by
      rw [List.head?_filter]
      exact h.find?_none hfind
    have hget : q.get id = .error (.missing .task) := by simp [TaskQueue.get, hfind]
    have hq : (fail id problem).onQueue now q = (.error (.missing .task), q) := by
      simp [onQueue, TaskQueue.fail, hget, settle, Except.bind]
    unfold StepsAlike
    rw [hq]
    refine ⟨rows, ?_, h⟩
    have hrun := @run_fail_missing { c with now := now, script := [((Statement.select id).answer rows).1] }
      [] tq id problem rows hrow rfl
    simp only [onRows, statements, hrow, Statement.answerAll, onTable, run_map, hrun]
    rfl
  | some t =>
    rw [hfind] at hrel
    obtain ⟨row, hrowfind, hmrow⟩ : ∃ row, rows.find? (·.id == id) = some row ∧ Mirror row t := by
      generalize rows.find? (·.id == id) = o at hrel
      cases hrel with
      | some hm => exact ⟨_, rfl, hm⟩
    have hrow : (rows.filter (·.id == id)).head? = some row := by
      rw [List.head?_filter]
      exact hrowfind
    have hget : q.get id = .ok t := by simp [TaskQueue.get, hfind]
    have hfailed := h.failed hmrow hget problem now
    unfold StepsAlike
    cases hst : Statement.failed id problem row.toTask now with
    | none =>
      -- both queues stop at the backoff's runtime error, the table after reading the row
      rw [hst] at hfailed
      have hq : (fail id problem).onQueue now q = (.error (.crash negativeShift), q) := by
        simp [onQueue, hfailed, settle]
      rw [hq]
      refine ⟨rows, ?_, h⟩
      have hrun := @run_fail_crash { c with now := now, script := [((Statement.select id).answer rows).1] }
        [] tq id problem rows row hrow hst rfl
      simp only [onRows, statements, hrow, hst, Option.toList, Statement.answerAll, Statement.select_keeps,
        onTable, run_map, hrun]
      rfl
    | some st =>
      rw [hst] at hfailed
      obtain ⟨q', hq', haff, hm⟩ := hfailed
      have hq : (fail id problem).onQueue now q = (.ok .done, q') := by simp [onQueue, hq', settle]
      rw [hq]
      refine ⟨_, ?_, hm⟩
      have hrun := @run_fail_found
        { c with
          now := now
          script := [((Statement.select id).answer rows).1, (st.answer rows).1] }
        _ [] tq id problem rows row st hrow hst rfl
        (by unfold Statement.failed at hst; split_ifs at hst <;> cases hst <;> rfl)
      simp only [onRows, statements, hrow, hst, Option.toList, Statement.answerAll, Statement.select_keeps,
        onTable, run_map, hrun, map_done, haff]
      rfl

theorem stepsAlike (h : Mirrors rows q) (call : LifeCall) (hadm : call.Admissible now q) :
    call.StepsAlike tq freshId now rows q c := by
  cases call with
  | enqueue t => exact stepsAlike_enqueue tq freshId now c h hadm
  | complete id => exact stepsAlike_complete tq freshId now c h id
  | fail id problem => exact stepsAlike_fail tq freshId now c h id problem
  | cancel id => exact stepsAlike_cancel tq freshId now c h id
  | get id => exact stepsAlike_get tq freshId now c h id
  | cleanup olderThan => exact stepsAlike_cleanup tq freshId now c h olderThan hadm

def runOnQueue : List (Instant × LifeCall) → TaskQueue → List (Except Fault LifeAnswer) × TaskQueue
  | [], q => ([], q)
  | (now, call) :: calls, q =>
    ((call.onQueue now q).1 :: (runOnQueue calls (call.onQueue now q).2).1,
      (runOnQueue calls (call.onQueue now q).2).2)

/-- A run of calls on the queue in a table: the answers, the statements the database evaluated in
order, the rows after them, and the connection. -/
structure TableRun where
  answers : List (Except Fault LifeAnswer)
  evaluated : List Statement
  rows : List Row
  conn : Connection

def runOnTable : List (Instant × LifeCall) → List Row → Connection → TableRun
  | [], rows, c => ⟨[], [], rows, c⟩
  | (now, call) :: calls, rows, c =>
    let step := call.onRows tq freshId now rows c
    let rest := runOnTable calls step.2 step.1.2
    ⟨step.1.1 :: rest.answers, call.statements now freshId rows ++ rest.evaluated, rest.rows, rest.conn⟩

def AllAdmissible : List (Instant × LifeCall) → TaskQueue → Prop
  | [], _ => True
  | (now, call) :: calls, q => call.Admissible now q ∧ AllAdmissible calls (call.onQueue now q).2

instance decidableAllAdmissible :
    (calls : List (Instant × LifeCall)) → (q : TaskQueue) → Decidable (AllAdmissible calls q)
  | [], _ => isTrue trivial
  | (now, call) :: calls, q =>
    have := decidableAllAdmissible calls (call.onQueue now q).2
    inferInstanceAs (Decidable (call.Admissible now q ∧ AllAdmissible calls (call.onQueue now q).2))

/-- The run: calls a caller may make, on a table mirroring the queue, answer the same on both
queues and leave the table mirroring the queue; the database evaluates exactly the statements
the queue logs. -/
theorem runs_alike (calls : List (Instant × LifeCall)) :
    ∀ (rows : List Row) (q : TaskQueue) (c : Connection), Mirrors rows q → AllAdmissible calls q →
      (runOnTable tq freshId calls rows c).answers = (runOnQueue calls q).1 ∧
      Mirrors (runOnTable tq freshId calls rows c).rows (runOnQueue calls q).2 ∧
      (runOnTable tq freshId calls rows c).conn.log =
        c.log ++ (runOnTable tq freshId calls rows c).evaluated.map (·.entry tq) := by
  induction calls with
  | nil => intro rows q c h _; exact ⟨rfl, h, by simp [runOnTable]⟩
  | cons call calls ih =>
    obtain ⟨now, call⟩ := call
    intro rows q c h ⟨hadm, hrest⟩
    obtain ⟨rows', hstep, hm⟩ := stepsAlike tq freshId now c h call hadm
    obtain ⟨hans, hm', hlog⟩ := ih rows' _ _ hm hrest
    simp only [runOnTable, runOnQueue, hstep] at hans hm' hlog ⊢
    exact ⟨by rw [hans], hm', by simp [hlog]⟩

/-- The queue kept in a table agrees with the queue kept in memory on a task's life. Both start
empty; the calls are ones a caller may make: tasks enqueued under ids of their own, with a status
their text names back and no last error or completion time, and cleanups that meet no finished
task without a completion time. Then both answer every call alike, the table's rows hold the
queue's tasks in order with the same ids, status, attempts and last errors, and the database
evaluates exactly the statements the queue logs. -/
theorem task_tables_agree_with_memory (tq : TaskTable) (freshId : String)
    (calls : List (Instant × LifeCall)) (c : Connection) (hadm : AllAdmissible calls {}) :
    (runOnTable tq freshId calls [] c).answers = (runOnQueue calls {}).1 ∧
      List.Forall₂ Mirror (runOnTable tq freshId calls [] c).rows (runOnQueue calls {}).2.tasks ∧
      (runOnTable tq freshId calls [] c).conn.log =
        c.log ++ (runOnTable tq freshId calls [] c).evaluated.map (·.entry tq) := by
  obtain ⟨hans, hm, hlog⟩ := runs_alike tq freshId calls [] {} c ⟨.nil, List.nodup_nil, rfl⟩ hadm
  exact ⟨hans, hm.rows, hlog⟩

/-- Both queues take a task, complete it and clean it up alike. -/
theorem finished_task_agrees_on_both_queues :
    let calls : List (Instant × LifeCall) := [(⟨1700000000, 0, 0⟩, .enqueue { id := "t1", kind := "test" }),
      (⟨1700000000, 0, 0⟩, .complete "t1"), (⟨1700000060, 0, 0⟩, .cleanup 0)]
    AllAdmissible calls {} ∧
      ((runOnTable {} "" calls [] {}).answers = (runOnQueue calls {}).1 ∧
        List.Forall₂ Mirror (runOnTable {} "" calls [] {}).rows (runOnQueue calls {}).2.tasks ∧
        (runOnTable {} "" calls [] {}).conn.log =
          [] ++ (runOnTable {} "" calls [] {}).evaluated.map (·.entry {})) := by
  intro calls
  have hadm : AllAdmissible calls {} := by decide
  exact ⟨hadm, task_tables_agree_with_memory {} "" calls {} hadm⟩

/-- A cancelled task gets no completion time in the table, so a cleanup past its cancellation
takes it from the queue in memory and leaves its row: the two answer 1 and 0. -/
theorem cancelled_task_outlives_table_cleanup :
    let calls : List (Instant × LifeCall) := [(⟨1700000000, 0, 0⟩, .enqueue { id := "t1", kind := "test" }),
      (⟨1700000000, 0, 0⟩, .cancel "t1"), (⟨1700000000, 0, 0⟩, .cleanup (-3600000000000))]
    (runOnQueue calls {}).1.getLast? = some (.ok (.removed 1)) ∧
      (runOnTable { driver := .postgres } "" calls [] {}).answers.getLast? = some (.ok (.removed 0)) ∧
      ¬ AllAdmissible calls {} := by
  intro calls
  refine ⟨rfl, rfl, ?_⟩
  decide

end LifeCall

end MediaTimeline

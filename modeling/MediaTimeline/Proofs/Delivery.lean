import Mathlib
import MediaTimeline.Proofs.Effects
import MediaTimeline.Proofs.Run
import MediaTimeline.Tasks.Worker

/-! Delivery accounting for the task queue. -/

namespace MediaTimeline

namespace Instant

theorem secs_ofNanos_pos {n : Int} (h0 : 0 ≤ n) (h1 : n < 2 ^ 63) : 0 < (ofNanos n).secs := by
  simp only [ofNanos, ofUnix, wrap, unixEpoch, zero_add]
  rw [Int.fdiv_eq_ediv_of_nonneg _ (by norm_num)]
  have hq : 0 ≤ n / 1000000000 := Int.ediv_nonneg h0 (by norm_num)
  have hq' : n / 1000000000 < 9223372037 := by omega
  rw [Int.bmod_eq_of_le (by norm_num; omega) (by norm_num; omega)]
  omega

theorem isZero_add {t : Instant} {d : Int} (ht : 0 < t.secs) (hd : 0 ≤ d) :
    (t.add d).isZero = false := by
  have hq : 0 ≤ d.tdiv 1000000000 := Int.tdiv_nonneg hd (by norm_num)
  have hr : 0 ≤ d.tmod 1000000000 := Int.tmod_nonneg _ hd
  simp only [add, isZero, maxSecs, Bool.and_eq_false_iff, beq_eq_false_iff_ne, ne_eq]
  left
  split_ifs <;> omega

end Instant

theorem retryBackoff_nonneg (k : Int) : 0 ≤ retryBackoff k := by
  unfold retryBackoff
  positivity

theorem nextAttempts_of_lt {k : Int} (h0 : -1 ≤ k) (h1 : k + 1 < 2 ^ 63) : nextAttempts k = k + 1 := by
  unfold nextAttempts
  rw [Int.bmod_eq_of_le (by norm_num; omega) (by norm_num; omega)]

/-- How the run of a task a worker took ended: its handler returned, or failed with a message
(a breakdown is reported as a failure too), or the worker had no handler for the task. -/
inductive RunEnd where
  | succeeded
  | failed (message : String)
  | unhandled
deriving DecidableEq

def RunEnd.message : RunEnd → String
  | .failed message => message
  | _ => "no handler registered"

def RunEnd.ofOutcome : Except Crash (Except Fault Unit) → RunEnd
  | .ok (.ok ()) => .succeeded
  | .ok (.error e) => .failed e.message
  | .error c => .failed ("handler panic: " ++ c.message)

namespace Task

/-- `r'` is `r` failed at `now` with `message`: one attempt more, dead-lettered once the retries
are used, and else pending again after the backoff of its attempts. -/
def Failed (r : Task) (message : String) (now : Instant) (r' : Task) : Prop :=
  r'.attempts = r.attempts + 1 ∧ r'.lastError = message ∧ r'.maxRetries = r.maxRetries ∧
    (r.maxRetries ≤ r.attempts + 1 → r'.status = .deadLetter) ∧
    (r.attempts + 1 < r.maxRetries →
      r'.status = .pending ∧ r'.retryAfter = now.add (retryBackoff (r.attempts + 1)))

def Settled (r : Task) : RunEnd → Instant → Task → Prop
  | .succeeded, _, r' =>
    r'.status = .completed ∧ r'.attempts = r.attempts ∧ r'.maxRetries = r.maxRetries
  | e, now, r' => r.Failed e.message now r'

end Task

namespace TaskQueue

variable {q q' : TaskQueue} {id : String} {r t : Task} {now : Instant}

def Holds (q : TaskQueue) (id : String) (r : Task) : Prop :=
  r.id = id ∧ r ∈ q.tasks ∧ ∀ u ∈ q.tasks, u.id = id → u = r

theorem Holds.get (h : q.Holds id r) : q.get id = .ok r := by
  obtain ⟨hid, hr, hall⟩ := h
  have hfind : (q.tasks.find? (·.id == id)).isSome := List.find?_isSome.2 ⟨r, hr, by simp [hid]⟩
  obtain ⟨v, hv⟩ := Option.isSome_iff_exists.1 hfind
  have hv' : v = r := hall v (List.mem_of_find?_eq_some hv) (by simpa using List.find?_some hv)
  simp [TaskQueue.get, hv, hv']

theorem holds_replace (h : ∃ u ∈ q.tasks, u.id = t.id) : (q.replace t).Holds t.id t := by
  obtain ⟨u, hu, hid⟩ := h
  refine ⟨rfl, List.mem_map.2 ⟨u, hu, by simp [hid]⟩, ?_⟩
  simp only [replace, List.mem_map]
  rintro _ ⟨v, -, rfl⟩ hv
  split at hv <;> simp_all

theorem Holds.replace_self (h : q.Holds id r) (ht : t.id = id) : (q.replace t).Holds id t :=
  ht ▸ holds_replace ⟨r, h.2.1, h.1.trans ht.symm⟩

theorem holds_append (h : ∀ u ∈ q.tasks, u.id ≠ t.id) :
    ({ q with tasks := q.tasks ++ [t] } : TaskQueue).Holds t.id t := by
  refine ⟨rfl, by simp, ?_⟩
  intro u hu hid
  simp only [List.mem_append, List.mem_singleton] at hu
  rcases hu with hu | rfl
  · exact absurd hid (h u hu)
  · rfl

theorem enqueue_holds (h : q.enqueue now t = .ok (t', q')) :
    q'.Holds t'.id t' ∧ t'.attempts = t.attempts ∧
      t'.maxRetries = (if t.maxRetries = 0 then defaultMaxRetries else t.maxRetries) ∧
      t'.status = (if t.status = .other "" then .pending else t.status) := by
  unfold enqueue at h
  split at h
  · cases h
  · generalize (if t.id.isEmpty = true then _ else _ : String × TaskQueue) = p at h
    obtain ⟨id, q₁⟩ := p
    dsimp only at h
    split at h <;> (simp only [Except.ok.injEq, Prod.mk.injEq] at h; obtain ⟨rfl, rfl⟩ := h)
    · rename_i hany
      obtain ⟨u, hu, hid⟩ := List.any_eq_true.1 hany
      exact ⟨holds_replace ⟨u, hu, by simpa using hid⟩, rfl, by simp, by simp⟩
    · rename_i hany
      refine ⟨holds_append fun u hu hid => hany (List.any_eq_true.2 ⟨u, hu, by simpa using hid⟩),
        rfl, by simp, by simp⟩

theorem Holds.replace_other (h : q.Holds id r) (ht : t.id ≠ id) : (q.replace t).Holds id r := by
  obtain ⟨hid, hr, hall⟩ := h
  refine ⟨hid, List.mem_map.2 ⟨r, hr, by simp [hid, Ne.symm ht]⟩, ?_⟩
  simp only [replace, List.mem_map]
  rintro u ⟨v, hv, rfl⟩ hu
  split at hu
  · exact absurd hu ht
  · simp only [beq_iff_eq] at *
    simp_all

theorem get_id (h : q.get id = .ok t) : t.id = id := by
  unfold get at h
  split at h
  · rename_i u hu
    cases h
    simpa using List.find?_some hu
  · cases h

theorem mem_of_foldl_pick {p : Task → Task → Bool} {l : List Task} {init : Option Task} {x : Task}
    (h : l.foldl (fun best t => match best with
      | none => some t
      | some b => if p t b then some t else some b) init = some x) :
    x ∈ l ∨ init = some x := by
  induction l generalizing init with
  | nil => exact .inr h
  | cons u l ih =>
    rcases ih h with hx | hx
    · exact .inl (List.mem_cons_of_mem u hx)
    · cases init with
      | none => simp_all
      | some b =>
        dsimp only at hx
        split at hx <;> simp_all

theorem next?_due {kinds : List String} (h : q.next? now kinds = some t) :
    t ∈ q.tasks ∧ due now kinds t = true := by
  rcases mem_of_foldl_pick h with h | h
  · exact List.mem_filter.1 h
  · cases h

theorem dequeue_some {worker : String} {kinds : List String} {t' : Task}
    (h : q.dequeue now worker kinds = .ok (some t', q')) :
    ∃ t ∈ q.tasks, due now kinds t = true ∧
      t' = { t with status := .running, worker := worker, startedAt := some now, updatedAt := now } ∧
      q' = q.replace t' := by
  unfold dequeue at h
  split at h
  · cases h
  · split at h
    · cases h
    · rename_i t ht
      obtain ⟨hmem, hdue⟩ := next?_due ht
      simp only [Except.ok.injEq, Prod.mk.injEq, Option.some.injEq] at h
      obtain ⟨rfl, rfl⟩ := h
      exact ⟨t, hmem, hdue, rfl, rfl⟩

theorem dequeue_none {worker : String} {kinds : List String}
    (h : q.dequeue now worker kinds = .ok (none, q')) : q' = q := by
  unfold dequeue at h
  split at h
  · cases h
  · split at h <;> simp_all

theorem Holds.complete (h : q.Holds id r) (now : Instant) :
    ∃ q' r', q.complete now id = .ok q' ∧ q'.Holds id r' ∧ r.Settled .succeeded now r' := by
  let r' := { r with status := .completed, completedAt := some now, updatedAt := now }
  exact ⟨q.replace r', r', by simp [TaskQueue.complete, h.get, Except.map, r'],
    h.replace_self h.1, rfl, rfl, rfl⟩

/-- Failing the held task, whose attempts are not negative and below the largest 64-bit integer,
counts the attempt and records the message; it dead-letters the task once its retries are used,
and else sets it pending again after its backoff from `now`. -/
theorem Holds.fail (h : q.Holds id r) (now : Instant) (message : String) (h0 : 0 ≤ r.attempts)
    (h1 : r.attempts + 1 < 2 ^ 63) :
    ∃ q' r', q.fail now id message = .ok q' ∧ q'.Holds id r' ∧ r.Failed message now r' := by
  have hnext : nextAttempts r.attempts = r.attempts + 1 := nextAttempts_of_lt (by omega) h1
  by_cases hm : r.maxRetries ≤ r.attempts + 1
  · let r' := { r with
      attempts := r.attempts + 1, lastError := message, updatedAt := now, worker := "",
      status := .deadLetter }
    refine ⟨q.replace r', r', by simp [TaskQueue.fail, h.get, Except.bind, hnext, hm, r'],
      h.replace_self h.1, rfl, rfl, rfl, fun _ => rfl, fun hlt => absurd hm (by omega)⟩
  · have hpos : ¬ r.attempts + 1 < 0 := by omega
    let r' := { r with
      attempts := r.attempts + 1, lastError := message, updatedAt := now, worker := "",
      retryAfter := now.add (retryBackoff (r.attempts + 1)), status := .pending }
    refine ⟨q.replace r', r', by simp [TaskQueue.fail, h.get, Except.bind, hnext, hm, hpos, r'],
      h.replace_self h.1, rfl, rfl, rfl, fun hle => absurd hle hm, fun _ => ⟨rfl, rfl⟩⟩

theorem Holds.complete_other {other : String} (h : q.Holds id r) (hne : other ≠ id)
    (hc : q.complete now other = .ok q') : q'.Holds id r := by
  simp only [TaskQueue.complete, except_map_eq_ok] at hc
  obtain ⟨u, hu, rfl⟩ := hc
  exact h.replace_other (by simpa [get_id hu] using hne)

theorem Holds.fail_other {other message : String} (h : q.Holds id r) (hne : other ≠ id)
    (hc : q.fail now other message = .ok q') : q'.Holds id r := by
  unfold TaskQueue.fail at hc
  cases hu : q.get other with
  | error e => simp [hu, Except.bind] at hc
  | ok u =>
    have hid : u.id ≠ id := by simpa [get_id hu] using hne
    simp only [hu, Except.bind] at hc
    split_ifs at hc <;> cases hc <;> exact h.replace_other hid

theorem Holds.of_fail {message : String} (h : q.Holds id r) (hc : q.fail now id message = .ok q') :
    ∃ r', q'.Holds id r' := by
  unfold TaskQueue.fail at hc
  simp only [h.get, Except.bind] at hc
  split_ifs at hc <;> cases hc <;> exact ⟨_, h.replace_self h.1⟩

end TaskQueue

namespace ServiceM

variable {α : Type}

theorem runOn_tryCatchCrash (m : ServiceM α) (h : Crash → ServiceM α) (s : Service) :
    (tryCatchThe Crash m h).runOn s = match m.runOn s with
      | (.error c, s') => (h c).runOn s'
      | r => r := by
  rcases hm : m.runOn s with ⟨(c | (e | a)), s'⟩
  all_goals
    unfold runOn at hm ⊢
    dsimp only [tryCatchThe, MonadExceptOf.tryCatch, ExceptT.tryCatch, ExceptT.run, ExceptT.mk,
      bind, StateT.run, StateT.bind, ExceptT.bind, ExceptT.bindCont, ExceptT.lift] at hm ⊢
    rw [hm] <;> rfl

abbrev nextInstant (s : Service) : Instant := Instant.ofNanos (s.clock + 1)

abbrev ticked (s : Service) : Service := { s with clock := s.clock + 1 }

def afterTake (s : Service) (q : TaskQueue) : Service := { s with clock := s.clock + 1, queue := q }

@[simp] theorem afterTake_queue (s : Service) (q : TaskQueue) : (afterTake s q).queue = q := rfl
@[simp] theorem afterTake_clock (s : Service) (q : TaskQueue) :
    (afterTake s q).clock = s.clock + 1 := rfl
@[simp] theorem afterTake_outages (s : Service) (q : TaskQueue) :
    (afterTake s q).outages = s.outages := rfl

@[simp] theorem runOn_instant (s : Service) :
    instant.runOn s = (.ok (.ok (nextInstant s)), ticked s) := rfl

theorem state_reportFailure (id message : String) (s : Service)
    (hup : s.outages.queueCalls.contains "fail" = false) :
    ((reportFailure id message).runOn s).2 =
      match s.queue.fail (nextInstant s) id message with
      | .ok q => { ticked s with queue := q }
      | .error _ => ticked s := by
  have hdown : ("fail" ∈ s.outages.queueCalls) = False := by simpa using hup
  simp only [reportFailure, queueDown, runOn_bind, runOn_get, runOn_pure, List.contains_iff_mem,
    hdown, if_false, runOn_instant]
  split <;> simp_all

theorem runOn_reportDone (id : String) (s : Service)
    (hup : s.outages.queueCalls.contains "complete" = false) :
    (reportDone id).runOn s = (.ok (.ok ()),
      match s.queue.complete (nextInstant s) id with
      | .ok q => { ticked s with queue := q }
      | .error _ => ticked s) := by
  have hdown : ("complete" ∈ s.outages.queueCalls) = False := by simpa using hup
  simp only [reportDone, queueDown, runOn_bind, runOn_get, runOn_pure, List.contains_iff_mem,
    hdown, if_false, runOn_instant]
  split <;> simp_all

def reportEnd (id : String) : RunEnd → ServiceM Unit
  | .succeeded => reportDone id
  | e => reportFailure id e.message

theorem state_bind_pure (m : ServiceM Unit) (b : Bool) (s : Service) :
    ((m >>= fun _ => pure b).runOn s).2 = (m.runOn s).2 := by
  rw [runOn_bind]
  rcases m.runOn s with ⟨(c | (e | ⟨⟩)), s'⟩ <;> rfl

/-- One call of a worker: with dequeueing up, it takes the next due task of the kinds it takes,
if any, and hands it to its handler, or fails it at once when it has none; the run's end is
reported as the task's completion or failure. -/
theorem state_processOneWith (run : Task → ServiceM Unit) (w : Worker) (s : Service)
    (hup : s.outages.queueCalls.contains "dequeue" = false) :
    ((processOneWith run w).runOn s).2 =
      match s.queue.dequeue (nextInstant s) workerName w.takes with
      | .ok (some task, q) =>
        if w.handlers.contains task.kind then
          let o := (run task).runOn (afterTake s q)
          ((reportEnd task.id (.ofOutcome o.1)).runOn o.2).2
        else ((reportEnd task.id .unhandled).runOn (afterTake s q)).2
      | _ => ticked s := by
  have hdown : ("dequeue" ∈ s.outages.queueCalls) = False := by simpa using hup
  simp only [processOneWith, queueDown, runOn_bind, runOn_get, runOn_pure, List.contains_iff_mem,
    hdown, if_false, runOn_instant]
  rcases hd : s.queue.dequeue (nextInstant s) workerName w.takes with _ | ⟨_ | task, q⟩
  · rfl
  · rfl
  · by_cases hk : w.handlers.contains task.kind
    · have hk' : task.kind ∈ w.handlers := by simpa using hk
      simp only [hk, hk', Bool.not_true, Bool.false_eq_true, if_false, if_true, runOn_bind,
        runOn_modify, runOn_tryCatchCrash, runOn_tryCatch, runOn_map]
      rw [show ({ s with clock := s.clock + 1, queue := q } : Service) = afterTake s q from rfl]
      rcases (run task).runOn (afterTake s q) with ⟨(c | (e | ⟨⟩)), s'⟩
      · simp only [runOn_pure, reportEnd, RunEnd.ofOutcome, RunEnd.message, Fault.message]
        exact state_bind_pure _ true s'
      · simp only [runOn_pure, reportEnd, RunEnd.ofOutcome, RunEnd.message]
        exact state_bind_pure _ true s'
      · simp only [reportEnd, RunEnd.ofOutcome]
        exact state_bind_pure _ true s'
    · have hk' : task.kind ∉ w.handlers := by simpa using hk
      simp only [hk, hk', Bool.not_false, if_true, if_false, runOn_bind, runOn_modify, reportEnd,
        RunEnd.message]
      rw [show ({ s with clock := s.clock + 1, queue := q } : Service) = afterTake s q from rfl]
      rcases (reportFailure task.id "no handler registered").runOn (afterTake s q) with
        ⟨(c | (e | ⟨⟩)), s'⟩ <;> rfl

variable {id : String} {r : Task} {s : Service}

theorem report_failed (message : String) (h : s.queue.Holds id r) (hup : s.outages.queueCalls = []) :
    let s' := ((reportFailure id message).runOn s).2
    (∃ r', s'.queue.Holds id r' ∧
      (0 ≤ r.attempts → r.attempts + 1 < 2 ^ 63 → r.Failed message (nextInstant s) r')) ∧
      s'.outages.queueCalls = [] ∧ s'.clock = s.clock + 1 := by
  simp only [state_reportFailure id message s (by simp [hup])]
  by_cases hb : 0 ≤ r.attempts ∧ r.attempts + 1 < 2 ^ 63
  · obtain ⟨q', r', hc, hq', hr'⟩ := h.fail (nextInstant s) message hb.1 hb.2
    simp only [hc]
    exact ⟨⟨r', hq', fun _ _ => hr'⟩, hup, trivial⟩
  · -- out of bounds the report settles nothing we claim, but the task stays held
    have hnot : ¬ (0 ≤ r.attempts ∧ r.attempts + 1 < 2 ^ 63) := hb
    split
    · obtain ⟨r', hr'⟩ := h.of_fail ‹_›
      exact ⟨⟨r', hr', fun h0 h1 => absurd ⟨h0, h1⟩ hnot⟩, hup, rfl⟩
    · exact ⟨⟨r, h, fun h0 h1 => absurd ⟨h0, h1⟩ hnot⟩, hup, rfl⟩

/-- Reporting a run of the held task leaves a record of it, which records the run's end at the
instant read when the task's attempts are not negative and below the largest 64-bit integer;
the clock moves by one. -/
theorem report_self (e : RunEnd) (h : s.queue.Holds id r) (hup : s.outages.queueCalls = []) :
    let s' := ((reportEnd id e).runOn s).2
    (∃ r', s'.queue.Holds id r' ∧
      (0 ≤ r.attempts → r.attempts + 1 < 2 ^ 63 → r.Settled e (nextInstant s) r')) ∧
      s'.outages.queueCalls = [] ∧ s'.clock = s.clock + 1 := by
  cases e with
  | succeeded =>
    obtain ⟨q', r', hc, hq', hr'⟩ := h.complete (nextInstant s)
    simp only [reportEnd, runOn_reportDone id s (by simp [hup]), hc]
    exact ⟨⟨r', hq', fun _ _ => hr'⟩, hup, trivial⟩
  | failed message => exact report_failed message h hup
  | unhandled => exact report_failed "no handler registered" h hup

theorem report_other (e : RunEnd) {other : String} (hne : other ≠ id) (h : s.queue.Holds id r)
    (hup : s.outages.queueCalls = []) :
    let s' := ((reportEnd other e).runOn s).2
    s'.queue.Holds id r ∧ s'.outages.queueCalls = [] ∧ s'.clock = s.clock + 1 := by
  cases e with
  | succeeded =>
    simp only [reportEnd, runOn_reportDone other s (by simp [hup])]
    split
    · exact ⟨h.complete_other hne ‹_›, hup, rfl⟩
    · exact ⟨h, hup, rfl⟩
  | failed message =>
    simp only [reportEnd, RunEnd.message, state_reportFailure other message s (by simp [hup])]
    split
    · exact ⟨h.fail_other hne ‹_›, hup, rfl⟩
    · exact ⟨h, hup, rfl⟩
  | unhandled =>
    simp only [reportEnd, RunEnd.message, state_reportFailure other _ s (by simp [hup])]
    split
    · exact ⟨h.fail_other hne ‹_›, hup, rfl⟩
    · exact ⟨h, hup, rfl⟩

end ServiceM

/-- A handler leaves task `id` as the queue holds it, keeps the queue's calls up, and does not
turn the clock back. -/
def KeepsTask (id : String) (run : Task → ServiceM Unit) : Prop :=
  ∀ task s r, s.queue.Holds id r → s.outages.queueCalls = [] →
    (((run task).runOn s).2.queue.Holds id r ∧ ((run task).runOn s).2.outages.queueCalls = [] ∧
      s.clock ≤ ((run task).runOn s).2.clock)

/-- A task handed out: how many failed runs it had then, when it was taken, how its run ended,
and when the end was reported. -/
structure Handout where
  attempts : Int
  takenAt : Instant
  ending : RunEnd
  reportedAt : Instant

/-- A step of a worker's life: one call taking and running a task, with `run` as the handler of
each kind the worker has one for; or the clock moving on by `d` nanoseconds. -/
inductive WorkStep where
  | process (run : Task → ServiceM Unit) (w : Worker)
  | tick (d : Nat)

namespace WorkStep

open ServiceM

def apply : WorkStep → Service → Service
  | process run w, s => ((processOneWith run w).runOn s).2
  | tick d, s => { s with clock := s.clock + d }

def runAll : List WorkStep → Service → Service
  | [], s => s
  | st :: rest, s => runAll rest (st.apply s)

def handout (id : String) : WorkStep → Service → Option Handout
  | tick _, _ => none
  | process run w, s =>
    match s.queue.dequeue (nextInstant s) workerName w.takes with
    | .ok (some task, q) =>
      if task.id = id then
        some (if w.handlers.contains task.kind then
          let o := (run task).runOn (afterTake s q)
          ⟨task.attempts, nextInstant s, .ofOutcome o.1, nextInstant o.2⟩
        else ⟨task.attempts, nextInstant s, .unhandled, nextInstant (afterTake s q)⟩)
      else none
    | _ => none

def handouts (id : String) : List WorkStep → Service → List Handout
  | [], _ => []
  | st :: rest, s => (st.handout id s).toList ++ handouts id rest (st.apply s)

def Keeps (id : String) : WorkStep → Prop
  | process run _ => KeepsTask id run
  | tick _ => True

variable {id : String} {s : Service} {r : Task}

theorem settled_of_running {t : Task} {e : RunEnd} {now : Instant} {r' : Task}
    (ha : t.attempts = r.attempts) (hm : t.maxRetries = r.maxRetries) (h : t.Settled e now r') :
    r.Settled e now r' := by
  cases e <;> simp_all [Task.Settled, Task.Failed]

theorem pending_of_due {now : Instant} {kinds : List String} (h : TaskQueue.due now kinds r = true) :
    r.status = .pending ∧ (r.retryAfter.isZero = true ∨ ¬ now.before r.retryAfter = true) := by
  simp only [TaskQueue.due, Bool.and_eq_true, Bool.or_eq_true, Bool.not_eq_true'] at h
  obtain ⟨⟨⟨hs, -⟩, hr⟩, -⟩ := h
  refine ⟨by simpa using hs, ?_⟩
  rcases hr with hr | hr
  · exact .inl hr
  · exact .inr (by simp [hr])

/-- One step of a worker's life, seen from task `id`: a step that does not hand the task out
leaves it as it is; one that does takes it pending and due, and leaves it settled by the end of
its run, reported at an instant the step's clock went through. -/
theorem apply_holds {st : WorkStep} (hst : st.Keeps id) (h : s.queue.Holds id r)
    (hup : s.outages.queueCalls = []) :
    (st.apply s).outages.queueCalls = [] ∧ s.clock ≤ (st.apply s).clock ∧
      match st.handout id s with
      | none => (st.apply s).queue.Holds id r
      | some d => r.status = .pending ∧ d.attempts = r.attempts ∧
          (r.retryAfter.isZero = true ∨ ¬ d.takenAt.before r.retryAfter = true) ∧
          (∃ n, d.reportedAt = Instant.ofNanos n ∧ s.clock < n ∧ n ≤ (st.apply s).clock) ∧
          ∃ r', (st.apply s).queue.Holds id r' ∧
            (0 ≤ r.attempts → r.attempts + 1 < 2 ^ 63 → r.Settled d.ending d.reportedAt r') := by
  cases st with
  | tick d =>
    exact ⟨hup, by simp [apply], h⟩
  | process run w =>
    have hdq : s.outages.queueCalls.contains "dequeue" = false := by simp [hup]
    simp only [apply, handout, state_processOneWith run w s hdq]
    rcases hd : s.queue.dequeue (nextInstant s) workerName w.takes with _ | ⟨_ | t', q⟩
    · exact ⟨hup, by simp, h⟩
    · exact ⟨hup, by simp, h⟩
    obtain ⟨t, ht, hdue, ht', rfl⟩ := TaskQueue.dequeue_some hd
    have hid' : t'.id = t.id := by rw [ht']
    have hatt : t'.attempts = t.attempts := by rw [ht']
    have hmax : t'.maxRetries = t.maxRetries := by rw [ht']
    have hkind : t'.kind = t.kind := by rw [ht']
    dsimp only
    generalize hs₁ : afterTake s (s.queue.replace t') = s₁
    have hup₁ : s₁.outages.queueCalls = [] := by rw [← hs₁, afterTake_outages]; exact hup
    have hc₁ : s₁.clock = s.clock + 1 := by rw [← hs₁, afterTake_clock]
    by_cases hid : t'.id = id
    · have htr : t = r := h.2.2 t ht (hid' ▸ hid)
      subst htr
      obtain ⟨hpend, hretry⟩ := pending_of_due hdue
      have hq₁ : s₁.queue.Holds id t' := by rw [← hs₁, afterTake_queue]; exact h.replace_self hid
      by_cases hk : w.handlers.contains t'.kind
      · simp only [hid, hk, if_true]
        generalize ho : (run t').runOn s₁ = o
        obtain ⟨hq₂, hup₂, hclock₂⟩ := ho ▸ hst t' s₁ t' hq₁ hup₁
        obtain ⟨⟨r', hr', hset⟩, hup₃, hclock₃⟩ := report_self (.ofOutcome o.1) hq₂ hup₂
        exact ⟨hup₃, by omega, hpend, hatt, hretry, ⟨o.2.clock + 1, rfl, by omega, by omega⟩, r',
          hr', fun h0 h1 => settled_of_running hatt hmax (hset (by omega) (by omega))⟩
      · have hk' : w.handlers.contains t'.kind = false := by simpa using hk
        simp only [hid, hk', Bool.false_eq_true, if_true, if_false]
        obtain ⟨⟨r', hr', hset⟩, hup₃, hclock₃⟩ := report_self .unhandled hq₁ hup₁
        exact ⟨hup₃, by omega, hpend, hatt, hretry, ⟨s₁.clock + 1, rfl, by omega, by omega⟩, r',
          hr', fun h0 h1 => settled_of_running hatt hmax (hset (by omega) (by omega))⟩
    · -- another task is taken: its report leaves task `id` as it was
      have hq₁ : s₁.queue.Holds id r := by rw [← hs₁, afterTake_queue]; exact h.replace_other hid
      simp only [hid, if_false]
      by_cases hk : w.handlers.contains t'.kind
      · simp only [hk, if_true]
        generalize ho : (run t').runOn s₁ = o
        obtain ⟨hq₂, hup₂, hclock₂⟩ := ho ▸ hst t' s₁ r hq₁ hup₁
        obtain ⟨hq₃, hup₃, hclock₃⟩ := report_other (.ofOutcome o.1) hid hq₂ hup₂
        exact ⟨hup₃, by omega, hq₃⟩
      · have hk' : w.handlers.contains t'.kind = false := by simpa using hk
        simp only [hk', Bool.false_eq_true, if_false]
        obtain ⟨hq₃, hup₃, hclock₃⟩ := report_other .unhandled hid hq₁ hup₁
        exact ⟨hup₃, by omega, hq₃⟩

end WorkStep

/-- What the queue's record `r` of a task says of the hand-outs `ps` it had so far, with `m` its
retries: each failed run is one attempt more, a run that succeeded completed it for good, the
retries used dead-letter it, and each hand-out waits out the backoff of the failure before it. -/
structure Accounted (m : Int) (ps : List Handout) (r : Task) : Prop where
  maxRetries : r.maxRetries = m
  attempts : r.attempts = ((ps.filter (·.ending ≠ .succeeded)).length : Int)
  completed : r.status = .completed ↔ ∃ d ∈ ps, d.ending = .succeeded
  handed : ps.length = r.attempts + if r.status = .completed then 1 else 0
  status : r.status = .pending ∧ r.attempts < m ∨ r.status = .completed ∧ r.attempts < m ∨
    r.status = .deadLetter ∧ r.attempts = m
  retry : r.status = .pending →
    ∀ d ∈ ps.getLast?, r.retryAfter = d.reportedAt.add (retryBackoff r.attempts)
  lastError : ∀ d ∈ ps.getLast?, d.ending ≠ .succeeded → r.lastError = d.ending.message
  counted : ps.map (·.attempts) = (List.range ps.length).map Int.ofNat
  spaced : ps.IsChain fun a b => ¬ b.takenAt.before (a.reportedAt.add (retryBackoff b.attempts)) = true
  reported : ∀ d ∈ ps, ∃ n, d.reportedAt = Instant.ofNanos n ∧ 0 ≤ n ∧ n < 2 ^ 63

namespace Accounted

variable {m : Int} {ps : List Handout} {r r' : Task} {d : Handout}

theorem start (hm : 0 < m) (hr : r.maxRetries = m) (hs : r.status = .pending) (ha : r.attempts = 0) :
    Accounted m [] r where
  maxRetries := hr
  attempts := by simpa using ha
  completed := by simp [hs]
  handed := by simp [hs, ha]
  status := .inl ⟨hs, by omega⟩
  retry := by simp
  lastError := by simp
  counted := rfl
  spaced := List.isChain_nil
  reported := by simp

theorem all_failed (h : Accounted m ps r) (hs : r.status = .pending) :
    ∀ d ∈ ps, d.ending ≠ .succeeded := by
  intro d hd he
  have := h.completed.2 ⟨d, hd, he⟩
  simp_all

theorem attempts_of_pending (h : Accounted m ps r) (hs : r.status = .pending) :
    r.attempts = ps.length := by
  rw [h.attempts, List.filter_eq_self.2 (by simpa using h.all_failed hs)]

theorem handout_failed (h : Accounted m ps r) (hs : r.status = .pending)
    (hd : d.attempts = r.attempts)
    (hcounted : (ps ++ [d]).map (·.attempts) = (List.range (ps ++ [d]).length).map Int.ofNat)
    (hspaced : (ps ++ [d]).IsChain
      fun a b => ¬ b.takenAt.before (a.reportedAt.add (retryBackoff b.attempts)) = true)
    (hreported : ∀ e ∈ ps ++ [d], ∃ n, e.reportedAt = Instant.ofNanos n ∧ 0 ≤ n ∧ n < 2 ^ 63)
    (hend : d.ending ≠ .succeeded) (hset : r.Settled d.ending d.reportedAt r') :
    Accounted m (ps ++ [d]) r' := by
  have hfail := h.all_failed hs
  have hlen := h.attempts_of_pending hs
  have hlt : r.attempts < m := by rcases h.status with h' | h' | h' <;> simp_all
  have hmax := h.maxRetries
  obtain ⟨hatt, hmsg, hmax', hdead, hnext⟩ : r.Failed d.ending.message d.reportedAt r' := by
    cases he : d.ending <;> simp_all [Task.Settled]
  have hnot : r'.status ≠ .completed := by
    by_cases hm : r.maxRetries ≤ r.attempts + 1
    · simp [hdead hm]
    · simp [(hnext (by omega)).1]
  refine ⟨hmax'.trans hmax, ?_, ?_, ?_, ?_, ?_, ?_, hcounted, hspaced, hreported⟩
  · rw [hatt, hlen, List.filter_append, List.filter_eq_self.2 (by simpa using hfail)]
    simp [hend]
  · simp only [hnot, false_iff, not_exists, not_and, List.mem_append, List.mem_singleton]
    rintro e (he | rfl)
    exacts [hfail e he, hend]
  · simp [hnot, hatt, hlen]
  · by_cases hm : m ≤ r.attempts + 1
    · exact .inr (.inr ⟨hdead (by omega), by omega⟩)
    · exact .inl ⟨(hnext (by omega)).1, by omega⟩
  · intro hp e he
    have hm : r.attempts + 1 < r.maxRetries := by
      by_contra hm
      simp [hdead (by omega)] at hp
    obtain rfl : d = e := by simpa using he
    rw [(hnext hm).2, hatt]
  · intro e he _
    obtain rfl : d = e := by simpa using he
    exact hmsg

theorem handout (h : Accounted m ps r) (hs : r.status = .pending) (hd : d.attempts = r.attempts)
    (hdue : r.retryAfter.isZero = true ∨ ¬ d.takenAt.before r.retryAfter = true)
    (hn : ∃ n, d.reportedAt = Instant.ofNanos n ∧ 0 ≤ n ∧ n < 2 ^ 63)
    (hset : r.Settled d.ending d.reportedAt r') : Accounted m (ps ++ [d]) r' := by
  have hfail := h.all_failed hs
  have hlen := h.attempts_of_pending hs
  have hlt : r.attempts < m := by rcases h.status with h' | h' | h' <;> simp_all
  have hmax := h.maxRetries
  have hwait : ∀ a ∈ ps.getLast?,
      ¬ d.takenAt.before (a.reportedAt.add (retryBackoff d.attempts)) = true := by
    intro a ha
    obtain ⟨n, hn, hn0, hn1⟩ := h.reported a (List.mem_of_getLast? ha)
    have hra := h.retry hs a ha
    have hz : r.retryAfter.isZero = false := by
      rw [hra, hn]
      exact Instant.isZero_add (Instant.secs_ofNanos_pos hn0 hn1) (retryBackoff_nonneg _)
    rw [hd, ← hra]
    simpa [hz] using hdue
  have hspaced : (ps ++ [d]).IsChain
      fun a b => ¬ b.takenAt.before (a.reportedAt.add (retryBackoff b.attempts)) = true :=
    h.spaced.append (List.isChain_singleton d) (by simpa using hwait)
  have hcounted : (ps ++ [d]).map (·.attempts) = (List.range (ps ++ [d]).length).map Int.ofNat := by
    simp [h.counted, List.range_succ, hd, hlen]
  have hreported : ∀ e ∈ ps ++ [d], ∃ n, e.reportedAt = Instant.ofNanos n ∧ 0 ≤ n ∧ n < 2 ^ 63 := by
    intro e he
    rcases List.mem_append.1 he with he | he
    · exact h.reported e he
    · simp only [List.mem_singleton] at he
      exact he ▸ hn
  cases hend : d.ending with
  | succeeded =>
    rw [hend] at hset
    obtain ⟨hst, hatt, hmax'⟩ := hset
    refine ⟨hmax'.trans hmax, ?_, ?_, ?_, ?_, ?_, ?_, hcounted, hspaced, hreported⟩
    · simp [hatt, h.attempts, hend]
    · simp only [hst, true_iff]
      exact ⟨d, by simp, hend⟩
    · simp [hst, hatt, hlen]
    · exact .inr (.inl ⟨hst, by omega⟩)
    · simp [hst]
    · intro e he hne
      obtain rfl : d = e := by simpa using he
      exact absurd hend hne
  | failed message => exact handout_failed h hs hd hcounted hspaced hreported (by simp [hend]) hset
  | unhandled => exact handout_failed h hs hd hcounted hspaced hreported (by simp [hend]) hset

theorem length_le (h : Accounted m ps r) : (ps.length : Int) ≤ m := by
  rw [h.handed]
  rcases h.status with ⟨hs, hlt⟩ | ⟨hs, hlt⟩ | ⟨hs, heq⟩ <;> simp [hs] <;> omega

end Accounted

namespace WorkStep

variable {id : String}

theorem runAll_holds (steps : List WorkStep) : ∀ (s : Service) (r : Task),
    (∀ st ∈ steps, st.Keeps id) → s.queue.Holds id r → s.outages.queueCalls = [] →
    (∃ r', (runAll steps s).queue.Holds id r') ∧ s.clock ≤ (runAll steps s).clock := by
  induction steps with
  | nil => exact fun s r _ h _ => ⟨⟨r, h⟩, le_rfl⟩
  | cons st rest ih =>
    intro s r hkeep h hup
    obtain ⟨hup₁, hclock₁, hstep⟩ := apply_holds (hkeep st (by simp)) h hup
    have hheld : ∃ r', (st.apply s).queue.Holds id r' := by
      split at hstep
      · exact ⟨r, hstep⟩
      · obtain ⟨-, -, -, -, r', h', -⟩ := hstep
        exact ⟨r', h'⟩
    obtain ⟨r', h'⟩ := hheld
    obtain ⟨hend, hclock⟩ := ih (st.apply s) r' (fun st' h'' => hkeep st' (by simp [h''])) h' hup₁
    exact ⟨hend, hclock₁.trans hclock⟩

theorem runAll_accounted {m : Int} (steps : List WorkStep) : ∀ (s : Service) (ps : List Handout)
    (r : Task), (∀ st ∈ steps, st.Keeps id) → s.queue.Holds id r → s.outages.queueCalls = [] →
    (ps.length : Int) ≤ s.clock → (runAll steps s).clock < 2 ^ 63 → Accounted m ps r →
    ∃ r', (runAll steps s).queue.Holds id r' ∧ Accounted m (ps ++ handouts id steps s) r' := by
  induction steps with
  | nil => exact fun s ps r _ h _ _ _ hacc => ⟨r, h, by simpa [handouts] using hacc⟩
  | cons st rest ih =>
    intro s ps r hkeep h hup hlen hlt hacc
    have hrest : ∀ st ∈ rest, st.Keeps id := fun st' h' => hkeep st' (by simp [h'])
    obtain ⟨hup₁, hclock₁, hstep⟩ := apply_holds (hkeep st (by simp)) h hup
    simp only [runAll, handouts] at hlt ⊢
    cases hd : st.handout id s with
    | none =>
      rw [hd] at hstep
      simpa using ih (st.apply s) ps r hrest hstep hup₁ (by omega) hlt hacc
    | some d =>
      rw [hd] at hstep
      obtain ⟨hs, hatt, hdue, ⟨n, hn, hn₀, hn₁⟩, r', h', hset⟩ := hstep
      -- the report is a reading of the clock within the run, so it stays below the bound; each
      -- hand-out reads the clock, so the attempts, one per hand-out, stay below it too
      have hclock₂ := (runAll_holds rest (st.apply s) r' hrest h' hup₁).2
      have hcount : r.attempts = ps.length := hacc.attempts_of_pending hs
      have hacc' := hacc.handout hs hatt hdue ⟨n, hn, by omega, by omega⟩
        (hset (by omega) (by omega))
      simpa using ih (st.apply s) (ps ++ [d]) r' hrest h' hup₁ (by simp; omega) hlt hacc'

end WorkStep

/-- Delivery accounting. A task enqueued with its status unset or pending, no attempts and a retry
count that is not negative (none meaning the default) is accounted for over every run of worker
calls, whose handlers keep it, and of clock steps: the queue still holds it, and its record
answers for each time it was handed out. -/
theorem task_delivery_accounting (s : Service) (now : Instant) (t t' : Task) (q : TaskQueue)
    (steps : List WorkStep) (henq : s.queue.enqueue now t = .ok (t', q))
    (hstatus : t.status = .other "" ∨ t.status = .pending) (hatt : t.attempts = 0)
    (hm : 0 ≤ t.maxRetries) (hup : s.outages.queueCalls = []) (hclock : 0 ≤ s.clock)
    (hkeep : ∀ st ∈ steps, st.Keeps t'.id)
    (hend : (WorkStep.runAll steps { s with queue := q }).clock < 2 ^ 63) :
    t'.maxRetries = (if t.maxRetries = 0 then defaultMaxRetries else t.maxRetries) ∧
      ∃ r, (WorkStep.runAll steps { s with queue := q }).queue.get t'.id = .ok r ∧
        Accounted t'.maxRetries (WorkStep.handouts t'.id steps { s with queue := q }) r := by
  obtain ⟨hheld, hatt', hmax, hst⟩ := TaskQueue.enqueue_holds henq
  have hpos : 0 < t'.maxRetries := by
    rw [hmax]
    split_ifs with h₀
    · decide
    · omega
  have hpending : t'.status = .pending := by
    rw [hst]
    rcases hstatus with h | h <;> simp [h]
  have hacc : Accounted t'.maxRetries [] t' := .start hpos rfl hpending (hatt'.trans hatt)
  obtain ⟨r, hr, hacc'⟩ :=
    WorkStep.runAll_accounted steps { s with queue := q } [] t' hkeep hheld hup (by simpa using hclock)
      hend hacc
  exact ⟨hmax, r, hr.get, by simpa using hacc'⟩

theorem keepsTask_throw (id : String) (e : Fault) : KeepsTask id fun _ => throw e :=
  fun _ s _ h hup => by simp [h, hup]

/-- A task allowed two runs whose handler always fails: it is handed out, refused while its retry
waits, handed out again after the backoff and then held as a dead letter. -/
theorem task_delivery_accounting_dead_letter :
    let w : Worker := { handlers := ["test"], kinds := ["test"] }
    let fail : Task → ServiceM Unit := fun _ => throw (.plain "boom")
    let steps := [WorkStep.process fail w, .process fail w, .tick 3000000000, .process fail w,
      .process fail w]
    ∃ t' q, ({} : Service).queue.enqueue .zero { id := "t1", kind := "test", maxRetries := 2 } =
        .ok (t', q) ∧ t'.maxRetries = 2 ∧
      ∃ r, (WorkStep.runAll steps { ({} : Service) with queue := q }).queue.get t'.id = .ok r ∧
        Accounted t'.maxRetries (WorkStep.handouts t'.id steps { ({} : Service) with queue := q }) r ∧
        (WorkStep.handouts t'.id steps { ({} : Service) with queue := q }).length = 2 ∧
        r.status = .deadLetter := by
  intro w fail steps
  have hrun : ((({} : Service).queue.enqueue .zero
      { id := "t1", kind := "test", maxRetries := 2 }).toOption.bind fun p =>
        let s := WorkStep.runAll steps { ({} : Service) with queue := p.2 }
        (s.queue.get p.1.id).toOption.map fun r =>
          (r.status, (WorkStep.handouts p.1.id steps { ({} : Service) with queue := p.2 }).length,
            decide (s.clock < 2 ^ 63))) =
      some (.deadLetter, 2, true) := by decide +kernel
  rcases henq : ({} : Service).queue.enqueue .zero { id := "t1", kind := "test", maxRetries := 2 } with
    _ | ⟨t', q⟩
  · simp [henq, Except.toOption] at hrun
  rw [henq] at hrun
  cases hget : (WorkStep.runAll steps { ({} : Service) with queue := q }).queue.get t'.id with
  | error e => simp [Except.toOption, hget] at hrun
  | ok r =>
    simp only [Except.toOption, hget, Option.bind_some, Option.map_some, Option.some.injEq,
      Prod.mk.injEq, decide_eq_true_eq] at hrun
    obtain ⟨hst, hlen, hend⟩ := hrun
    obtain ⟨h₁, r', hr', hacc⟩ := task_delivery_accounting {} .zero _ t' q steps henq (.inl rfl) rfl
      (by decide) rfl (by decide) (by simp [steps, fail, WorkStep.Keeps, keepsTask_throw]) hend
    obtain rfl : r' = r := Except.ok.inj (hr'.symm.trans hget)
    exact ⟨t', q, rfl, by simpa using h₁, r', hr', hacc, hlen, hst⟩

/-- A task enqueued as completed is held completed with no attempt, and is due at no time for no
worker: it is never handed out. -/
theorem completed_enqueue_is_never_due :
    ∃ t' q, ({} : TaskQueue).enqueue .zero { id := "t1", kind := "test", status := .completed } =
        .ok (t', q) ∧ t'.status = .completed ∧ t'.attempts = 0 ∧
      ∀ now kinds, TaskQueue.due now kinds t' = false :=
  ⟨_, _, rfl, rfl, rfl, fun now kinds => by simp [TaskQueue.due]⟩

end MediaTimeline

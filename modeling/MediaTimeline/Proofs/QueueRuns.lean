import Mathlib
import MediaTimeline.Proofs.DequeueOrder

/-! Runs of calls on a queue held in memory, made by any number of workers, each call at an instant
of its own. A call the queue refuses leaves it as it was, and a runtime error stops the run. -/

namespace MediaTimeline

/-- A call on a queue held in memory. -/
inductive QueueCall where
  | enqueue (t : Task)
  | dequeue (worker : String) (kinds : List String)
  | complete (id : String)
  | fail (id error : String)
  | cancel (id : String)
  | heartbeat (id worker : String)
  | get (id : String)
  | list (filter : TaskFilter)
  | stats
  | cleanup (olderThan : Int)
  | close

namespace QueueCall

def settle (q : TaskQueue) : Except Fault TaskQueue → TaskQueue
  | .ok q' => q'
  | .error _ => q

/-- A call at `now`: the task it hands out, when it is a dequeue that hands one out, and the
queue after it; or the runtime error that stopped it. Reading calls leave the queue alone. -/
def perform (now : Instant) (q : TaskQueue) : QueueCall → Except String (Option Task × TaskQueue)
  | enqueue t => .ok (none, match q.enqueue now t with
    | .ok (_, q') => q'
    | .error _ => q)
  | dequeue worker kinds => .ok (match q.dequeue now worker kinds with
    | .ok r => r
    | .error _ => (none, q))
  | complete id => .ok (none, settle q (q.complete now id))
  | fail id error => match q.fail now id error with
    | .error (.crash m) => .error m
    | r => .ok (none, settle q r)
  | cancel id => .ok (none, settle q (q.cancel now id))
  | heartbeat id worker => .ok (none, settle q (q.heartbeat now id worker))
  | get _ | list _ | stats => .ok (none, q)
  | cleanup olderThan => .ok (none, (q.cleanup now olderThan).2)
  | close => .ok (none, q.close)

def Rearms (x : String) : QueueCall → Prop
  | enqueue t => t.id = x ∨ t.id = ""
  | fail id _ => id = x
  | _ => False

def run : List (Instant × QueueCall) → TaskQueue → List Task × Except String TaskQueue
  | [], q => ([], .ok q)
  | (now, c) :: cs, q =>
    match c.perform now q with
    | .error m => ([], .error m)
    | .ok (handed, q') => (handed.toList ++ (run cs q').1, (run cs q').2)

@[simp] theorem run_nil (q : TaskQueue) : run [] q = ([], .ok q) := rfl

theorem run_of_ok {now : Instant} {c : QueueCall} {cs : List (Instant × QueueCall)}
    {q q' : TaskQueue} {handed : Option Task} (h : c.perform now q = .ok (handed, q')) :
    run ((now, c) :: cs) q = (handed.toList ++ (run cs q').1, (run cs q').2) := by
  simp [run, h]

theorem run_of_error {now : Instant} {c : QueueCall} {cs : List (Instant × QueueCall)}
    {q : TaskQueue} {m : String} (h : c.perform now q = .error m) :
    run ((now, c) :: cs) q = ([], .error m) := by
  simp [run, h]

end QueueCall

namespace TaskQueue

variable {q q' : TaskQueue} {now : Instant} {t t' u : Task} {id x : String}

/-! ### What each call does to the tasks -/

/-- An enqueue either replaces the tasks under the new task's id or adds it at the end; a task
that comes with an id keeps it. -/
theorem enqueue_tasks (h : q.enqueue now t = .ok (t', q')) :
    (q'.tasks = (q.replace t').tasks ∨ q'.tasks = q.tasks ++ [t']) ∧ (t.id ≠ "" → t'.id = t.id) := by
  unfold enqueue at h
  split at h
  · cases h
  · by_cases hid : t.id.isEmpty = true
    · simp only [hid, if_true] at h
      split at h <;> (simp only [Except.ok.injEq, Prod.mk.injEq] at h; obtain ⟨rfl, rfl⟩ := h)
      · exact ⟨.inl rfl, fun hne => absurd (String.isEmpty_iff.1 hid) hne⟩
      · exact ⟨.inr rfl, fun hne => absurd (String.isEmpty_iff.1 hid) hne⟩
    · simp only [hid, Bool.false_eq_true, if_false] at h
      split at h <;> (simp only [Except.ok.injEq, Prod.mk.injEq] at h; obtain ⟨rfl, rfl⟩ := h)
      · exact ⟨.inl rfl, fun _ => rfl⟩
      · exact ⟨.inr rfl, fun _ => rfl⟩

theorem get_mem (h : q.get id = .ok t) : t ∈ q.tasks := by
  unfold get at h
  split at h
  · rename_i u hu
    cases h
    exact List.mem_of_find?_eq_some hu
  · cases h

theorem complete_replace (h : q.complete now id = .ok q') : ∃ r ∈ q.tasks,
    q' = q.replace { r with status := .completed, completedAt := some now, updatedAt := now } := by
  cases hg : q.get id with
  | error e => simp [complete, hg] at h
  | ok r =>
    simp only [complete, hg, Except.map, Except.ok.injEq] at h
    exact ⟨r, get_mem hg, h.symm⟩

theorem cancel_replace (h : q.cancel now id = .ok q') : ∃ r ∈ q.tasks,
    q' = q.replace { r with status := .cancelled, updatedAt := now } := by
  cases hg : q.get id with
  | error e => simp [cancel, hg] at h
  | ok r =>
    simp only [cancel, hg, Except.map, Except.ok.injEq] at h
    exact ⟨r, get_mem hg, h.symm⟩

theorem heartbeat_replace {worker : String} (h : q.heartbeat now id worker = .ok q') : ∃ r ∈ q.tasks,
    r.status = .running ∧ q' = q.replace { r with updatedAt := now } := by
  unfold heartbeat at h
  split at h
  · rename_i r hr
    split at h
    · rename_i hrun
      simp only [Except.ok.injEq] at h
      simp only [Bool.and_eq_true, beq_iff_eq] at hrun
      exact ⟨r, List.mem_of_find?_eq_some hr, hrun.2, h.symm⟩
    · cases h
  · cases h

theorem fail_replace {error : String} (h : q.fail now id error = .ok q') :
    ∃ t, t.id = id ∧ q' = q.replace t := by
  cases hg : q.get id with
  | error e => simp [fail, hg, Except.bind] at h
  | ok r =>
    have hr := get_id hg
    simp only [fail, hg, Except.bind] at h
    split_ifs at h <;> (simp only [Except.ok.injEq] at h; refine ⟨_, ?_, h.symm⟩; exact hr)

/-! ### Taken tasks -/

def Taken (x : String) (q : TaskQueue) : Prop := ∀ u ∈ q.tasks, u.id = x → u.status ≠ .pending

theorem Taken.replace (h : q.Taken x) (ht : t.id = x → t.status ≠ .pending) :
    (q.replace t).Taken x := by
  intro u hu hux
  by_cases hut : u.id = t.id
  · rw [eq_of_mem_replace hu hut]
    exact ht (hut ▸ hux)
  · exact h u (mem_of_mem_replace hu hut) hux

theorem Taken.of_subset (h : q.Taken x) (hsub : ∀ u ∈ q'.tasks, u ∈ q.tasks) : q'.Taken x :=
  fun u hu => h u (hsub u hu)

theorem Taken.not_ready {kinds : List String} (h : q.Taken x) (hu : u ∈ q.tasks)
    (hr : Ready now kinds u) : u.id ≠ x :=
  fun hux => h u hu hux hr.pending

theorem taken_replace_claimed {worker : String} : (q.replace (t.claimed now worker)).Taken t.id := by
  intro u hu hut
  rw [eq_of_mem_replace hu hut]
  simp

end TaskQueue

namespace QueueCall

open TaskQueue

variable {q q' : TaskQueue} {now : Instant} {c : QueueCall} {t : Task} {x : String}
  {handed : Option Task}

theorem perform_some (h : c.perform now q = .ok (some t, q')) :
    ∃ worker kinds, q.dequeue now worker kinds = .ok (some t, q') := by
  cases c with
  | dequeue worker kinds =>
    refine ⟨worker, kinds, ?_⟩
    simp only [perform, Except.ok.injEq] at h
    split at h
    · rename_i r hr
      rw [hr, h]
    · cases h
  | fail id error =>
    simp only [perform] at h
    split at h <;> simp at h
  | _ => simp [perform] at h

theorem perform_some_taken (h : c.perform now q = .ok (some t, q')) : q'.Taken t.id := by
  obtain ⟨worker, kinds, hd⟩ := perform_some h
  obtain ⟨u, -, -, -, rfl, rfl⟩ := dequeue_some_least hd
  exact taken_replace_claimed

theorem perform_some_ne (hx : q.Taken x) (h : c.perform now q = .ok (some t, q')) : t.id ≠ x := by
  obtain ⟨worker, kinds, hd⟩ := perform_some h
  obtain ⟨u, hu, hr, -, rfl, -⟩ := dequeue_some_least hd
  rw [Task.claimed_id]
  exact hx.not_ready hu hr

theorem perform_taken (hx : q.Taken x) (hc : ¬ c.Rearms x) (h : c.perform now q = .ok (handed, q')) :
    q'.Taken x := by
  cases c with
  | enqueue t =>
    simp only [Rearms, not_or] at hc
    simp only [perform, Except.ok.injEq, Prod.mk.injEq] at h
    obtain ⟨-, rfl⟩ := h
    split
    · rename_i t' q₁ he
      obtain ⟨htasks, hid⟩ := enqueue_tasks he
      have ht' : t'.id ≠ x := (hid hc.2).symm ▸ hc.1
      rcases htasks with hrep | happ
      · exact fun u hu => (hx.replace (fun h => absurd h ht')) u (hrep ▸ hu)
      · intro u hu hux
        rw [happ, List.mem_append, List.mem_singleton] at hu
        rcases hu with hu | rfl
        · exact hx u hu hux
        · exact absurd hux ht'
    · exact hx
  | dequeue worker kinds =>
    simp only [perform, Except.ok.injEq] at h
    split at h
    · rename_i r hr
      subst h
      rcases handed with _ | u
      · rw [dequeue_none hr]
        exact hx
      · obtain ⟨v, hv, hready, -, rfl, rfl⟩ := dequeue_some_least hr
        exact hx.replace fun _ => by simp
    · obtain ⟨-, rfl⟩ := Prod.mk.inj h
      exact hx
  | complete id =>
    simp only [perform, Except.ok.injEq, Prod.mk.injEq] at h
    obtain ⟨-, rfl⟩ := h
    cases hr : q.complete now id with
    | error e => exact hx
    | ok q₁ =>
      obtain ⟨r, -, rfl⟩ := complete_replace hr
      exact hx.replace fun _ => by simp
  | fail id error =>
    simp only [Rearms] at hc
    simp only [perform] at h
    split at h
    · cases h
    · simp only [Except.ok.injEq, Prod.mk.injEq] at h
      obtain ⟨-, rfl⟩ := h
      cases hr : q.fail now id error with
      | error e => exact hx
      | ok q₁ =>
        obtain ⟨u, hid, rfl⟩ := fail_replace hr
        exact hx.replace fun hux => absurd (hid ▸ hux) hc
  | cancel id =>
    simp only [perform, Except.ok.injEq, Prod.mk.injEq] at h
    obtain ⟨-, rfl⟩ := h
    cases hr : q.cancel now id with
    | error e => exact hx
    | ok q₁ =>
      obtain ⟨r, -, rfl⟩ := cancel_replace hr
      exact hx.replace fun _ => by simp
  | heartbeat id worker =>
    simp only [perform, Except.ok.injEq, Prod.mk.injEq] at h
    obtain ⟨-, rfl⟩ := h
    cases hr : q.heartbeat now id worker with
    | error e => exact hx
    | ok q₁ =>
      obtain ⟨r, -, hs, rfl⟩ := heartbeat_replace hr
      exact hx.replace fun _ => by simp [hs]
  | get _ | list _ | stats =>
    simp only [perform, Except.ok.injEq, Prod.mk.injEq] at h
    exact h.2 ▸ hx
  | cleanup olderThan =>
    simp only [perform, Except.ok.injEq, Prod.mk.injEq] at h
    obtain ⟨-, rfl⟩ := h
    exact hx.of_subset fun u hu => (List.mem_filter.1 hu).1
  | close =>
    simp only [perform, Except.ok.injEq, Prod.mk.injEq] at h
    obtain ⟨-, rfl⟩ := h
    exact hx

end QueueCall

section Exclusive

open TaskQueue QueueCall

variable {x : String}

theorem run_taken (calls : List (Instant × QueueCall)) : ∀ q : TaskQueue, q.Taken x →
    (∀ c ∈ calls, ¬ c.2.Rearms x) → ∀ t ∈ (QueueCall.run calls q).1, t.id ≠ x := by
  induction calls with
  | nil => simp
  | cons call calls ih =>
    obtain ⟨now, c⟩ := call
    intro q hx hcalls t ht
    have hc : ¬ c.Rearms x := hcalls _ List.mem_cons_self
    have hrest : ∀ c ∈ calls, ¬ c.2.Rearms x := fun c hc => hcalls c (List.mem_cons_of_mem _ hc)
    cases hp : c.perform now q with
    | error m => simp [run_of_error hp] at ht
    | ok r =>
      obtain ⟨handed, q'⟩ := r
      rw [run_of_ok hp, List.mem_append] at ht
      rcases ht with ht | ht
      · cases handed with
        | none => cases ht
        | some u =>
          rw [Option.mem_toList, Option.some.injEq] at ht
          exact ht ▸ perform_some_ne hx hp
      · exact ih q' (perform_taken hx hc hp) hrest t ht

/-- A task is handed out again only after it fails: a run that never re-arms `x` hands out a
task under `x` at most once. -/
theorem run_count_le_one (calls : List (Instant × QueueCall)) : ∀ q : TaskQueue,
    (∀ c ∈ calls, ¬ c.2.Rearms x) → ((QueueCall.run calls q).1.map (·.id)).count x ≤ 1 := by
  induction calls with
  | nil => simp
  | cons call calls ih =>
    obtain ⟨now, c⟩ := call
    intro q hcalls
    have hrest : ∀ c ∈ calls, ¬ c.2.Rearms x := fun c hc => hcalls c (List.mem_cons_of_mem _ hc)
    cases hp : c.perform now q with
    | error m => simp [run_of_error hp]
    | ok r =>
      obtain ⟨handed, q'⟩ := r
      rw [run_of_ok hp]
      cases handed with
      | none => simpa using ih q' hrest
      | some u =>
        by_cases hux : u.id = x
        · -- the first hand-out under `x` takes it for the rest of the run
          have hnone : ((QueueCall.run calls q').1.map (·.id)).count x = 0 := by
            rw [List.count_eq_zero]
            intro hmem
            obtain ⟨t, ht, htx⟩ := List.mem_map.1 hmem
            exact run_taken calls q' (hux ▸ perform_some_taken hp) hrest t ht htx
          simp [hux, hnone]
        · simpa [List.count_cons, hux] using ih q' hrest

end Exclusive

section Drain

open TaskQueue QueueCall

variable {q : TaskQueue} {now : Instant} {kinds : List String} {t t' u : Task}

namespace TaskQueue

theorem ready_replace_iff (ht : t'.status ≠ .pending) :
    (u ∈ (q.replace t').tasks ∧ Ready now kinds u) ↔ (u ∈ q.tasks ∧ Ready now kinds u ∧ u.id ≠ t'.id) := by
  constructor
  · rintro ⟨hu, hr⟩
    have hne : u.id ≠ t'.id := fun h => ht (eq_of_mem_replace hu h ▸ hr.pending)
    exact ⟨mem_of_mem_replace hu hne, hr, hne⟩
  · rintro ⟨hu, hr, hne⟩
    exact ⟨mem_replace_of_ne hu hne, hr⟩

theorem filter_due_replace (ht : t'.status ≠ .pending) :
    (q.replace t').tasks.filter (due now kinds) =
      (q.tasks.filter (due now kinds)).filter fun u => u.id != t'.id := by
  have hnot : due now kinds t' = false := by
    rw [Bool.eq_false_iff, ne_eq, due_iff_ready]
    exact fun hr => ht hr.pending
  have hf : ∀ u : Task, due now kinds (if u.id == t'.id then t' else u) = (u.id != t'.id && due now kinds u) := by
    intro u
    by_cases hu : u.id = t'.id <;> simp [hu, hnot]
  simp only [replace, List.filter_map, List.filter_filter, Function.comp_def, hf]
  refine (List.map_congr_left fun v hv => ?_).trans (List.map_id' _)
  simp only [List.mem_filter, Bool.and_eq_true, bne_iff_ne, ne_eq] at hv
  simp [hv.2.1]

end TaskQueue

/-- What a run of dequeues at `now` hands out when it drains `q`: each ready task once, marked
running for a worker, in rank order, leaving no task ready. -/
structure Drains (now : Instant) (kinds : List String) (q : TaskQueue)
    (r : List Task × Except String TaskQueue) : Prop where
  ids : ∀ x, x ∈ r.1.map (·.id) ↔ ∃ t ∈ q.tasks, t.id = x ∧ Ready now kinds t
  once : (r.1.map (·.id)).Nodup
  ordered : r.1.Pairwise fun a b => a.rank ≤ b.rank
  claimed : ∀ t' ∈ r.1, ∃ t ∈ q.tasks, Ready now kinds t ∧ ∃ worker, t' = t.claimed now worker
  emptied : ∃ q', r.2 = .ok q' ∧ ∀ t ∈ q'.tasks, ¬ Ready now kinds t

theorem Drains.cons {worker : String} {r : List Task × Except String TaskQueue}
    (ht : t ∈ q.tasks) (hready : Ready now kinds t)
    (hleast : ∀ u ∈ q.tasks, Ready now kinds u → t.rank ≤ u.rank)
    (h : Drains now kinds (q.replace (t.claimed now worker)) r) :
    Drains now kinds q (t.claimed now worker :: r.1, r.2) := by
  have hrest : ∀ u, (u ∈ (q.replace (t.claimed now worker)).tasks ∧ Ready now kinds u) ↔
      (u ∈ q.tasks ∧ Ready now kinds u ∧ u.id ≠ t.id) := fun u => ready_replace_iff (by simp)
  have hfrom : ∀ b ∈ r.1, ∃ u ∈ q.tasks, Ready now kinds u ∧ u.id ≠ t.id ∧ b.id = u.id ∧ b.rank = u.rank := by
    intro b hb
    obtain ⟨u, hu, hr, w, rfl⟩ := h.claimed b hb
    obtain ⟨hu, -, hne⟩ := (hrest u).1 ⟨hu, hr⟩
    exact ⟨u, hu, hr, hne, rfl, rfl⟩
  refine ⟨fun x => ?_, ?_, ?_, ?_, h.emptied⟩
  · simp only [List.map_cons, List.mem_cons, Task.claimed_id, h.ids x]
    constructor
    · rintro (rfl | ⟨u, hu, rfl, hr⟩)
      · exact ⟨t, ht, rfl, hready⟩
      · exact ⟨u, ((hrest u).1 ⟨hu, hr⟩).1, rfl, hr⟩
    · rintro ⟨u, hu, rfl, hr⟩
      by_cases hut : u.id = t.id
      · exact .inl hut
      · exact .inr ⟨u, ((hrest u).2 ⟨hu, hr, hut⟩).1, rfl, hr⟩
  · refine List.nodup_cons.2 ⟨fun hmem => ?_, h.once⟩
    obtain ⟨b, hb, hbt⟩ := List.mem_map.1 hmem
    obtain ⟨u, -, -, hne, hbu, -⟩ := hfrom b hb
    exact hne (hbu ▸ hbt)
  · refine List.pairwise_cons.2 ⟨fun b hb => ?_, h.ordered⟩
    obtain ⟨u, hu, hr, -, -, hbu⟩ := hfrom b hb
    rw [Task.claimed_rank, hbu]
    exact hleast u hu hr
  · intro b hb
    rcases List.mem_cons.1 hb with rfl | hb
    · exact ⟨t, ht, hready, worker, rfl⟩
    · obtain ⟨u, hu, hr, w, rfl⟩ := h.claimed b hb
      exact ⟨u, ((hrest u).1 ⟨hu, hr⟩).1, hr, w, rfl⟩

theorem run_drains (workers : List String) : ∀ q : TaskQueue, q.closed = false →
    (q.tasks.filter (due now kinds)).length ≤ workers.length →
    Drains now kinds q (QueueCall.run (workers.map fun w => (now, .dequeue w kinds)) q) := by
  induction workers with
  | nil =>
    intro q _ hlen
    have hnone : ∀ t ∈ q.tasks, ¬ Ready now kinds t := fun t ht hr =>
      (List.filter_eq_nil_iff.1 (List.eq_nil_of_length_eq_zero (Nat.le_zero.1 hlen))) t ht
        (due_iff_ready.2 hr)
    exact ⟨fun x => by simpa using fun t ht _ => hnone t ht, List.nodup_nil, List.Pairwise.nil,
      by simp, ⟨q, rfl, hnone⟩⟩
  | cons w ws ih =>
    intro q hopen hlen
    cases hn : q.next? now kinds with
    | none =>
      have hnone := next?_eq_none_iff.1 hn
      have hperf : (QueueCall.dequeue w kinds).perform now q = .ok (none, q) := by
        simp [perform, dequeue_of_next?_none hopen hn]
      have hzero : (q.tasks.filter (due now kinds)).length = 0 := by
        simpa [List.filter_eq_nil_iff, due_iff_ready] using hnone
      simpa [run_of_ok hperf] using ih q hopen (by omega)
    | some t =>
      obtain ⟨ht, hready, hleast⟩ := next?_least hn
      have hperf : (QueueCall.dequeue w kinds).perform now q =
          .ok (some (t.claimed now w), q.replace (t.claimed now w)) := by
        simp [perform, dequeue_of_next?_some hopen hn]
      have hfewer : ((q.replace (t.claimed now w)).tasks.filter (due now kinds)).length <
          (q.tasks.filter (due now kinds)).length := by
        rw [filter_due_replace (by simp), List.length_filter_lt_length_iff_exists]
        exact ⟨t, List.mem_filter.2 ⟨ht, due_iff_ready.2 hready⟩, by simp⟩
      have hrest := ih (q.replace (t.claimed now w)) hopen (by simp at hlen; omega)
      simpa [run_of_ok hperf] using hrest.cons ht hready hleast

end Drain

open TaskQueue in
/-- A queue hands out its tasks in rank order, each to one worker at a time. An open queue hands
out nothing exactly when no task is ready, and otherwise a ready task of the highest priority
and, among those, of the earliest schedule, marked running for the worker, changing no other
task. A run that fails no task under an id hands out a task under it at most once. Dequeueing at
one instant as often as tasks are ready hands out every ready task once, in rank order. -/
theorem dequeue_hands_out_best_ready_task_once (q : TaskQueue) (now : Instant) (kinds : List String)
    (worker : String) (hopen : q.closed = false) (hids : (q.tasks.map (·.id)).Nodup) :
    (q.dequeue now worker kinds = .ok (none, q) ↔ ∀ t ∈ q.tasks, ¬ Ready now kinds t) ∧
    (∀ u q', q.dequeue now worker kinds = .ok (some u, q') →
      ∃ t pre post, q.tasks = pre ++ t :: post ∧ Ready now kinds t ∧
        (∀ v ∈ q.tasks, Ready now kinds v →
          v.priority ≤ t.priority ∧ (v.priority = t.priority → t.scheduledAt.key ≤ v.scheduledAt.key)) ∧
        u = t.claimed now worker ∧ q'.tasks = pre ++ u :: post) ∧
    (∀ x calls, (∀ c ∈ calls, ¬ QueueCall.Rearms x c.2) → ((QueueCall.run calls q).1.map (·.id)).count x ≤ 1) ∧
    (∀ workers : List String, (q.tasks.filter fun t => Ready now kinds t).length ≤ workers.length →
      Drains now kinds q (QueueCall.run (workers.map fun w => (now, .dequeue w kinds)) q)) := by
  refine ⟨dequeue_eq_none_iff hopen, fun u q' h => ?_, fun x calls hcalls => run_count_le_one calls q hcalls,
    fun workers hlen => run_drains workers q hopen (by simpa using hlen)⟩
  obtain ⟨t, ht, hready, hleast, rfl, rfl⟩ := dequeue_some_least h
  obtain ⟨pre, post, hsplit⟩ := List.append_of_mem ht
  exact ⟨t, pre, post, hsplit, hready, fun v hv hr => Task.priority_le_of_rank_le (hleast v hv hr), rfl,
    replace_eq_of_nodup hids hsplit rfl⟩

/-- Two ready tasks, the later enqueued of higher priority, are handed out to two workers in
rank order. -/
theorem two_ready_tasks_drain_in_rank_order :
    let q : TaskQueue := { tasks := [{ id := "a", kind := "event", status := .pending },
      { id := "b", kind := "event", status := .pending, priority := 5 }] }
    q.closed = false ∧ (q.tasks.map (·.id)).Nodup ∧
      (q.tasks.filter fun t => TaskQueue.Ready .zero [] t).length ≤ ["w1", "w2"].length ∧
      Drains .zero [] q (QueueCall.run (["w1", "w2"].map fun w => (.zero, .dequeue w [])) q) :=
  ⟨rfl, by decide, by decide,
    (dequeue_hands_out_best_ready_task_once _ .zero [] "w1" rfl (by decide)).2.2.2 _ (by decide)⟩

end MediaTimeline

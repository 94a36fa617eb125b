import Mathlib
import MediaTimeline.Proofs.QueueRuns

/-! The wait of a failed task. -/

namespace MediaTimeline

theorem retryBackoff_pos (k : Int) : 0 < retryBackoff k := by
  unfold retryBackoff
  positivity

theorem retryBackoff_le (k : Int) : retryBackoff k ≤ 1024 * 1000000000 := by
  have hexp : (min k 10).toNat ≤ 10 := by omega
  calc retryBackoff k = 2 ^ (min k 10).toNat * 1000000000 := rfl
    _ ≤ 2 ^ 10 * 1000000000 := by gcongr; norm_num
    _ = 1024 * 1000000000 := by norm_num

namespace Task

def CountFits (n : Nat) (t : Task) : Prop := 0 ≤ t.attempts ∧ t.attempts + n < 2 ^ 63

theorem CountFits.mono {m n : Nat} {t : Task} (h : t.CountFits n) (hmn : m ≤ n) : t.CountFits m :=
  ⟨h.1, by have := h.2; omega⟩

end Task

namespace TaskQueue

variable {q q' : TaskQueue} {now : Instant} {id error : String} {r t : Task} {n : Nat}

theorem fail_eq_crash_iff (hg : q.get id = .ok r) :
    q.fail now id error = .error (.crash negativeShift) ↔
      nextAttempts r.attempts < r.maxRetries ∧ nextAttempts r.attempts < 0 := by
  simp only [fail, hg, Except.bind]
  by_cases hm : r.maxRetries ≤ nextAttempts r.attempts
  · simp [hm]
  · by_cases hneg : nextAttempts r.attempts < 0 <;> simp [hm, hneg, not_le.1 hm]

/-- Failing a task whose count is at zero or above, and below the largest 64-bit integer, is
answered: the task gets one attempt more, and is dead-lettered or pending again after a wait of
one to 1024 seconds. -/
theorem fail_of_count (now : Instant) (error : String) (hg : q.get id = .ok r) (h0 : 0 ≤ r.attempts)
    (h1 : r.attempts + 1 < 2 ^ 63) :
    ∃ t, q.fail now id error = .ok (q.replace t) ∧ t.id = id ∧ t.attempts = r.attempts + 1 ∧
      (t.status = .deadLetter ∨ t.status = .pending ∧
        ∃ d, 0 < d ∧ d ≤ 1024 * 1000000000 ∧ t.retryAfter = now.add d) := by
  have hnext : nextAttempts r.attempts = r.attempts + 1 := nextAttempts_of_lt (by omega) h1
  have hid := get_id hg
  by_cases hm : r.maxRetries ≤ r.attempts + 1
  · let t := { r with
      attempts := r.attempts + 1, lastError := error, updatedAt := now, worker := "",
      status := .deadLetter }
    exact ⟨t, by simp [fail, hg, Except.bind, hnext, hm, t], hid, rfl, .inl rfl⟩
  · have hneg : ¬ r.attempts + 1 < 0 := by omega
    let t := { r with
      attempts := r.attempts + 1, lastError := error, updatedAt := now, worker := "",
      retryAfter := now.add (retryBackoff (r.attempts + 1)), status := .pending }
    exact ⟨t, by simp [fail, hg, Except.bind, hnext, hm, hneg, t], hid, rfl,
      .inr ⟨rfl, _, retryBackoff_pos _, retryBackoff_le _, rfl⟩⟩

theorem get_eq_error {e : Fault} (h : q.get id = .error e) : e = .missing .task := by
  unfold get at h
  split at h <;> simp_all

/-! ### Counts along a run -/

def CountsFit (n : Nat) (q : TaskQueue) : Prop := ∀ t ∈ q.tasks, t.CountFits n

theorem CountsFit.mono {m : Nat} (h : q.CountsFit n) (hmn : m ≤ n) : q.CountsFit m :=
  fun t ht => (h t ht).mono hmn

theorem CountsFit.of_subset (h : q.CountsFit n) (hsub : ∀ u ∈ q'.tasks, u ∈ q.tasks) :
    q'.CountsFit n :=
  fun u hu => h u (hsub u hu)

theorem CountsFit.replace (h : q.CountsFit n) (ht : t.CountFits n) : (q.replace t).CountsFit n := by
  intro u hu
  by_cases hut : u.id = t.id
  · exact eq_of_mem_replace hu hut ▸ ht
  · exact h u (mem_of_mem_replace hu hut)

theorem CountsFit.replace_same (h : q.CountsFit n) (hr : r ∈ q.tasks) (ht : t.attempts = r.attempts) :
    (q.replace t).CountsFit n :=
  h.replace (by simpa [Task.CountFits, ht] using h r hr)

theorem CountsFit.enqueue (h : q.CountsFit n) (ht : t.CountFits n) {t' : Task}
    (he : q.enqueue now t = .ok (t', q')) : q'.CountsFit n := by
  have hfits : t'.CountFits n := by simpa [Task.CountFits, (enqueue_holds he).2.1] using ht
  rcases (enqueue_tasks he).1 with hrep | happ
  · exact fun u hu => h.replace hfits u (hrep ▸ hu)
  · intro u hu
    rw [happ, List.mem_append, List.mem_singleton] at hu
    rcases hu with hu | rfl
    · exact h u hu
    · exact hfits

theorem CountsFit.fail (h : q.CountsFit (n + 1)) (now : Instant) (id error : String) :
    q.fail now id error = .error (.missing .task) ∨
    ∃ q', q.fail now id error = .ok q' ∧ q'.CountsFit n := by
  cases hg : q.get id with
  | error e =>
    left
    simp [TaskQueue.fail, hg, Except.bind, get_eq_error hg]
  | ok r =>
    have hr := h r (get_mem hg)
    obtain ⟨t, hfail, -, hatt, -⟩ := fail_of_count now error hg hr.1 (by have := hr.2; omega)
    exact .inr ⟨_, hfail, (h.mono (Nat.le_succ n)).replace ⟨by have := hr.1; omega, by have := hr.2; omega⟩⟩

end TaskQueue

namespace QueueCall

open TaskQueue

variable {q : TaskQueue} {now : Instant} {n : Nat}

theorem perform_countsFit (now : Instant) {c : QueueCall} (h : q.CountsFit (n + 1))
    (hc : ∀ t, c = .enqueue t → t.CountFits (n + 1)) :
    ∃ handed q', c.perform now q = .ok (handed, q') ∧ q'.CountsFit n := by
  have hn : q.CountsFit n := h.mono (Nat.le_succ n)
  cases c with
  | enqueue t =>
    refine ⟨none, _, rfl, ?_⟩
    split
    · rename_i t' q₁ he
      exact hn.enqueue ((hc t rfl).mono (Nat.le_succ n)) he
    · exact hn
  | dequeue worker kinds =>
    rcases hd : q.dequeue now worker kinds with e | ⟨_ | u, q₁⟩
    · exact ⟨none, q, by simp [perform, hd], hn⟩
    · exact ⟨none, q₁, by simp [perform, hd], dequeue_none hd ▸ hn⟩
    · obtain ⟨t, ht, -, -, rfl, rfl⟩ := dequeue_some_least hd
      exact ⟨some (t.claimed now worker), q.replace (t.claimed now worker), by simp [perform, hd],
        hn.replace_same ht rfl⟩
  | complete id =>
    cases hr : q.complete now id with
    | error e => exact ⟨none, q, by simp [perform, hr, settle], hn⟩
    | ok q₁ =>
      obtain ⟨r, hmem, hq₁⟩ := complete_replace hr
      exact ⟨none, q₁, by simp [perform, hr, settle], by rw [hq₁]; exact hn.replace_same hmem rfl⟩
  | fail id error =>
    rcases h.fail now id error with hf | ⟨q₁, hf, hfit⟩
    · exact ⟨none, q, by simp [perform, hf, settle], hn⟩
    · exact ⟨none, q₁, by simp [perform, hf, settle], hfit⟩
  | cancel id =>
    cases hr : q.cancel now id with
    | error e => exact ⟨none, q, by simp [perform, hr, settle], hn⟩
    | ok q₁ =>
      obtain ⟨r, hmem, hq₁⟩ := cancel_replace hr
      exact ⟨none, q₁, by simp [perform, hr, settle], by rw [hq₁]; exact hn.replace_same hmem rfl⟩
  | heartbeat id worker =>
    cases hr : q.heartbeat now id worker with
    | error e => exact ⟨none, q, by simp [perform, hr, settle], hn⟩
    | ok q₁ =>
      obtain ⟨r, hmem, -, hq₁⟩ := heartbeat_replace hr
      exact ⟨none, q₁, by simp [perform, hr, settle], by rw [hq₁]; exact hn.replace_same hmem rfl⟩
  | get _ | list _ | stats => exact ⟨none, q, rfl, hn⟩
  | cleanup olderThan => exact ⟨none, _, rfl, hn.of_subset fun u hu => (List.mem_filter.1 hu).1⟩
  | close => exact ⟨none, _, rfl, hn⟩

theorem run_countsFit (calls : List (Instant × QueueCall)) : ∀ q : TaskQueue, q.CountsFit calls.length →
    (∀ now t, (now, QueueCall.enqueue t) ∈ calls → t.CountFits calls.length) →
    ∃ q', (QueueCall.run calls q).2 = .ok q' ∧ q'.CountsFit 0 := by
  induction calls with
  | nil => exact fun q h _ => ⟨q, rfl, h⟩
  | cons call calls ih =>
    obtain ⟨now, c⟩ := call
    intro q h henq
    have hc : ∀ t, c = .enqueue t → t.CountFits (calls.length + 1) := by
      rintro t rfl
      exact henq now t List.mem_cons_self
    obtain ⟨handed, q', hp, hfit⟩ := perform_countsFit now h hc
    rw [run_of_ok hp]
    exact ih q' hfit fun now' t ht =>
      (henq now' t (List.mem_cons_of_mem _ ht)).mono (Nat.le_succ _)

end QueueCall

open TaskQueue in
/-- No failure stops the program while every count starts at zero or above and the run is too
short to carry one past the largest 64-bit integer: such a run ends with every count still at
zero or above. And a failure of a task whose count is so is answered: the task is dead-lettered,
or pending again after a wait of more than nothing and at most 1024 seconds. -/
theorem failures_of_counted_tasks_never_stop_the_queue (calls : List (Instant × QueueCall))
    (q : TaskQueue) (hq : ∀ t ∈ q.tasks, 0 ≤ t.attempts ∧ t.attempts + calls.length < 2 ^ 63)
    (henq : ∀ now t, (now, QueueCall.enqueue t) ∈ calls →
      0 ≤ t.attempts ∧ t.attempts + calls.length < 2 ^ 63) :
    (∃ q', (QueueCall.run calls q).2 = .ok q' ∧ ∀ t ∈ q'.tasks, 0 ≤ t.attempts) ∧
    ∀ (p : TaskQueue) (now : Instant) (id error : String) (r : Task), p.get id = .ok r →
      0 ≤ r.attempts → r.attempts + 1 < 2 ^ 63 →
      ∃ t, p.fail now id error = .ok (p.replace t) ∧ t.id = id ∧
        (t.status = .deadLetter ∨
          t.status = .pending ∧ ∃ d, 0 < d ∧ d ≤ 1024 * 1000000000 ∧ t.retryAfter = now.add d) := by
  refine ⟨?_, fun p now id error r hg h0 h1 => ?_⟩
  · obtain ⟨q', hrun, hfit⟩ := QueueCall.run_countsFit calls q hq henq
    exact ⟨q', hrun, fun t ht => (hfit t ht).1⟩
  · obtain ⟨t, hfail, hid, -, hwait⟩ := fail_of_count now error hg h0 h1
    exact ⟨t, hfail, hid, hwait⟩

/-- A task enqueued with no count and then failed once leaves a queue whose counts are at zero or
above. -/
theorem fresh_task_failure_is_answered :
    (∀ t ∈ ({} : TaskQueue).tasks, 0 ≤ t.attempts ∧ t.attempts + 2 < 2 ^ 63) ∧
    (∀ now t, (now, QueueCall.enqueue t) ∈
        [(Instant.zero, QueueCall.enqueue { id := "t1", kind := "event" }), (.zero, .fail "t1" "boom")] →
      0 ≤ t.attempts ∧ t.attempts + 2 < 2 ^ 63) ∧
    ∃ q', (QueueCall.run [(.zero, .enqueue { id := "t1", kind := "event" }), (.zero, .fail "t1" "boom")]
      {}).2 = .ok q' ∧ ∀ t ∈ q'.tasks, 0 ≤ t.attempts := by
  have hq : ∀ t ∈ ({} : TaskQueue).tasks, 0 ≤ t.attempts ∧ t.attempts + 2 < 2 ^ 63 := by simp
  have henq : ∀ now t, (now, QueueCall.enqueue t) ∈
      [(Instant.zero, QueueCall.enqueue { id := "t1", kind := "event" }), (.zero, .fail "t1" "boom")] →
      0 ≤ t.attempts ∧ t.attempts + 2 < 2 ^ 63 := by
    intro now t ht
    simp only [List.mem_cons, Prod.mk.injEq, QueueCall.enqueue.injEq, reduceCtorEq, and_false,
      List.not_mem_nil, or_false] at ht
    obtain ⟨-, rfl⟩ := ht
    norm_num
  exact ⟨hq, henq, (failures_of_counted_tasks_never_stop_the_queue
    [(.zero, .enqueue { id := "t1", kind := "event" }), (.zero, .fail "t1" "boom")] {} hq henq).1⟩

/-- A task enqueued with a count of -5 stops the program at its first failure: the count becomes
-4, below the three retries the task gets by default, and the backoff shifts by it. -/
theorem negative_count_failure_stops_the_queue :
    (QueueCall.run [(.zero, .enqueue { id := "t1", kind := "event", attempts := -5 }),
      (.zero, .fail "t1" "boom")] {}).2 = .error negativeShift := by
  rfl

end MediaTimeline

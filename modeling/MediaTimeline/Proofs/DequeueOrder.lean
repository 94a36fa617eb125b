import Mathlib
import MediaTimeline.Proofs.QueueAgreement

/-! The order in which a queue hands out its tasks. -/

namespace MediaTimeline

namespace Instant

def key (t : Instant) : Int ×ₗ Nat := toLex (t.secs, t.nanos)

theorem before_iff_key_lt {a b : Instant} : a.before b = true ↔ a.key < b.key := by
  simp [before, key, Prod.Lex.toLex_lt_toLex]

theorem before_eq_false_iff {a b : Instant} : a.before b = false ↔ b.key ≤ a.key := by
  rw [← not_lt, ← before_iff_key_lt, Bool.not_eq_true]

end Instant

namespace Task

/-- The order tasks are handed out in: the highest priority first, then the earliest schedule. -/
def rank (t : Task) : Int ×ₗ (Int ×ₗ Nat) := toLex (-t.priority, t.scheduledAt.key)

theorem rank_le_iff {t u : Task} : t.rank ≤ u.rank ↔
    u.priority < t.priority ∨ (t.priority = u.priority ∧ t.scheduledAt.key ≤ u.scheduledAt.key) := by
  simp [rank, Prod.Lex.toLex_le_toLex]

theorem priority_le_of_rank_le {t u : Task} (h : t.rank ≤ u.rank) :
    u.priority ≤ t.priority ∧ (u.priority = t.priority → t.scheduledAt.key ≤ u.scheduledAt.key) := by
  rcases rank_le_iff.1 h with hlt | ⟨heq, hkey⟩
  · exact ⟨hlt.le, fun heq => absurd heq hlt.ne⟩
  · exact ⟨heq.ge, fun _ => hkey⟩

def claimed (t : Task) (now : Instant) (worker : String) : Task :=
  { t with status := .running, worker := worker, startedAt := some now, updatedAt := now }

@[simp] theorem claimed_id (t : Task) (now : Instant) (worker : String) :
    (t.claimed now worker).id = t.id := rfl

@[simp] theorem claimed_status (t : Task) (now : Instant) (worker : String) :
    (t.claimed now worker).status = .running := rfl

@[simp] theorem claimed_rank (t : Task) (now : Instant) (worker : String) :
    (t.claimed now worker).rank = t.rank := rfl

end Task

namespace TaskQueue

variable {q q' : TaskQueue} {now : Instant} {kinds : List String} {worker : String} {t u : Task}

theorem preferred_iff_rank_lt : preferred t u = true ↔ t.rank < u.rank := by
  simp only [preferred, Task.rank, Bool.or_eq_true, decide_eq_true_eq, Bool.and_eq_true, beq_iff_eq,
    Instant.before_iff_key_lt, Prod.Lex.toLex_lt_toLex, neg_lt_neg_iff, neg_inj]

/-- A task that a worker taking `kinds` may be handed at `now`: pending, its schedule reached,
not waiting out a retry, and of a kind the worker takes, any kind when it names none. -/
structure Ready (now : Instant) (kinds : List String) (t : Task) : Prop where
  pending : t.status = .pending
  scheduled : t.scheduledAt.key ≤ now.key
  retried : t.retryAfter.isZero = true ∨ t.retryAfter.key ≤ now.key
  kind : kinds = [] ∨ t.kind ∈ kinds

theorem due_iff_ready : due now kinds t = true ↔ Ready now kinds t := by
  have hready : Ready now kinds t ↔ t.status = .pending ∧ t.scheduledAt.key ≤ now.key ∧
      (t.retryAfter.isZero = true ∨ t.retryAfter.key ≤ now.key) ∧ (kinds = [] ∨ t.kind ∈ kinds) :=
    ⟨fun h => ⟨h.1, h.2, h.3, h.4⟩, fun h => ⟨h.1, h.2.1, h.2.2.1, h.2.2.2⟩⟩
  rw [hready]
  simp [due, Instant.before_eq_false_iff, List.isEmpty_iff, and_assoc]

instance (now : Instant) (kinds : List String) (t : Task) : Decidable (Ready now kinds t) :=
  decidable_of_iff _ due_iff_ready

@[simp] theorem decide_ready : decide (Ready now kinds t) = due now kinds t :=
  Bool.eq_iff_iff.2 (by simp [due_iff_ready])

/-! ### The pick -/

theorem foldl_pick_eq_none {l : List Task} {init : Option Task} :
    l.foldl (fun best t => match best with
      | none => some t
      | some b => if preferred t b then some t else some b) init = none ↔ l = [] ∧ init = none := by
  induction l generalizing init with
  | nil => simp
  | cons u l ih =>
    rw [List.foldl_cons, ih]
    cases init with
    | none => simp
    | some b => by_cases hp : preferred u b = true <;> simp [hp]

theorem foldl_pick_rank_le {l : List Task} {init : Option Task} {x : Task}
    (h : l.foldl (fun best t => match best with
      | none => some t
      | some b => if preferred t b then some t else some b) init = some x) :
    (∀ u ∈ l, x.rank ≤ u.rank) ∧ ∀ b, init = some b → x.rank ≤ b.rank := by
  induction l generalizing init with
  | nil =>
    rw [List.foldl_nil] at h
    exact ⟨by simp, fun b hb => by rw [h] at hb; cases hb; exact le_rfl⟩
  | cons u l ih =>
    obtain ⟨hl, hinit⟩ := ih h
    cases init with
    | none =>
      have hu := hinit u rfl
      exact ⟨fun v hv => (List.mem_cons.1 hv).elim (· ▸ hu) (hl v), by simp⟩
    | some b =>
      by_cases hp : preferred u b = true
      · have hu := hinit u (by simp [hp])
        have hub := preferred_iff_rank_lt.1 hp
        refine ⟨fun v hv => (List.mem_cons.1 hv).elim (· ▸ hu) (hl v), ?_⟩
        rintro b' ⟨⟩
        exact hu.trans hub.le
      · have hb := hinit b (by simp [hp])
        have hbu : b.rank ≤ u.rank := not_lt.1 (mt preferred_iff_rank_lt.2 hp)
        refine ⟨fun v hv => (List.mem_cons.1 hv).elim (· ▸ hb.trans hbu) (hl v), ?_⟩
        rintro b' ⟨⟩
        exact hb

theorem next?_eq_none_iff : q.next? now kinds = none ↔ ∀ t ∈ q.tasks, ¬ Ready now kinds t := by
  have hpick := @foldl_pick_eq_none (q.tasks.filter (due now kinds)) none
  exact hpick.trans (by simp [List.filter_eq_nil_iff, due_iff_ready])

theorem next?_least (h : q.next? now kinds = some t) :
    t ∈ q.tasks ∧ Ready now kinds t ∧ ∀ u ∈ q.tasks, Ready now kinds u → t.rank ≤ u.rank := by
  obtain ⟨hmem, hdue⟩ := next?_due h
  refine ⟨hmem, due_iff_ready.1 hdue, fun u hu hr => ?_⟩
  exact (foldl_pick_rank_le h).1 u (List.mem_filter.2 ⟨hu, due_iff_ready.2 hr⟩)

/-! ### Replacing a task -/

theorem mem_replace_of_ne (hu : u ∈ q.tasks) (hne : u.id ≠ t.id) : u ∈ (q.replace t).tasks :=
  List.mem_map.2 ⟨u, hu, by simp [hne]⟩

theorem mem_of_mem_replace (hu : u ∈ (q.replace t).tasks) (hne : u.id ≠ t.id) : u ∈ q.tasks := by
  obtain ⟨v, hv, rfl⟩ := List.mem_map.1 hu
  by_cases hvt : v.id = t.id
  · simp [hvt] at hne
  · simpa [hvt] using hv

theorem eq_of_mem_replace (hu : u ∈ (q.replace t).tasks) (hid : u.id = t.id) : u = t := by
  obtain ⟨v, -, rfl⟩ := List.mem_map.1 hu
  by_cases hvt : v.id = t.id
  · simp [hvt]
  · simp [hvt] at hid

theorem replace_eq_of_nodup {pre post : List Task} (hids : (q.tasks.map (·.id)).Nodup)
    (hq : q.tasks = pre ++ t :: post) (ht : u.id = t.id) : (q.replace u).tasks = pre ++ u :: post := by
  have hpre : ∀ v ∈ pre, v.id ≠ t.id := by
    rw [hq, List.map_append, List.map_cons] at hids
    exact fun v hv hvt => (List.nodup_append.1 hids).2.2 _ (List.mem_map_of_mem hv) _
      (List.mem_cons_self ..) hvt
  have hpost : ∀ v ∈ post, v.id ≠ t.id := by
    rw [hq, List.map_append, List.map_cons] at hids
    exact fun v hv hvt => (List.nodup_cons.1 (List.nodup_append.1 hids).2.1).1
      (hvt ▸ List.mem_map_of_mem hv)
  have hkeep : ∀ l : List Task, (∀ v ∈ l, v.id ≠ t.id) →
      l.map (fun v => if v.id == t.id then u else v) = l := fun l hl => by
    refine (List.map_congr_left fun v hv => ?_).trans (List.map_id' l)
    simp [hl v hv]
  simp only [replace, hq, ht, List.map_append, List.map_cons, beq_self_eq_true, if_true,
    hkeep pre hpre, hkeep post hpost]

/-! ### Dequeue -/

theorem dequeue_of_closed (h : q.closed = true) : q.dequeue now worker kinds = .error .queueClosed := by
  simp [dequeue, h]

theorem dequeue_of_next?_none (hopen : q.closed = false) (h : q.next? now kinds = none) :
    q.dequeue now worker kinds = .ok (none, q) := by
  simp [dequeue, hopen, h]

theorem dequeue_of_next?_some (hopen : q.closed = false) (h : q.next? now kinds = some t) :
    q.dequeue now worker kinds = .ok (some (t.claimed now worker), q.replace (t.claimed now worker)) := by
  simp [dequeue, hopen, h, Task.claimed]

theorem dequeue_eq_none_iff (hopen : q.closed = false) :
    q.dequeue now worker kinds = .ok (none, q) ↔ ∀ t ∈ q.tasks, ¬ Ready now kinds t := by
  rw [← next?_eq_none_iff]
  constructor
  · intro h
    cases hn : q.next? now kinds with
    | none => rfl
    | some t => simp [dequeue_of_next?_some hopen hn] at h
  · exact dequeue_of_next?_none hopen

/-- What a dequeue hands out: a ready task of least rank, marked running for the worker, which
the queue then holds in its place. -/
theorem dequeue_some_least (h : q.dequeue now worker kinds = .ok (some u, q')) :
    ∃ t ∈ q.tasks, Ready now kinds t ∧ (∀ v ∈ q.tasks, Ready now kinds v → t.rank ≤ v.rank) ∧
      u = t.claimed now worker ∧ q' = q.replace u := by
  cases hc : q.closed
  · cases hn : q.next? now kinds with
    | none => simp [dequeue_of_next?_none hc hn] at h
    | some t =>
      rw [dequeue_of_next?_some hc hn] at h
      simp only [Except.ok.injEq, Prod.mk.injEq, Option.some.injEq] at h
      obtain ⟨rfl, rfl⟩ := h
      obtain ⟨hmem, hready, hleast⟩ := next?_least hn
      exact ⟨t, hmem, hready, hleast, rfl, rfl⟩
  · simp [dequeue_of_closed hc] at h

end TaskQueue

end MediaTimeline

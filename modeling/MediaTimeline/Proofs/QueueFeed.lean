import Mathlib
import MediaTimeline.Proofs.QueueAgreement
import MediaTimeline.Proofs.ObjectDeletion

/-! What the steps of the service do to its task queue. -/

set_option mvcgen.warning false

namespace MediaTimeline

def hexDigits : List Char :=
  ['0', '1', '2', '3', '4', '5', '6', '7', '8', '9', 'a', 'b', 'c', 'd', 'e', 'f']

def hexNumber (cs : List Char) : Nat := cs.foldl (fun n c => 16 * n + hexDigits.idxOf c) 0

theorem idxOf_digitChar {d : Nat} (hd : d < 16) : hexDigits.idxOf (Nat.digitChar d) = d := by
  have h : ∀ d : Fin 16, hexDigits.idxOf (Nat.digitChar d) = d := by decide
  exact h ⟨d, hd⟩

theorem hexNumber_append_digit (cs : List Char) {d : Nat} (hd : d < 16) :
    hexNumber (cs ++ [Nat.digitChar d]) = 16 * hexNumber cs + d := by
  simp [hexNumber, List.foldl_append, idxOf_digitChar hd]

theorem hexNumber_toDigits (n : Nat) : hexNumber (Nat.toDigits 16 n) = n := by
  induction n using Nat.strong_induction_on with
  | _ n ih =>
    rw [Nat.toDigits_eq_if (by decide)]
    split_ifs with h
    · simpa [hexNumber] using hexNumber_append_digit [] h
    · rw [hexNumber_append_digit _ (Nat.mod_lt n (by decide)), ih (n / 16) (by omega)]
      omega

theorem hexNumber_zeros (k : Nat) (cs : List Char) :
    hexNumber (List.replicate k '0' ++ cs) = hexNumber cs := by
  have h0 : (List.replicate k '0').foldl (fun n c => 16 * n + hexDigits.idxOf c) 0 = 0 := by
    induction k with
    | zero => rfl
    | succ k ih => rw [List.replicate_succ', List.foldl_append, ih]; rfl
  rw [hexNumber, List.foldl_append, h0]
  rfl

theorem toList_hex12 (n : Nat) :
    (hex12 n).toList = List.replicate (12 - (Nat.toDigits 16 n).length) '0' ++ Nat.toDigits 16 n := by
  unfold hex12
  exact String.toList_ofList

theorem toList_generatedId (n : Nat) :
    (generatedId n).toList = ("00000000-0000-4000-8000-" : String).toList ++ (hex12 n).toList := by
  unfold generatedId
  exact String.toList_append

theorem hexNumber_generatedId (n : Nat) : hexNumber ((generatedId n).toList.drop 24) = n := by
  have hprefix : ("00000000-0000-4000-8000-" : String).toList.length = 24 := by simp
  rw [toList_generatedId, List.drop_left' hprefix, toList_hex12, hexNumber_zeros, hexNumber_toDigits]

theorem generatedId_injective : Function.Injective generatedId := by
  intro a b h
  rw [← hexNumber_generatedId a, ← hexNumber_generatedId b, h]

theorem generatedId_ne_empty (n : Nat) : generatedId n ≠ "" := by
  intro h
  have := congrArg (·.toList.length) h
  simp [toList_generatedId] at this

namespace TaskQueue

variable {q : TaskQueue} {n m : Nat} {t : Task} {id : String}

/-- The queue's tasks hold generated ids, numbered at most `issued`, and no two the same. -/
structure IdsIssued (q : TaskQueue) (issued : Nat) : Prop where
  nodup : (q.tasks.map (·.id)).Nodup
  generated : ∀ t ∈ q.tasks, ∃ k ≤ issued, t.id = generatedId k

def FreshId (q : TaskQueue) (issued : Nat) (id : String) : Prop :=
  (∃ k ≤ issued, id = generatedId k) ∧ ∀ t ∈ q.tasks, t.id ≠ id

theorem IdsIssued.mono (h : q.IdsIssued n) (hle : n ≤ m) : q.IdsIssued m where
  nodup := h.nodup
  generated t ht := by
    obtain ⟨k, hk, hid⟩ := h.generated t ht
    exact ⟨k, hk.trans hle, hid⟩

theorem IdsIssued.freshId (h : q.IdsIssued n) : q.FreshId (n + 1) (generatedId (n + 1)) := by
  refine ⟨⟨n + 1, le_rfl, rfl⟩, fun t ht he => ?_⟩
  obtain ⟨k, hk, hid⟩ := h.generated t ht
  have := generatedId_injective (hid.symm.trans he)
  omega

theorem IdsIssued.append (h : q.IdsIssued n) (hf : q.FreshId n t.id) :
    ({ q with tasks := q.tasks ++ [t] } : TaskQueue).IdsIssued n where
  nodup := by
    rw [List.map_append, List.nodup_append]
    refine ⟨h.nodup, List.nodup_singleton _, ?_⟩
    simp only [List.mem_map, List.map_cons, List.map_nil, List.mem_singleton]
    rintro _ ⟨u, hu, rfl⟩ _ rfl
    exact hf.2 u hu
  generated u hu := by
    rcases List.mem_append.1 hu with hu | hu
    · exact h.generated u hu
    · rw [List.mem_singleton.1 hu]
      exact hf.1

theorem enqueue_of_freshId (hopen : q.closed = false) (hf : q.FreshId n t.id) (now : Instant) :
    q.enqueue now t = .ok (t.admitted now t.id, { q with tasks := q.tasks ++ [t.admitted now t.id] }) := by
  obtain ⟨⟨k, -, hk⟩, hheld⟩ := hf
  exact enqueue_fresh hopen (hk ▸ generatedId_ne_empty k) hheld

end TaskQueue

/-- What the blob stores, the record of accepted tasks, the queue and the stored segments held at
some point: the mark later states are compared with. -/
structure Ledger where
  blobs : BlobStores
  accepted : List Task
  tasks : List Task
  segments : List Segment

def Service.ledger (s : Service) : Ledger := ⟨s.blobs, s.accepted, s.queue.tasks, s.store.segments⟩

@[simp] theorem Service.ledger_blobs (s : Service) : s.ledger.blobs = s.blobs := rfl
@[simp] theorem Service.ledger_accepted (s : Service) : s.ledger.accepted = s.accepted := rfl
@[simp] theorem Service.ledger_tasks (s : Service) : s.ledger.tasks = s.queue.tasks := rfl
@[simp] theorem Service.ledger_segments (s : Service) : s.ledger.segments = s.store.segments := rfl

namespace Ledger

variable {g : Ledger} {s s' : Service}

/-- Since the mark `g` the blob stores stayed as they were, and the queue holds the tasks it held
and after them exactly the tasks accepted since, each pending; its ids stay issued and distinct. -/
def Feeds (g : Ledger) (s : Service) : Prop :=
  s.blobs = g.blobs ∧ g.accepted <+: s.accepted ∧
    s.queue.tasks = g.tasks ++ s.accepted.drop g.accepted.length ∧
    (∀ t ∈ s.accepted.drop g.accepted.length, t.status = .pending) ∧
    s.queue.IdsIssued s.issued.length

theorem feeds_ledger (h : s.queue.IdsIssued s.issued.length) : s.ledger.Feeds s :=
  ⟨rfl, List.prefix_refl _, by simp, by simp, h⟩

theorem Feeds.ids (h : g.Feeds s) : s.queue.IdsIssued s.issued.length := h.2.2.2.2

theorem Feeds.trans (h : g.Feeds s) (h' : s.ledger.Feeds s') : g.Feeds s' := by
  obtain ⟨hb, ⟨x, hx⟩, hq, hpend, -⟩ := h
  obtain ⟨hb', ⟨y, hy⟩, hq', hpend', hids'⟩ := h'
  simp only [Service.ledger_blobs, Service.ledger_accepted, Service.ledger_tasks] at hb' hy hq' hpend'
  have hlen : s.accepted.length = g.accepted.length + x.length := by rw [← hx]; simp
  have hdrop : s'.accepted.drop g.accepted.length = x ++ y := by rw [← hy, ← hx]; simp
  have hx' : s.accepted.drop g.accepted.length = x := by rw [← hx]; simp
  have hy' : s'.accepted.drop s.accepted.length = y := by rw [← hy]; simp
  refine ⟨hb'.trans hb, ⟨x ++ y, by rw [← hy, ← hx, List.append_assoc]⟩, ?_, ?_, hids'⟩
  · rw [hq', hq, hdrop, hx', hy', List.append_assoc]
  · rw [hdrop]
    intro t ht
    rcases List.mem_append.1 ht with ht | ht
    · exact hpend t (hx' ▸ ht)
    · exact hpend' t (hy' ▸ ht)

theorem Feeds.issue (h : g.Feeds s) (use : IdUse) :
    g.Feeds { s with issued := s.issued ++ [(generatedId (s.issued.length + 1), use)] } ∧
      s.queue.FreshId (s.issued.length + 1) (generatedId (s.issued.length + 1)) := by
  obtain ⟨hb, hp, hq, hpend, hids⟩ := h
  refine ⟨⟨hb, hp, hq, hpend, ?_⟩, hids.freshId⟩
  simpa using hids.mono (Nat.le_succ _)

theorem Feeds.enqueue (h : g.Feeds s) {now : Instant} {t t' : Task} {q : TaskQueue}
    (hq : s.queue.enqueue now t = .ok (t', q)) (hf : s.queue.FreshId s.issued.length t.id)
    (hs : t.status = .other "") :
    g.Feeds { s with queue := q, accepted := s.accepted ++ [t'] } := by
  obtain ⟨hb, hp, hqs, hpend, hids⟩ := h
  have hopen : s.queue.closed = false := by
    cases hc : s.queue.closed
    · rfl
    · simp [TaskQueue.enqueue, hc] at hq
  rw [TaskQueue.enqueue_of_freshId hopen hf now] at hq
  simp only [Except.ok.injEq, Prod.mk.injEq] at hq
  obtain ⟨rfl, rfl⟩ := hq
  have hlen : g.accepted.length ≤ s.accepted.length := hp.length_le
  refine ⟨hb, hp.trans (List.prefix_append _ _), ?_, ?_, hids.append hf⟩
  · rw [List.drop_append_of_le_length hlen, hqs, List.append_assoc]
  · rw [List.drop_append_of_le_length hlen]
    intro u hu
    rcases List.mem_append.1 hu with hu | hu
    · exact hpend u hu
    · rw [List.mem_singleton.1 hu]
      simp [Task.admitted, hs]

end Ledger

namespace ServiceM

open Std.Do Service Ledger

variable (g : Ledger)

theorem now_feeds : ⦃fun s => ⌜g.Feeds s⌝⦄ now ⦃always g.Feeds⦄ := by
  mvcgen [now, -now_spec]

theorem instant_feeds : ⦃fun s => ⌜g.Feeds s⌝⦄ instant ⦃always g.Feeds⦄ := by
  have hnow := @now_feeds
  mvcgen [instant, -instant_spec, hnow, -now_spec]

theorem freshId_feeds (use : IdUse) :
    ⦃fun s => ⌜g.Feeds s⌝⦄ freshId use ⦃always g.Feeds⦄ := by
  mvcgen [freshId, -freshId_spec]
  simpa +zetaDelta using (‹g.Feeds _›.issue use).1

/-- A task without an id gets the next one issued; unless its kind is refused, the queue then
takes it at the instant read next. -/
theorem runOn_enqueue_new (t : Task) (hid : t.id = "") (s : Service) :
    (enqueue t).runOn s =
      let s₁ : Service := { s with issued := s.issued ++ [(generatedId (s.issued.length + 1), .task)] }
      if s.outages.enqueueKinds.contains t.kind then (.ok (.error (.outage "queue unavailable")), s₁)
      else match s.queue.enqueue (Instant.ofNanos (s.clock + 1))
          { t with id := generatedId (s.issued.length + 1) } with
        | .ok (t', q) => (.ok (.ok t'),
            { s₁ with clock := s.clock + 1, queue := q, accepted := s.accepted ++ [t'] })
        | .error e => (.ok (.error e), { s₁ with clock := s.clock + 1 }) := by
  have he : t.id.isEmpty = true := by simp [hid]
  simp only [enqueue, he, if_true, runOn_bind, freshId, runOn_modifyGet, runOn_pure, runOn_get,
    instant, now, outage]
  split
  · simp
  · simp only [runOn_bind, runOn_map, runOn_modifyGet, runOn_get]
    cases s.queue.enqueue (Instant.ofNanos (s.clock + 1))
      { t with id := generatedId (s.issued.length + 1) } with
    | ok r => simp only [bind_pure_comp, runOn_map, runOn_modify]
    | error e => simp only [runOn_throw]

theorem enqueue_feeds (t : Task) (hs : t.status = .other "") (hid : t.id = "") :
    ⦃fun s => ⌜g.Feeds s⌝⦄ enqueue t ⦃always g.Feeds⦄ := by
  refine triple_of_runOn fun s h => ?_
  obtain ⟨h₁, hf⟩ := h.issue .task
  rw [runOn_enqueue_new t hid s]
  by_cases hk : s.outages.enqueueKinds.contains t.kind = true
  · simpa only [hk, if_true] using h₁
  simp only [hk, Bool.false_eq_true, if_false]
  rcases hq : s.queue.enqueue (Instant.ofNanos (s.clock + 1))
      { t with id := generatedId (s.issued.length + 1) } with e | ⟨t', q⟩
  · exact h₁
  -- the id issued is fresh, so the task joins the queue's end
  let s₂ : Service := { s with issued := s.issued ++ [(generatedId (s.issued.length + 1), .task)] }
  have h₂ : g.Feeds { s₂ with clock := s.clock + 1 } := h₁
  exact h₂.enqueue hq (by simpa [s₂] using hf) hs

/-- A task given an id that the queue takes as new: unless its kind is refused, the queue takes it
at its end at the instant read next. -/
theorem runOn_enqueue_fresh {s : Service} (h : g.Feeds s) {t : Task}
    (hf : s.queue.FreshId s.issued.length t.id) (hs : t.status = .other "") :
    g.Feeds ((enqueue t).runOn s).2 := by
  have he : t.id.isEmpty = false := by
    obtain ⟨⟨k, -, hk⟩, -⟩ := hf
    simpa [hk] using generatedId_ne_empty k
  simp only [enqueue, he, Bool.false_eq_true, if_false, runOn_bind, runOn_pure, runOn_get, instant,
    now, outage]
  split
  · exact h
  simp only [runOn_bind, runOn_map, runOn_modifyGet, runOn_get]
  rcases hq : s.queue.enqueue (Instant.ofNanos (s.clock + 1)) t with e | ⟨t', q⟩
  · exact h
  have h₂ : g.Feeds { s with clock := s.clock + 1 } := h
  simpa [runOn_map] using h₂.enqueue hq hf hs

theorem always_of_runOn {α : Type} {m : ServiceM α} {P Q : Service → Prop}
    (h : ∀ s, P s → Q (m.runOn s).2) : ⦃fun s => ⌜P s⌝⦄ m ⦃always Q⦄ :=
  triple_of_runOn fun s hs => by
    have hq := h s hs
    rcases hm : m.runOn s with ⟨(c | (e | a)), s'⟩
    all_goals rw [hm] at hq; exact hq

theorem state_runOn_tryCatch_pure {α : Type} (m : ServiceM α) (a : α) (s : Service) :
    ((tryCatch m fun _ => pure a).runOn s).2 = (m.runOn s).2 := by
  rw [runOn_tryCatch]
  rcases m.runOn s with ⟨(c | (e | b)), s'⟩ <;> rfl

theorem state_runOn_discard' {α : Type} (m : ServiceM α) (s : Service) :
    ((Functor.discard m).runOn s).2 = (m.runOn s).2 := by
  rw [runOn_discard]
  rcases m.runOn s with ⟨(c | (e | a)), s'⟩ <;> rfl

theorem emit_feeds (name flow range : String) (count : Int) :
    ⦃fun s => ⌜g.Feeds s⌝⦄ emit name flow range count ⦃always g.Feeds⦄ := by
  refine always_of_runOn fun s h => ?_
  by_cases he : s.config.events
  · -- the event task is queued under the id issued for it, which is fresh
    obtain ⟨h₁, hf⟩ := h.issue .task
    simp only [emit, runOn_bind, runOn_get, he, Bool.not_true, Bool.false_eq_true, if_false, now,
      runOn_modifyGet, freshId, state_runOn_tryCatch_pure, state_runOn_discard']
    let s₃ : Service := { s with clock := s.clock + 1, raised := s.raised + 1,
                                 issued := s.issued ++ [(generatedId (s.issued.length + 1), .task)] }
    have h₃ : g.Feeds s₃ := h₁
    exact runOn_enqueue_fresh g h₃ (by simpa [s₃] using hf) rfl
  · simpa [emit, runOn_bind, he] using h

theorem query_feeds (q : SegmentQuery) : ⦃fun s => ⌜g.Feeds s⌝⦄ query q ⦃always g.Feeds⦄ := by
  mvcgen [query, -query_spec]

theorem deleteSegment_feeds (flow : String) (stop : Int) :
    ⦃fun s => ⌜g.Feeds s⌝⦄ deleteSegment flow stop ⦃always g.Feeds⦄ := by
  mvcgen [deleteSegment, -deleteSegment_spec, withStore]

theorem putSegment_feeds (seg : Segment) :
    ⦃fun s => ⌜g.Feeds s⌝⦄ putSegment seg ⦃always g.Feeds⦄ := by
  mvcgen [putSegment, -putSegment_spec]

theorem putRequest_feeds (r : DeleteRequest) :
    ⦃fun s => ⌜g.Feeds s⌝⦄ putRequest r ⦃always g.Feeds⦄ := by
  mvcgen [putRequest, -putRequest_spec]

theorem loadFlow_feeds (id : String) : ⦃fun s => ⌜g.Feeds s⌝⦄ loadFlow id ⦃always g.Feeds⦄ := by
  mvcgen [loadFlow, -loadFlow_spec]

theorem segmentsAdded_feeds (flow : String) (r : TimeRange) (count : Int) :
    ⦃fun s => ⌜g.Feeds s⌝⦄ segmentsAdded flow r count ⦃always g.Feeds⦄ := by
  have hemit := @emit_feeds
  mvcgen [segmentsAdded, -segmentsAdded_spec, hemit, -emit_spec]

theorem segmentsDeleted_feeds (flow : String) (r : TimeRange) (count : Int) :
    ⦃fun s => ⌜g.Feeds s⌝⦄ segmentsDeleted flow r count ⦃always g.Feeds⦄ := by
  have hemit := @emit_feeds
  mvcgen [segmentsDeleted, -segmentsDeleted_spec, hemit, -emit_spec]

theorem flowDeleted_feeds (flow : String) :
    ⦃fun s => ⌜g.Feeds s⌝⦄ flowDeleted flow ⦃always g.Feeds⦄ := by
  have hemit := @emit_feeds
  mvcgen [flowDeleted, -flowDeleted_spec, hemit, -emit_spec]

theorem dispatch_go_feeds (cfg : ServiceConfig) (total : Nat) (bs : List (List String)) (i : Nat) :
    ⦃fun s => ⌜g.Feeds s⌝⦄ dispatch.go cfg total bs i ⦃always g.Feeds⦄ := by
  induction bs generalizing i with
  | nil => mvcgen [dispatch.go, -dispatch_go_spec]
  | cons b rest ih =>
    have he := enqueue_feeds g
      { kind := objectCleanupTask, priority := 0, payload := (cleanupDoc b).render,
        maxRetries := cfg.cleanupRetries } rfl rfl
    mvcgen [dispatch.go, -dispatch_go_spec, ih, he, -enqueue_spec]

theorem dispatch_feeds (ids : List String) :
    ⦃fun s => ⌜g.Feeds s⌝⦄ dispatch ids ⦃always g.Feeds⦄ := by
  have hdispatch_go := @dispatch_go_feeds
  mvcgen [dispatch, -dispatch_spec, hdispatch_go, -dispatch_go_spec]

theorem scheduleContinuation_feeds (r : DeleteRequest) :
    ⦃fun s => ⌜g.Feeds s⌝⦄ scheduleContinuation r ⦃always g.Feeds⦄ := by
  have he := enqueue_feeds g
    { kind := deleteRequestTask, priority := 5, payload := (requestDoc r.id).render,
      maxRetries := 5, flow := r.flow } rfl rfl
  mvcgen [scheduleContinuation, -scheduleContinuation_spec, he, -enqueue_spec]

theorem submitRequest_feeds (flow : String) (r : TimeRange) (deleteFlow : Bool)
    (createdBy : String) :
    ⦃fun s => ⌜g.Feeds s⌝⦄ submitRequest flow r deleteFlow createdBy ⦃always g.Feeds⦄ := by
  have hinstant := @instant_feeds
  have hfreshId := @freshId_feeds
  have hputRequest := @putRequest_feeds
  have hscheduleContinuation := @scheduleContinuation_feeds
  mvcgen [submitRequest, -submitRequest_spec, hinstant, -instant_spec, hfreshId, -freshId_spec,
    hputRequest, -putRequest_spec, hscheduleContinuation, -scheduleContinuation_spec]

theorem exactEnd_feeds (flow : String) (bound : Int) :
    ⦃fun s => ⌜g.Feeds s⌝⦄ exactEnd flow bound ⦃always g.Feeds⦄ := by
  have hquery := @query_feeds
  mvcgen [exactEnd, -exactEnd_spec, hquery, -query_spec]

theorem plan_feeds (flow : String) (p : ListParams) :
    ⦃fun s => ⌜g.Feeds s⌝⦄ plan flow p ⦃always g.Feeds⦄ := by
  have hexactEnd := @exactEnd_feeds
  mvcgen [plan, -plan_spec, hexactEnd, -exactEnd_spec]

theorem hasSegments_feeds (flow : String) (r : TimeRange) :
    ⦃fun s => ⌜g.Feeds s⌝⦄ hasSegments flow r ⦃always g.Feeds⦄ := by
  have hplan := @plan_feeds
  have hquery := @query_feeds
  mvcgen [hasSegments, -hasSegments_spec, hplan, -plan_spec, hquery, -query_spec]

theorem insert_feeds (seg : Segment) : ⦃fun s => ⌜g.Feeds s⌝⦄ insert seg ⦃always g.Feeds⦄ := by
  have hquery := @query_feeds
  have hputSegment := @putSegment_feeds
  mvcgen [insert, -insert_spec, hquery, -query_spec, hputSegment, -putSegment_spec]

theorem remove_feeds (flow : String) (stop : Int) :
    ⦃fun s => ⌜g.Feeds s⌝⦄ remove flow stop ⦃always g.Feeds⦄ := by
  have hdeleteSegment := @deleteSegment_feeds
  mvcgen [remove, -remove_spec, hdeleteSegment, -deleteSegment_spec] with exact id

theorem list_feeds (flow : String) (p : ListParams) :
    ⦃fun s => ⌜g.Feeds s⌝⦄ list flow p ⦃always g.Feeds⦄ := by
  have hplan := @plan_feeds
  have hquery := @query_feeds
  mvcgen [list, hplan, -plan_spec, hquery, -query_spec]

theorem flowRange_feeds (flow : String) :
    ⦃fun s => ⌜g.Feeds s⌝⦄ flowRange flow ⦃always g.Feeds⦄ := by
  have hquery := @query_feeds
  mvcgen [flowRange, first?, hquery, -query_spec]

theorem removeContained_feeds (flow : String) (r : TimeRange) (page : List Segment) (n : Nat)
    (covered : TimeRange) :
    ⦃fun s => ⌜g.Feeds s⌝⦄ removeContained flow r page n covered ⦃always g.Feeds⦄ := by
  induction page generalizing n covered with
  | nil => mvcgen [removeContained, -removeContained_spec]
  | cons t rest ih =>
    have hremove := @remove_feeds
    mvcgen [removeContained, -removeContained_spec, ih, hremove, -remove_spec]

theorem removeObjectPages_feeds (flow object : String) (r : TimeRange) (fuel : Nat)
    (cursor : TimeRange) (n : Nat) (covered : TimeRange) :
    ⦃fun s => ⌜g.Feeds s⌝⦄ removeObjectPages flow object r fuel cursor n covered
    ⦃always g.Feeds⦄ := by
  induction fuel generalizing cursor n covered with
  | zero => mvcgen [removeObjectPages, -removeObjectPages_spec]
  | succ fuel ih =>
    have hplan := @plan_feeds
    have hquery := @query_feeds
    have hremoveContained := @removeContained_feeds
    mvcgen [removeObjectPages, -removeObjectPages_spec, ih, hplan, -plan_spec, hquery, -query_spec,
      hremoveContained, -removeContained_spec]

theorem removeBatch_feeds (flow : String) (items : List Segment) (n : Nat) (covered : TimeRange)
    (objs : List String) :
    ⦃fun s => ⌜g.Feeds s⌝⦄ removeBatch flow items n covered objs ⦃always g.Feeds⦄ := by
  induction items generalizing n covered objs with
  | nil => mvcgen [removeBatch, -removeBatch_spec]
  | cons t rest ih =>
    have hremove := @remove_feeds
    mvcgen [removeBatch, -removeBatch_spec, ih, hremove, -remove_spec]

theorem forgetFlow_feeds (id : String) :
    ⦃fun s => ⌜g.Feeds s⌝⦄ forgetFlow id ⦃always g.Feeds⦄ := by
  mvcgen [forgetFlow, -forgetFlow_spec]

theorem cachedFlow_feeds (id : String) :
    ⦃fun s => ⌜g.Feeds s⌝⦄ cachedFlow id ⦃always g.Feeds⦄ := by
  have hnow := @now_feeds
  have hloadFlow := @loadFlow_feeds
  mvcgen [cachedFlow, -cachedFlow_spec, hnow, -now_spec, hloadFlow, -loadFlow_spec]

theorem writableFlow_feeds (id : String) :
    ⦃fun s => ⌜g.Feeds s⌝⦄ writableFlow id ⦃always g.Feeds⦄ := by
  have hcachedFlow := @cachedFlow_feeds
  mvcgen [writableFlow, -writableFlow_spec, hcachedFlow, -cachedFlow_spec]

theorem touchFlow_feeds (id : String) :
    ⦃fun s => ⌜g.Feeds s⌝⦄ touchFlow id ⦃always g.Feeds⦄ := by
  have hinstant := @instant_feeds
  mvcgen [touchFlow, -touchFlow_spec, hinstant, -instant_spec, withStore]

theorem touch_feeds (flow : String) : ⦃fun s => ⌜g.Feeds s⌝⦄ touch flow ⦃always g.Feeds⦄ := by
  have htouchFlow := @touchFlow_feeds
  have hforgetFlow := @forgetFlow_feeds
  mvcgen [touch, -touch_spec, htouchFlow, -touchFlow_spec, hforgetFlow, -forgetFlow_spec]

theorem noteSegmentsDeleted_feeds (flow : String) (r : TimeRange) (count : Int) :
    ⦃fun s => ⌜g.Feeds s⌝⦄ noteSegmentsDeleted flow r count ⦃always g.Feeds⦄ := by
  have hforgetFlow := @forgetFlow_feeds
  have hsegmentsDeleted := @segmentsDeleted_feeds
  mvcgen [noteSegmentsDeleted, -noteSegmentsDeleted_spec, hforgetFlow, -forgetFlow_spec,
    hsegmentsDeleted, -segmentsDeleted_spec]

theorem noteFlowDeleted_feeds (flow : String) :
    ⦃fun s => ⌜g.Feeds s⌝⦄ noteFlowDeleted flow ⦃always g.Feeds⦄ := by
  have hforgetFlow := @forgetFlow_feeds
  have hflowDeleted := @flowDeleted_feeds
  mvcgen [noteFlowDeleted, -noteFlowDeleted_spec, hforgetFlow, -forgetFlow_spec, hflowDeleted,
    -flowDeleted_spec]

theorem deleteFlow_store_feeds (flow : String) :
    ⦃fun s => ⌜g.Feeds s⌝⦄ withStore (fun st => (st.deleteFlow flow).map ((), ·))
    ⦃always g.Feeds⦄ := by
  mvcgen [withStore]

theorem putFlow_feeds (f : Flow) : ⦃fun s => ⌜g.Feeds s⌝⦄ putFlow f ⦃always g.Feeds⦄ := by
  have hinstant := @instant_feeds
  have hloadFlow := @loadFlow_feeds
  have hforgetFlow := @forgetFlow_feeds
  mvcgen [putFlow, hinstant, -instant_spec, hloadFlow, -loadFlow_spec, hforgetFlow,
    -forgetFlow_spec]

theorem deleteObjectSegments_feeds (flow object : String) (r : TimeRange) :
    ⦃fun s => ⌜g.Feeds s⌝⦄ deleteObjectSegments flow object r ⦃always g.Feeds⦄ := by
  have hremoveObjectPages := @removeObjectPages_feeds
  have htouch := @touch_feeds
  have hsegmentsDeleted := @segmentsDeleted_feeds
  have hdispatch := @dispatch_feeds
  mvcgen [deleteObjectSegments, -deleteObjectSegments_spec, hremoveObjectPages,
    -removeObjectPages_spec, htouch, -touch_spec, hsegmentsDeleted, -segmentsDeleted_spec,
    hdispatch, -dispatch_spec]

theorem deleteSegments_feeds (flow : String) (range : Option TimeRange) (object createdBy : String) :
    ⦃fun s => ⌜g.Feeds s⌝⦄ deleteSegments flow range object createdBy ⦃always g.Feeds⦄ := by
  have hwritableFlow := @writableFlow_feeds
  have hdeleteObjectSegments := @deleteObjectSegments_feeds
  have hhasSegments := @hasSegments_feeds
  have hsubmitRequest := @submitRequest_feeds
  mvcgen [deleteSegments, -deleteSegments_spec, hwritableFlow, -writableFlow_spec,
    hdeleteObjectSegments, -deleteObjectSegments_spec, hhasSegments, -hasSegments_spec,
    hsubmitRequest, -submitRequest_spec]

theorem deleteFlow_feeds (flow createdBy : String) :
    ⦃fun s => ⌜g.Feeds s⌝⦄ deleteFlow flow createdBy ⦃always g.Feeds⦄ := by
  have hwritableFlow := @writableFlow_feeds
  have hhasSegments := @hasSegments_feeds
  have hsubmitRequest := @submitRequest_feeds
  have hdeleteFlow_store := @deleteFlow_store_feeds
  have hforgetFlow := @forgetFlow_feeds
  have hflowDeleted := @flowDeleted_feeds
  mvcgen [deleteFlow, hwritableFlow, -writableFlow_spec, hhasSegments, -hasSegments_spec,
    hsubmitRequest, -submitRequest_spec, hdeleteFlow_store, hforgetFlow, -forgetFlow_spec,
    hflowDeleted, -flowDeleted_spec]

theorem runBatch_feeds (flow : String) (toDelete cursor : TimeRange) :
    ⦃fun s => ⌜g.Feeds s⌝⦄ runBatch flow toDelete cursor ⦃always g.Feeds⦄ := by
  have hplan := @plan_feeds
  have hquery := @query_feeds
  have hremoveBatch := @removeBatch_feeds
  have htouchFlow := @touchFlow_feeds
  have hnoteSegmentsDeleted := @noteSegmentsDeleted_feeds
  have hdispatch := @dispatch_feeds
  mvcgen [runBatch, -runBatch_spec, hplan, -plan_spec, hquery, -query_spec, hremoveBatch,
    -removeBatch_spec, htouchFlow, -touchFlow_spec, hnoteSegmentsDeleted, -noteSegmentsDeleted_spec,
    hdispatch, -dispatch_spec]

theorem runBatches_feeds (req : DeleteRequest) (timeLeft : Nat → Int) (fuel : Nat)
    (cursor : TimeRange) (r : RunReport) :
    ⦃fun s => ⌜g.Feeds s⌝⦄ runBatches req timeLeft fuel cursor r ⦃always g.Feeds⦄ := by
  induction fuel generalizing cursor r with
  | zero => mvcgen [runBatches, -runBatches_spec]
  | succ fuel ih =>
    have hrunBatch := @runBatch_feeds
    mvcgen [runBatches, -runBatches_spec, ih, hrunBatch, -runBatch_spec]

theorem runRequest_feeds (req : DeleteRequest) (timeLeft : Nat → Int) :
    ⦃fun s => ⌜g.Feeds s⌝⦄ runRequest req timeLeft ⦃always g.Feeds⦄ := by
  have hputRequest := @putRequest_feeds
  have hinstant := @instant_feeds
  have hrunBatches := @runBatches_feeds
  have hdeleteFlow_store := @deleteFlow_store_feeds
  have hnoteFlowDeleted := @noteFlowDeleted_feeds
  have hscheduleContinuation := @scheduleContinuation_feeds
  mvcgen [runRequest, -runRequest_spec, hputRequest, -putRequest_spec, hinstant, -instant_spec,
    hrunBatches, -runBatches_spec, hdeleteFlow_store, hnoteFlowDeleted, -noteFlowDeleted_spec,
    hscheduleContinuation, -scheduleContinuation_spec]

theorem postSegment_feeds (flow : String) (seg : Segment) :
    ⦃fun s => ⌜g.Feeds s⌝⦄ postSegment flow seg ⦃always g.Feeds⦄ := by
  have hwritableFlow := @writableFlow_feeds
  have hinsert := @insert_feeds
  have htouch := @touch_feeds
  have hsegmentsAdded := @segmentsAdded_feeds
  mvcgen [postSegment, hwritableFlow, -writableFlow_spec, hinsert, -insert_spec, htouch,
    -touch_spec, hsegmentsAdded, -segmentsAdded_spec]

theorem listSegments_feeds (flow : String) (p : ListParams) :
    ⦃fun s => ⌜g.Feeds s⌝⦄ listSegments flow p ⦃always g.Feeds⦄ := by
  have hcachedFlow := @cachedFlow_feeds
  have hlist := @list_feeds
  mvcgen [listSegments, hcachedFlow, -cachedFlow_spec, hlist]

theorem flowTimerange_feeds (flow : String) :
    ⦃fun s => ⌜g.Feeds s⌝⦄ flowTimerange flow ⦃always g.Feeds⦄ := by
  have hcachedFlow := @cachedFlow_feeds
  have hflowRange := @flowRange_feeds
  mvcgen [flowTimerange, hcachedFlow, -cachedFlow_spec, hflowRange]

theorem appendStorageIds_feeds (flow : String) (r : TimeRange) (ids : List String) :
    ⦃fun s => ⌜g.Feeds s⌝⦄ appendStorageIds flow r ids ⦃always g.Feeds⦄ := by
  have hcachedFlow := @cachedFlow_feeds
  mvcgen [appendStorageIds, hcachedFlow, -cachedFlow_spec, withStore]

end ServiceM

namespace FlowCall

open Std.Do ServiceM Service Ledger

theorem run_feeds (g : Ledger) (c : FlowCall) :
    ⦃fun s => ⌜g.Feeds s⌝⦄ c.run ⦃always g.Feeds⦄ := by
  cases c with
  | putFlow f =>
    have hputFlow := @putFlow_feeds
    mvcgen [run, hputFlow]
  | getFlow id =>
    have hcachedFlow := @cachedFlow_feeds
    mvcgen [run, ServiceM.getFlow, hcachedFlow, -cachedFlow_spec]
  | postSegment flow seg =>
    have hpostSegment := @postSegment_feeds
    mvcgen [run, hpostSegment]
  | listSegments flow p =>
    have hlistSegments := @listSegments_feeds
    mvcgen [run, hlistSegments]
  | flowTimerange flow =>
    have hflowTimerange := @flowTimerange_feeds
    mvcgen [run, hflowTimerange]
  | appendStorageIds flow r ids =>
    have happendStorageIds := @appendStorageIds_feeds
    mvcgen [run, happendStorageIds]
  | deleteSegments flow range object createdBy =>
    have hdeleteSegments := @deleteSegments_feeds
    mvcgen [run, hdeleteSegments, -deleteSegments_spec]
  | deleteFlow flow createdBy =>
    have hdeleteFlow := @deleteFlow_feeds
    mvcgen [run, hdeleteFlow]
  | runRequest req timeLeft =>
    have hrunRequest := @runRequest_feeds
    mvcgen [run, hrunRequest, -runRequest_spec]

end FlowCall

end MediaTimeline

import Mathlib
import MediaTimeline.Proofs.FlowCache
import MediaTimeline.Proofs.Effects

/-! Submitting a deletion. -/

set_option mvcgen.warning false

namespace MediaTimeline

namespace TaskQueue

variable {q q' : TaskQueue} {t t' : Task} {now : Instant}

theorem get_replace (h : ∃ u ∈ q.tasks, u.id = t.id) : (q.replace t).get t.id = .ok t := by
  obtain ⟨u, hu, hid⟩ := h
  have hfind : (q.tasks.find? (·.id == t.id)).isSome := List.find?_isSome.2 ⟨u, hu, by simp [hid]⟩
  obtain ⟨v, hv⟩ := Option.isSome_iff_exists.1 hfind
  have hvid : v.id = t.id := by simpa using List.find?_some hv
  simp only [get, replace, List.find?_map]
  have hp : ((fun x : Task => x.id == t.id) ∘ fun u => if (u.id == t.id) = true then t else u) =
      (·.id == t.id) := by
    funext x
    by_cases hx : x.id = t.id <;> simp [hx]
  rw [hp, hv]
  simp [hvid]

theorem get_append (h : ∀ u ∈ q.tasks, u.id ≠ t.id) :
    ({ q with tasks := q.tasks ++ [t] } : TaskQueue).get t.id = .ok t := by
  have hnone : q.tasks.find? (·.id == t.id) = none :=
    List.find?_eq_none.2 fun u hu => by simpa using h u hu
  simp [get, List.find?_append, hnone]

@[simp] theorem enqueue_eq_error {e : Fault} :
    q.enqueue now t = .error e ↔ q.closed = true ∧ e = .queueClosed := by
  unfold enqueue
  by_cases hc : q.closed = true
  · simp [hc, eq_comm]
  · simp only [hc, Bool.false_eq_true, if_false, false_and, iff_false]
    generalize (if t.id.isEmpty = true then _ else _ : String × TaskQueue) = p
    obtain ⟨id, q₁⟩ := p
    dsimp only
    split <;> simp

theorem enqueue_eq_ok (h : q.enqueue now t = .ok (t', q')) :
    q'.get t'.id = .ok t' ∧ t'.kind = t.kind ∧ t'.payload = t.payload ∧
      (t.id ≠ "" → t'.id = t.id) ∧ (t.status = .other "" → t'.status = .pending) := by
  unfold enqueue at h
  split at h
  · cases h
  · generalize hp : (if t.id.isEmpty = true then _ else _ : String × TaskQueue) = p at h
    obtain ⟨id, q₁⟩ := p
    have hq : q₁.tasks = q.tasks ∧ (t.id ≠ "" → id = t.id) := by
      split at hp <;> (simp only [Prod.mk.injEq] at hp; obtain ⟨rfl, rfl⟩ := hp) <;>
        simp_all [String.isEmpty_iff]
    dsimp only at h
    split at h <;> (simp only [Except.ok.injEq, Prod.mk.injEq] at h; obtain ⟨rfl, rfl⟩ := h)
    · refine ⟨get_replace ?_, rfl, rfl, hq.2, fun hs => by simp [hs]⟩
      obtain ⟨u, hu, hid⟩ := List.any_eq_true.1 ‹_›
      exact ⟨u, hu, by simpa using hid⟩
    · refine ⟨get_append fun u hu he => ?_, rfl, rfl, hq.2, fun hs => by simp [hs]⟩
      have hno := List.any_eq_false.1 (Bool.eq_false_iff.2 ‹_›) u hu
      simp_all

end TaskQueue

namespace Store

variable {st st' : Store} {id : String}

@[simp] theorem deleteFlow_eq_ok :
    st.deleteFlow id = .ok st' ↔
      (∃ f, st.getFlow id = .ok f) ∧ st' = { st with flows := st.flows.filter (·.id != id) } := by
  simp only [deleteFlow, except_map_eq_ok]
  constructor
  · rintro ⟨f, hf, rfl⟩
    exact ⟨⟨f, hf⟩, rfl⟩
  · rintro ⟨⟨f, hf⟩, rfl⟩
    exact ⟨f, hf, rfl⟩

@[simp] theorem deleteFlow_eq_error {e : Fault} :
    st.deleteFlow id = .error e ↔ st.getFlow id = .error e := by
  simp [deleteFlow]

theorem getFlow_of_writableFlow {f : Flow} (h : st.writableFlow id = .ok f) :
    st.getFlow id = .ok f := by
  unfold writableFlow at h
  cases hg : st.getFlow id with
  | error e => simp [hg, bind, Except.bind] at h
  | ok g =>
    cases hr : g.readOnly <;> simp_all [bind, Except.bind]

variable {q : SegmentQuery}

end Store

namespace Service

def TakesRequests (s : Service) : Prop :=
  s.queue.closed = false ∧ deleteRequestTask ∉ s.outages.enqueueKinds

def Unsubmitted (s₀ s : Service) : Prop :=
  s.store.requests = s₀.store.requests ∧
    s.accepted.filter (·.kind == deleteRequestTask) =
      s₀.accepted.filter (·.kind == deleteRequestTask)

def Submitted (s₀ s : Service) (flow : String) (range : TimeRange) (deleteFlow : Bool)
    (r : DeleteRequest) : Prop :=
  r.flow = flow ∧ r.toDelete = range ∧ r.remaining = range ∧ r.deleteFlow = deleteFlow ∧
    r.status = .created ∧ s.store.requests = s₀.store.requests.filter (·.id != r.id) ++ [r] ∧
    ∃ t, s.accepted = s₀.accepted ++ [t] ∧ t.kind = deleteRequestTask ∧
      t.payload = (ServiceM.requestDoc r.id).render ∧ t.status = .pending ∧
      s.queue.get t.id = .ok t

/-- How a deletion that may go on as a request ends, from `s₀`: done with nothing submitted,
or answered with the request it submitted; a failure leaves no request written and no task
queued, and nothing crashes. -/
def SubmissionEnds (s₀ : Service) (flow : String) (range : TimeRange) (deleteFlow : Bool) :
    Except Crash (Except Fault DeleteOutcome) × Service → Prop
  | (.ok (.ok o), s) => (o.request = none ∧ s₀.Unsubmitted s) ∨
      ∃ r, o.request = some r ∧ s₀.Submitted s flow range deleteFlow r
  | (.ok (.error _), s) => s.store.requests = s₀.store.requests ∧ s.accepted = s₀.accepted
  | (.error _, _) => False

end Service

namespace ServiceM

open Std.Do Service

variable {α : Type}

theorem triple_of_runOn {m : ServiceM α} {P : Service → Prop}
    {Qa : α → Service → Prop} {Qe : Fault → Service → Prop} {Qc : Crash → Service → Prop}
    (h : ∀ s, P s → match m.runOn s with
      | (.ok (.ok a), s') => Qa a s'
      | (.ok (.error e), s') => Qe e s'
      | (.error c, s') => Qc c s') :
    ⦃fun s => ⌜P s⌝⦄ m ⦃post⟨fun a s => ⌜Qa a s⌝, fun e s => ⌜Qe e s⌝, fun c s => ⌜Qc c s⌝⟩⦄ := by
  intro s hs
  have hr := h s hs
  simp only [wp, PredTrans.pushExcept, PredTrans.pushArg]
  unfold runOn at hr
  rcases hm : (ExceptT.run m).run.run s with ⟨(c | (e | a)), s'⟩
  all_goals
    dsimp only [StateT.run, PredTrans.apply, Id.run] at hr hm ⊢
    rw [hm] at hr
    rw [hm]
    exact hr

abbrev calm (P : Service → Prop) : Post α :=
  post⟨fun _ s => ⌜P s⌝, fun _ s => ⌜P s⌝, fun _ _ => ⌜False⌝⟩

variable (s₀ : Service)

theorem writableFlow_calm (id : String) :
    ⦃fun s => ⌜s₀.Quiet s⌝⦄ writableFlow id ⦃calm s₀.Quiet⦄ := by
  mvcgen [writableFlow, -writableFlow_spec, cachedFlow, -cachedFlow_spec, now, -now_spec,
    loadFlow, -loadFlow_spec]

theorem query_calm (q : SegmentQuery) :
    ⦃fun s => ⌜s₀.Quiet s⌝⦄ query q ⦃calm s₀.Quiet⦄ := by
  mvcgen [query, -query_spec]

theorem exactEnd_calm (flow : String) (bound : Int) :
    ⦃fun s => ⌜s₀.Quiet s⌝⦄ exactEnd flow bound ⦃calm s₀.Quiet⦄ := by
  mvcgen [exactEnd, -exactEnd_spec, query_calm, -query_spec] with
    simp_all +zetaDelta [Service.Quiet]

theorem plan_calm (flow : String) (p : ListParams) :
    ⦃fun s => ⌜s₀.Quiet s⌝⦄ plan flow p ⦃calm s₀.Quiet⦄ := by
  mvcgen [plan, -plan_spec, exactEnd_calm, -exactEnd_spec] with
    simp_all +zetaDelta [Service.Quiet]

theorem hasSegments_calm (flow : String) (r : TimeRange) :
    ⦃fun s => ⌜s₀.Quiet s⌝⦄ hasSegments flow r ⦃calm s₀.Quiet⦄ := by
  mvcgen [hasSegments, -hasSegments_spec, plan_calm, -plan_spec, query_calm, -query_spec] with
    simp_all +zetaDelta [Service.Quiet]

/-- A task enqueued on a queue that takes its kind is accepted, last, and held under its id,
with its kind and payload, pending when its status was left unset; nothing else changes but the
ids and the clock. -/
theorem enqueue_accepts (t : Task) :
    ⦃fun s => ⌜s = s₀ ∧ s.queue.closed = false ∧ t.kind ∉ s.outages.enqueueKinds⌝⦄ enqueue t
    ⦃post⟨fun t' s => ⌜s.accepted = s₀.accepted ++ [t'] ∧ s.queue.get t'.id = .ok t' ∧
        t'.kind = t.kind ∧ t'.payload = t.payload ∧ (t.status = .other "" → t'.status = .pending) ∧
        s.store = s₀.store ∧ s.outages = s₀.outages ∧ s.config = s₀.config ∧
        s.queue.closed = false⌝,
      fun _ _ => ⌜False⌝, fun _ _ => ⌜False⌝⟩⦄ := by
  intro s hs
  obtain ⟨rfl, hq, hk⟩ := hs
  mvcgen [enqueue, -enqueue_spec, freshId, -freshId_spec, instant, -instant_spec, now, -now_spec]
  all_goals simp_all +zetaDelta
  all_goals
    obtain ⟨hget, hkind, hpay, -, hst⟩ := TaskQueue.enqueue_eq_ok ‹_›
    simp_all [TaskQueue.enqueue_closed ‹_›]

theorem submitRequest_submits (flow : String) (r : TimeRange) (deleteFlow : Bool)
    (createdBy : String) :
    ⦃fun s => ⌜s = s₀ ∧ s.TakesRequests⌝⦄ submitRequest flow r deleteFlow createdBy
    ⦃post⟨fun req s => ⌜s₀.Submitted s flow r deleteFlow req⌝,
      fun _ s => ⌜s.store.requests = s₀.store.requests ∧ s.accepted = s₀.accepted⌝,
      fun _ _ => ⌜False⌝⟩⦄ := by
  intro s hs
  obtain ⟨rfl, hs⟩ := hs
  have henqueue := @enqueue_accepts
  mvcgen [submitRequest, -submitRequest_spec, instant, -instant_spec, now, -now_spec, freshId,
    -freshId_spec, putRequest, -putRequest_spec, scheduleContinuation, -scheduleContinuation_spec,
    henqueue, -enqueue_spec]
  all_goals clear henqueue
  all_goals simp_all +zetaDelta [TakesRequests, Submitted, Store.putRequest]

abbrev ends {α : Type} (E : Except Crash (Except Fault α) × Service → Prop) : Post α :=
  post⟨fun a s => ⌜E (.ok (.ok a), s)⌝, fun e s => ⌜E (.ok (.error e), s)⌝,
    fun c s => ⌜E (.error c, s)⌝⟩

theorem runOn_ends {m : ServiceM α} {P : Service → Prop}
    {E : Except Crash (Except Fault α) × Service → Prop} (h : ⦃fun s => ⌜P s⌝⦄ m ⦃ends E⦄)
    (s : Service) (hs : P s) : E (m.runOn s) := by
  have hr := runOn_of_triple h s hs
  rcases hrun : m.runOn s with ⟨(c | (e | a)), s'⟩
  all_goals rw [hrun] at hr
  all_goals exact hr

theorem runOn_returns {m : ServiceM α} {P : Service → Prop} {Q : α → Service → Prop}
    (h : ⦃fun s => ⌜P s⌝⦄ m ⦃post⟨fun a s => ⌜Q a s⌝, fun _ _ => ⌜False⌝, fun _ _ => ⌜False⌝⟩⦄)
    (s : Service) (hs : P s) : ∃ a s', m.runOn s = (.ok (.ok a), s') ∧ Q a s' := by
  have hr := runOn_of_triple h s hs
  rcases hrun : m.runOn s with ⟨(c | (e | a)), s'⟩
  all_goals rw [hrun] at hr
  · exact hr.elim
  · exact hr.elim
  · exact ⟨a, s', rfl, hr⟩

theorem deleteSegments_submission (flow : String) (range : Option TimeRange)
    (createdBy : String) :
    ⦃fun s => ⌜s = s₀ ∧ s.TakesRequests⌝⦄ deleteSegments flow range "" createdBy
    ⦃ends (s₀.SubmissionEnds flow (range.getD TimeRange.eternity) false)⦄ := by
  intro s hs
  obtain ⟨rfl, hs⟩ := hs
  have hwritableFlow := @writableFlow_calm
  have hhasSegments := @hasSegments_calm
  have hsubmitRequest := @submitRequest_submits
  mvcgen [deleteSegments, -deleteSegments_spec, hwritableFlow, -writableFlow_spec, hhasSegments,
    -hasSegments_spec, hsubmitRequest, -submitRequest_spec]
  all_goals clear hwritableFlow hhasSegments hsubmitRequest
  all_goals simp_all +zetaDelta [Service.Quiet, Outages.settings, SubmissionEnds, Unsubmitted,
    Submitted, TakesRequests]

theorem enqueue_other (t : Task) :
    ⦃fun s => ⌜s = s₀ ∧ t.kind ≠ deleteRequestTask⌝⦄ enqueue t
    ⦃calm fun s => s.store = s₀.store ∧ s₀.Unsubmitted s⦄ := by
  intro s hs
  obtain ⟨rfl, hk⟩ := hs
  mvcgen [enqueue, -enqueue_spec, freshId, -freshId_spec, instant, -instant_spec, now, -now_spec]
  all_goals simp_all +zetaDelta [Unsubmitted]
  all_goals
    obtain ⟨-, hkind, -⟩ := TaskQueue.enqueue_eq_ok ‹_›
    simp_all

theorem emit_other (name flow range : String) (count : Int) :
    ⦃fun s => ⌜s = s₀⌝⦄ emit name flow range count
    ⦃post⟨fun _ s => ⌜s.store = s₀.store ∧ s₀.Unsubmitted s⌝, fun _ _ => ⌜False⌝,
      fun _ _ => ⌜False⌝⟩⦄ := by
  have henqueue := @enqueue_other
  mvcgen [emit, -emit_spec, henqueue, -enqueue_spec, freshId, -freshId_spec, now, -now_spec]
  all_goals clear henqueue
  all_goals simp_all +zetaDelta [Unsubmitted, eventTask, deleteRequestTask]

theorem deleteFlow_submission (flow createdBy : String) :
    ⦃fun s => ⌜s = s₀ ∧ s.TakesRequests⌝⦄ deleteFlow flow createdBy
    ⦃ends (s₀.SubmissionEnds flow TimeRange.eternity true)⦄ := by
  intro s hs
  obtain ⟨rfl, hs⟩ := hs
  have hwritableFlow := @writableFlow_calm
  have hhasSegments := @hasSegments_calm
  have hsubmitRequest := @submitRequest_submits
  have hemit := @emit_other
  mvcgen [deleteFlow, hwritableFlow, -writableFlow_spec, hhasSegments, -hasSegments_spec,
    hsubmitRequest, -submitRequest_spec, withStore, forgetFlow, -forgetFlow_spec, flowDeleted,
    -flowDeleted_spec, hemit, -emit_spec]
  all_goals clear hwritableFlow hhasSegments hsubmitRequest hemit
  all_goals simp_all +zetaDelta [Service.Quiet, Outages.settings, SubmissionEnds, Unsubmitted,
    Submitted, TakesRequests]

theorem writableFlow_table (id : String) :
    ⦃fun s => ⌜s = s₀ ∧ s.FlowsCached ∧ s.outages.getFlow = false⌝⦄ writableFlow id
    ⦃post⟨fun f s => ⌜s₀.store.writableFlow id = .ok f ∧ s₀.Quiet s⌝,
      fun e s => ⌜s₀.store.writableFlow id = .error e ∧ s₀.Quiet s⌝, fun _ _ => ⌜False⌝⟩⦄ := by
  refine triple_of_runOn fun s hs => ?_
  obtain ⟨rfl, hc, hg⟩ := hs
  have hread := (runOn_writableFlow_of_cached hc id).2 hg
  have hquiet := runOn_of_triple (writableFlow_calm s id) s ⟨rfl, rfl, rfl, rfl, rfl⟩
  rcases hrun : (writableFlow id).runOn s with ⟨(c | (e | f)), s'⟩
  all_goals rw [hrun] at hread hquiet
  · exact hquiet
  · exact ⟨(Except.ok.inj hread).symm, hquiet⟩
  · exact ⟨(Except.ok.inj hread).symm, hquiet⟩

theorem hasSegments_eternity (flow : String) :
    ⦃fun s => ⌜s = s₀ ∧ s.outages.queryAfter = none⌝⦄ hasSegments flow TimeRange.eternity
    ⦃post⟨fun b s => ⌜((∀ seg ∈ s₀.store.segments, seg.flow ≠ flow) → b = false) ∧ s₀.Quiet s⌝,
      fun _ _ => ⌜False⌝, fun _ _ => ⌜False⌝⟩⦄ := by
  intro s hs
  obtain ⟨rfl, hq⟩ := hs
  mvcgen [hasSegments, -hasSegments_spec, plan, -plan_spec, query, -query_spec]
  all_goals simp_all +zetaDelta [Service.Quiet, Outages.settings, countCall]
  intro hn
  exact Store.query_eq_nil fun seg hs => by simp [SegmentQuery.selects, hn seg hs]

theorem deleteFlow_unused (flow createdBy : String) :
    ⦃fun s => ⌜s = s₀ ∧ s.FlowsCached ∧ s.outages.getFlow = false ∧ s.outages.queryAfter = none ∧
      (∃ f, s.store.writableFlow flow = .ok f) ∧ ∀ seg ∈ s.store.segments, seg.flow ≠ flow⌝⦄
    deleteFlow flow createdBy
    ⦃post⟨fun o s => ⌜o.request = none ∧ o.deleted = 0 ∧
        s.store = { s₀.store with flows := s₀.store.flows.filter (·.id != flow) }⌝,
      fun _ _ => ⌜False⌝, fun _ _ => ⌜False⌝⟩⦄ := by
  intro s hs
  obtain ⟨rfl, hc, hg, hq, ⟨f, hw⟩, hn⟩ := hs
  have hget := Store.getFlow_of_writableFlow hw
  have hwritableFlow := @writableFlow_table
  have hhasSegments := @hasSegments_eternity
  have hemit := @emit_other
  mvcgen [deleteFlow, hwritableFlow, -writableFlow_spec, hhasSegments, -hasSegments_spec, withStore,
    forgetFlow, -forgetFlow_spec, flowDeleted, -flowDeleted_spec, hemit, -emit_spec]
  all_goals clear hwritableFlow hhasSegments hemit
  all_goals simp_all +zetaDelta [Service.Quiet, Outages.settings]

/-- A delete of segments with no object named, or of a flow, on a queue that takes the tasks that
run delete requests: either done at once with no request written and no such task queued, or
answered with a request persisted as created, its remainder the whole range, and one pending task
queued that runs it; or failed with no request written and no task queued. A flow that takes
changes and holds no segment, with the flow table and queries up and the cache agreeing with the
table, is deleted at once, and the store loses the flow record and nothing else. -/
theorem delete_submission_is_all_or_nothing (s : Service) (flow createdBy : String)
    (range : Option TimeRange) :
    (s.TakesRequests →
      s.SubmissionEnds flow (range.getD TimeRange.eternity) false
          ((deleteSegments flow range "" createdBy).runOn s) ∧
        s.SubmissionEnds flow TimeRange.eternity true ((deleteFlow flow createdBy).runOn s)) ∧
    (s.FlowsCached → s.outages.getFlow = false → s.outages.queryAfter = none →
      (∃ f, s.store.writableFlow flow = .ok f) → (∀ seg ∈ s.store.segments, seg.flow ≠ flow) →
      ∃ o s', (deleteFlow flow createdBy).runOn s = (.ok (.ok o), s') ∧ o.request = none ∧
        o.deleted = 0 ∧
        s'.store = { s.store with flows := s.store.flows.filter (·.id != flow) }) := by
  refine ⟨fun hs => ⟨?_, ?_⟩, fun hc hg hq hw hn => ?_⟩
  · exact runOn_ends (deleteSegments_submission s flow range createdBy) s ⟨rfl, hs⟩
  · exact runOn_ends (deleteFlow_submission s flow createdBy) s ⟨rfl, hs⟩
  · exact runOn_returns (deleteFlow_unused s flow createdBy) s ⟨rfl, hc, hg, hq, hw, hn⟩

theorem delete_submission_is_all_or_nothing_lone_flow :
    let s : Service := { store := { flows := [{ id := "f" }] } }
    s.TakesRequests ∧ ∃ o s', (deleteFlow "f" "").runOn s = (.ok (.ok o), s') ∧
      o.request = none ∧ o.deleted = 0 ∧ s'.store = { s.store with flows := [] } := by
  intro s
  have hs : s.TakesRequests := ⟨rfl, List.not_mem_nil⟩
  refine ⟨hs, ?_⟩
  have h := (delete_submission_is_all_or_nothing s "f" "" none).2 (fun _ _ he => by cases he) rfl
    rfl ⟨{ id := "f" }, rfl⟩ (by simp [s])
  simpa [s] using h

/-- A delete whose request task the queue refuses fails, yet leaves its request written as
created, with no task queued to run it. -/
theorem refused_request_task_orphans_request :
    let seg : Segment := ⟨"f", "o1", ⟨some ⟨⟨0⟩, true⟩, some ⟨⟨1000000000⟩, false⟩⟩, "", "",
      none, none, none, [], 0, 999999999⟩
    let s : Service :=
      { store := { segments := [seg], byObject := [seg], flows := [{ id := "f" }] },
        outages := { enqueueKinds := [deleteRequestTask] } }
    ∃ e s' r, (deleteSegments "f" none "" "").runOn s = (.ok (.error e), s') ∧
      s'.store.requests = [r] ∧ r.status = .created ∧ s'.accepted = [] := by
  intro seg s
  have hleft : (let r := (deleteSegments "f" none "" "").runOn s
      r.1.toOption.map Except.toBool == some false && r.2.store.requests.length == 1 &&
        r.2.store.requests.all (·.status == .created) && r.2.accepted.isEmpty) = true := by
    decide +kernel
  rcases hrun : (deleteSegments "f" none "" "").runOn s with ⟨(c | (e | o)), s'⟩
  all_goals rw [hrun] at hleft
  · cases hleft
  · obtain ⟨r, hr⟩ : ∃ r, s'.store.requests = [r] := by
      simp only [Bool.and_eq_true, beq_iff_eq, List.length_eq_one_iff] at hleft
      exact hleft.1.1.2
    simp_all
  · cases hleft

end ServiceM

end MediaTimeline

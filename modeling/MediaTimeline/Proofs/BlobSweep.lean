import Mathlib
import MediaTimeline.Proofs.CleanupTasks

/-! Deletions hand what they drop to cleanup. -/

set_option mvcgen.warning false

namespace MediaTimeline

/-- No call that a run of the service or of its workers makes is set to fail, and the store and the
queue are well formed. -/
structure Service.Steady (s : Service) : Prop where
  indexed : s.Indexed
  queries : s.outages.queryAfter = none
  deletes : s.outages.deleteAfter = none
  requests : s.outages.putRequestAfter = none
  tasks : s.TakesTasks
  counts : s.outages.countReferences = false
  queueCalls : s.outages.queueCalls = []
  ids : s.queue.IdsIssued s.issued.length

def Service.Fits (s : Service) : Prop :=
  (Cleanup.arraySize (s.store.segments.map (·.object)) : Int) +
    max (s.config.maxMessageSize - ServiceM.cleanupEnvelope) 1 ≤ 2 ^ 63

namespace Service

variable {s s' : Service}

theorem Steady.calm (h : s.Steady) (hf : s.Fits) : s.Calm :=
  ⟨h.indexed, h.queries, h.deletes, h.requests, h.tasks, hf⟩

theorem Steady.of_settled (h : s.Steady) (hs : s.Settled s') (hi : s'.Indexed)
    (hids : s'.queue.IdsIssued s'.issued.length) : s'.Steady where
  indexed := hi
  queries := (congrArg Outages.queryAfter hs.2.1).trans h.queries
  deletes := (congrArg Outages.deleteAfter hs.2.1).trans h.deletes
  requests := (congrArg Outages.putRequestAfter hs.2.1).trans h.requests
  tasks := h.tasks.of_settled hs
  counts := (congrArg Outages.countReferences hs.2.1).trans h.counts
  queueCalls := (congrArg Outages.queueCalls hs.2.1).trans h.queueCalls
  ids := hids

theorem Fits.of_sublist (h : s.Fits) (hc : s'.config = s.config)
    (hsub : (s'.store.segments.map (·.object)).Sublist (s.store.segments.map (·.object))) :
    s'.Fits := by
  unfold Fits
  rw [hc]
  exact le_trans (by simpa using Cleanup.arraySize_le hsub) h

end Service

namespace Ledger

variable {g : Ledger} {s s' : Service}

/-- From the mark `g` on, the service swept: it fed the queue, the objects of the stored segments
are drawn from those of `g`, the state is steady and fits, and every object accounted for in `g`
still is. -/
structure Sweeps (g : Ledger) (s : Service) : Prop where
  feeds : g.Feeds s
  objects : (s.store.segments.map (·.object)).Sublist (g.segments.map (·.object))
  steady : s.Steady
  fits : s.Fits
  accounted : ∀ o, g.Accounted o → s.ledger.Accounted o

theorem sweeps_ledger (h : s.Steady) (hf : s.Fits) : s.ledger.Sweeps s :=
  ⟨feeds_ledger h.ids, List.Sublist.refl _, h, hf, fun _ => id⟩

theorem Sweeps.trans (h : g.Sweeps s) (h' : s.ledger.Sweeps s') : g.Sweeps s' :=
  ⟨h.feeds.trans h'.feeds, h'.objects.trans h.objects, h'.steady, h'.fits,
    fun o ho => h'.accounted o (h.accounted o ho)⟩

theorem Sweeps.of_bookkept (hs : s.Steady) (hf : s.Fits) (hb : s.Bookkept s')
    (hfeed : s.ledger.Feeds s') : s.ledger.Sweeps s' where
  feeds := hfeed
  objects := by rw [hb.1]; rfl
  steady := hs.of_settled hb.2 (by rw [Service.Indexed, hb.1]; exact hs.indexed) hfeed.ids
  fits := hf.of_sublist hb.2.1 (by rw [hb.1])
  accounted _ := hfeed.accounted_of_objects fun seg h => ⟨seg, hb.1 ▸ h, rfl⟩

theorem Sweeps.of_dropped (hs : s.Steady) (hf : s.Fits) (hset : s.Settled s')
    (hsub : s'.store.segments.Sublist s.store.segments) (hfeed : s.ledger.Feeds s')
    (hgone : ∀ seg ∈ s.store.segments, seg ∉ s'.store.segments → s.Handed s' seg.object) :
    s.ledger.Sweeps s' where
  feeds := hfeed
  objects := hsub.map _
  steady := hs.of_settled hset (Store.Indexed.sublist hs.indexed hsub) hfeed.ids
  fits := hf.of_sublist hset.1 (hsub.map _)
  accounted _ := hfeed.accounted fun seg h => by
    by_cases hk : seg ∈ s'.store.segments
    · exact .inl ⟨seg, hk, rfl⟩
    · exact .inr (hgone seg h hk)

theorem Sweeps.appendStorageIds {st : Store} {flow : String} {stop : Int} {ids : List String}
    (h : g.Sweeps s) (ha : s.store.appendStorageIds flow stop ids = .ok st) :
    g.Sweeps { s with store := st } := by
  have hseg := Store.appendStorageIds_eq_ok ha
  have hkeep : ∀ x : Segment,
      (if x.key == ⟨flow, stop⟩ then { x with storageIds := Store.addNew x.storageIds ids } else x).object =
        x.object := fun x => by split <;> rfl
  have hobj : st.segments.map (·.object) = s.store.segments.map (·.object) := by
    rw [hseg, List.map_map]
    exact List.map_congr_left fun x _ => hkeep x
  refine h.trans ⟨feeds_ledger h.steady.ids, by dsimp only; rw [hobj]; rfl,
    h.steady.of_settled ⟨rfl, rfl, rfl⟩ (Store.Indexed.appendStorageIds h.steady.indexed ha)
      h.steady.ids, h.fits.of_sublist rfl (by dsimp only; rw [hobj]), fun o => ?_⟩
  have hfeed : s.ledger.Feeds { s with store := st } := feeds_ledger h.steady.ids
  refine hfeed.accounted_of_objects (fun x hx => ?_)
  exact ⟨_, by dsimp only; rw [hseg]; exact List.mem_map_of_mem hx, hkeep x⟩

end Ledger

namespace Service

variable {s s' : Service} {cap : Int} {items : List Segment} {seg : Segment}

/-- A batch's objects queued for cleanup: each removed item's object is listed by a cleanup task
accepted on the way, once the array of the objects fits. -/
theorem Queued.handed (hq : s.Queued s' (ServiceM.cleanupBatches cap items)) (hcap : 0 < cap)
    (hfit : (Cleanup.arraySize (items.map (·.object)) : Int) + cap ≤ 2 ^ 63) (hseg : seg ∈ items) :
    s.Handed s' seg.object := by
  have hfit' : (Cleanup.arraySize (Store.addNew [] (items.map (·.object))) : Int) + cap ≤ 2 ^ 63 :=
    le_trans (by simpa using Cleanup.arraySize_le (Store.addNew_sublist [] (items.map (·.object))))
      hfit
  obtain ⟨bs, hpack⟩ := Cleanup.pack_ok hcap hfit'
  have hmem : seg.object ∈ bs.flatten := by
    rw [Cleanup.flatten_of_pack hpack, Store.mem_addNew]
    exact .inr (List.mem_map_of_mem hseg)
  obtain ⟨b, hb, hob⟩ := List.mem_flatten.1 hmem
  obtain ⟨extra, hacc, hpay⟩ := hq
  rw [ServiceM.cleanupBatches, hpack] at hpay
  have hrender : (ServiceM.cleanupDoc b).render ∈ cleanupPayloads extra := by
    rw [hpay]
    exact List.mem_map_of_mem hb
  obtain ⟨u, hu, hup⟩ := List.mem_map.1 hrender
  obtain ⟨hue, huk⟩ := List.mem_filter.1 hu
  refine ⟨u, by rw [hacc, List.drop_left]; exact hue, of_decide_eq_true huk, ?_⟩
  rw [Task.cleanupIds_of_payload hup]
  exact hob

end Service

namespace ServiceM

open Std.Do Service Ledger

variable {α : Type} (g : Ledger)

theorem sweeps_of_runOn {m : ServiceM α}
    (h : ∀ s : Service, s.Steady → s.Fits → s.ledger.Sweeps (m.runOn s).2) :
    ⦃fun s => ⌜g.Sweeps s⌝⦄ m ⦃always g.Sweeps⦄ :=
  always_of_runOn fun s hs => hs.trans (h s hs.steady hs.fits)

theorem sweeps_of_bookkept {m : ServiceM α}
    (hb : ∀ s₀ : Service, ⦃fun s => ⌜s₀.Bookkept s⌝⦄ m ⦃always s₀.Bookkept⦄)
    (hf : ∀ g : Ledger, ⦃fun s => ⌜g.Feeds s⌝⦄ m ⦃always g.Feeds⦄) :
    ⦃fun s => ⌜g.Sweeps s⌝⦄ m ⦃always g.Sweeps⦄ :=
  sweeps_of_runOn g fun s hs hfit => Sweeps.of_bookkept hs hfit
    (runOn_of_always (hb s) (bookkept_refl s)) (runOn_of_always (hf s.ledger) (feeds_ledger hs.ids))

section Books

variable (s₀ : Service)

theorem putFlow_bookkept (f : Flow) :
    ⦃fun s => ⌜s₀.Bookkept s⌝⦄ putFlow f ⦃always s₀.Bookkept⦄ := by
  mvcgen [putFlow] with simp_all +zetaDelta [Bookkept, Settled, Store.putFlow]

theorem list_bookkept (flow : String) (p : ListParams) :
    ⦃fun s => ⌜s₀.Bookkept s⌝⦄ list flow p ⦃always s₀.Bookkept⦄ := by
  mvcgen [list] with simp_all +zetaDelta [Bookkept, Settled, Outages.settings]

theorem flowRange_bookkept (flow : String) :
    ⦃fun s => ⌜s₀.Bookkept s⌝⦄ flowRange flow ⦃always s₀.Bookkept⦄ := by
  mvcgen [flowRange, first?] with simp_all +zetaDelta [Bookkept, Settled, Outages.settings]

theorem deleteFlow_store_bookkept (flow : String) :
    ⦃fun s => ⌜s₀.Bookkept s⌝⦄ withStore (fun st => (st.deleteFlow flow).map ((), ·))
    ⦃always s₀.Bookkept⦄ := by
  mvcgen [withStore] with simp_all +zetaDelta [Bookkept, Settled]

end Books

theorem instant_sweeps : ⦃fun s => ⌜g.Sweeps s⌝⦄ instant ⦃always g.Sweeps⦄ :=
  sweeps_of_bookkept g instant_spec instant_feeds

theorem cachedFlow_sweeps (id : String) :
    ⦃fun s => ⌜g.Sweeps s⌝⦄ cachedFlow id ⦃always g.Sweeps⦄ :=
  sweeps_of_bookkept g (cachedFlow_spec · id) (cachedFlow_feeds · id)

theorem writableFlow_sweeps (id : String) :
    ⦃fun s => ⌜g.Sweeps s⌝⦄ writableFlow id ⦃always g.Sweeps⦄ :=
  sweeps_of_bookkept g (writableFlow_spec · id) (writableFlow_feeds · id)

theorem forgetFlow_sweeps (id : String) :
    ⦃fun s => ⌜g.Sweeps s⌝⦄ forgetFlow id ⦃always g.Sweeps⦄ :=
  sweeps_of_bookkept g (forgetFlow_spec · id) (forgetFlow_feeds · id)

theorem putRequest_sweeps (r : DeleteRequest) :
    ⦃fun s => ⌜g.Sweeps s⌝⦄ putRequest r ⦃always g.Sweeps⦄ :=
  sweeps_of_bookkept g (putRequest_spec · r) (putRequest_feeds · r)

theorem hasSegments_sweeps (flow : String) (r : TimeRange) :
    ⦃fun s => ⌜g.Sweeps s⌝⦄ hasSegments flow r ⦃always g.Sweeps⦄ :=
  sweeps_of_bookkept g (hasSegments_spec · flow r) (hasSegments_feeds · flow r)

theorem submitRequest_sweeps (flow : String) (r : TimeRange) (deleteFlow : Bool) (createdBy : String) :
    ⦃fun s => ⌜g.Sweeps s⌝⦄ submitRequest flow r deleteFlow createdBy ⦃always g.Sweeps⦄ :=
  sweeps_of_bookkept g (submitRequest_spec · flow r deleteFlow createdBy)
    (submitRequest_feeds · flow r deleteFlow createdBy)

theorem flowDeleted_sweeps (flow : String) :
    ⦃fun s => ⌜g.Sweeps s⌝⦄ flowDeleted flow ⦃always g.Sweeps⦄ :=
  sweeps_of_bookkept g (flowDeleted_spec · flow) (flowDeleted_feeds · flow)

theorem noteFlowDeleted_sweeps (flow : String) :
    ⦃fun s => ⌜g.Sweeps s⌝⦄ noteFlowDeleted flow ⦃always g.Sweeps⦄ :=
  sweeps_of_bookkept g (noteFlowDeleted_spec · flow) (noteFlowDeleted_feeds · flow)

theorem scheduleContinuation_sweeps (r : DeleteRequest) :
    ⦃fun s => ⌜g.Sweeps s⌝⦄ scheduleContinuation r ⦃always g.Sweeps⦄ :=
  sweeps_of_bookkept g (scheduleContinuation_spec · r) (scheduleContinuation_feeds · r)

theorem deleteFlow_store_sweeps (flow : String) :
    ⦃fun s => ⌜g.Sweeps s⌝⦄ withStore (fun st => (st.deleteFlow flow).map ((), ·))
    ⦃always g.Sweeps⦄ :=
  sweeps_of_bookkept g (deleteFlow_store_bookkept · flow) (deleteFlow_store_feeds · flow)

theorem putFlow_sweeps (f : Flow) : ⦃fun s => ⌜g.Sweeps s⌝⦄ putFlow f ⦃always g.Sweeps⦄ :=
  sweeps_of_bookkept g (putFlow_bookkept · f) (putFlow_feeds · f)

theorem list_sweeps (flow : String) (p : ListParams) :
    ⦃fun s => ⌜g.Sweeps s⌝⦄ list flow p ⦃always g.Sweeps⦄ :=
  sweeps_of_bookkept g (list_bookkept · flow p) (list_feeds · flow p)

theorem flowRange_sweeps (flow : String) :
    ⦃fun s => ⌜g.Sweeps s⌝⦄ flowRange flow ⦃always g.Sweeps⦄ :=
  sweeps_of_bookkept g (flowRange_bookkept · flow) (flowRange_feeds · flow)

theorem listSegments_sweeps (flow : String) (p : ListParams) :
    ⦃fun s => ⌜g.Sweeps s⌝⦄ listSegments flow p ⦃always g.Sweeps⦄ := by
  have hcachedFlow := @cachedFlow_sweeps
  have hlist := @list_sweeps
  mvcgen [listSegments, hcachedFlow, -cachedFlow_spec, hlist]

theorem flowTimerange_sweeps (flow : String) :
    ⦃fun s => ⌜g.Sweeps s⌝⦄ flowTimerange flow ⦃always g.Sweeps⦄ := by
  have hcachedFlow := @cachedFlow_sweeps
  have hflowRange := @flowRange_sweeps
  mvcgen [flowTimerange, hcachedFlow, -cachedFlow_spec, hflowRange]

theorem state_runBatch_unkeyed (flow : String) (T : TimeRange) {c : TimeRange}
    (he : c.isEmpty = false) (hk : ¬ c.Keyed) (s : Service) : ((runBatch flow T c).runOn s).2 = s := by
  obtain ⟨e, hplan⟩ := runOn_plan_unkeyed flow { range := some c, limit := s.config.batchSize } rfl rfl
    he hk s
  simp [runBatch, runOn_bind, runOn_tryCatch, runOn_map, hplan]

/-- A batch sweeps: from an empty cursor or one without keys it does nothing, and from one with
keys the segments it drops are items of its page, whose objects it queues for cleanup. -/
theorem runBatch_sweeps (flow : String) (T c : TimeRange) :
    ⦃fun s => ⌜g.Sweeps s⌝⦄ runBatch flow T c ⦃always g.Sweeps⦄ := by
  refine sweeps_of_runOn g fun s hs hfit => ?_
  cases he : c.isEmpty
  case true =>
    rw [runOn_runBatch_empty flow T he s]
    exact sweeps_ledger hs hfit
  by_cases hk : c.Keyed
  case neg =>
    rw [state_runBatch_unkeyed flow T he hk s]
    exact sweeps_ledger hs hfit
  obtain ⟨b, s', hrun, -, hsw, hdone, hq⟩ := runBatch_calm flow T c (hs.calm hfit) he hk
  have hfeed := runOn_of_always (runBatch_feeds s.ledger flow T c) (feeds_ledger hs.ids)
  rw [hrun] at hfeed ⊢
  simp only [Service.BatchDone, he, Bool.false_eq_true, if_false] at hdone
  refine Sweeps.of_dropped hs hfit hsw.2.2 hsw.1 hfeed fun seg hseg hgone => ?_
  have hitem : seg ∈ trimEnds T (·.range) (batchPage s.store flow s.config.batchSize c).segments := by
    by_contra hni
    exact hgone (hdone.2.2.2 ▸ List.mem_filter.2 ⟨hseg, by simpa using hni⟩)
  have hsub := (trimEnds_sublist (r := T) (f := (·.range))
    (batchPage s.store flow s.config.batchSize c).segments).trans (batchPage_sublist _ _ _ _)
  exact hq.handed (lt_max_of_lt_right one_pos)
    (le_trans (by simpa using Cleanup.arraySize_le (hsub.map (·.object))) hfit) hitem

theorem runBatches_sweeps (req : DeleteRequest) (timeLeft : Nat → Int) (fuel : Nat)
    (cursor : TimeRange) (r : RunReport) :
    ⦃fun s => ⌜g.Sweeps s⌝⦄ runBatches req timeLeft fuel cursor r ⦃always g.Sweeps⦄ := by
  induction fuel generalizing cursor r with
  | zero => mvcgen [runBatches, -runBatches_spec]
  | succ fuel ih =>
    have hrunBatch := @runBatch_sweeps
    mvcgen [runBatches, -runBatches_spec, ih, hrunBatch, -runBatch_spec]

theorem runRequest_sweeps (req : DeleteRequest) (timeLeft : Nat → Int) :
    ⦃fun s => ⌜g.Sweeps s⌝⦄ runRequest req timeLeft ⦃always g.Sweeps⦄ := by
  have hputRequest := @putRequest_sweeps
  have hinstant := @instant_sweeps
  have hrunBatches := @runBatches_sweeps
  have hdeleteFlow_store := @deleteFlow_store_sweeps
  have hnoteFlowDeleted := @noteFlowDeleted_sweeps
  have hscheduleContinuation := @scheduleContinuation_sweeps
  mvcgen [runRequest, -runRequest_spec, hputRequest, -putRequest_spec, hinstant, -instant_spec,
    hrunBatches, -runBatches_spec, hdeleteFlow_store, hnoteFlowDeleted, -noteFlowDeleted_spec,
    hscheduleContinuation, -scheduleContinuation_spec]

theorem state_deleteObjectSegments_unkeyed (flow object : String) {r : TimeRange}
    (he : r.isEmpty = false) (hk : ¬ r.Keyed) (s : Service) :
    ((deleteObjectSegments flow object r).runOn s).2 = s := by
  have het : r.isEternity = false := by
    cases h : r.isEternity
    · rfl
    · obtain ⟨-, hl, hu⟩ := TimeRange.ends_of_isEternity h
      exact absurd ⟨.inl hl, .inl hu⟩ hk
  obtain ⟨e, hplan⟩ := runOn_plan_unkeyed flow
    { object := object, limit := maxPageLimit, range := some r } rfl rfl he hk s
  simp [deleteObjectSegments, removeObjectPages, runOn_bind, he, het, hplan]

theorem deleteObjectSegments_sweeps (flow object : String) (r : TimeRange) :
    ⦃fun s => ⌜g.Sweeps s ∧ object ≠ ""⌝⦄ deleteObjectSegments flow object r ⦃always g.Sweeps⦄ := by
  refine always_of_runOn fun s ⟨hsw, ho⟩ => hsw.trans ?_
  have hs := hsw.steady
  have hfit := hsw.fits
  have hfeed := runOn_of_always (deleteObjectSegments_feeds s.ledger flow object r)
    (feeds_ledger hs.ids)
  by_cases hr : r.isEmpty = true ∨ r.Keyed
  case neg =>
    have he : r.isEmpty = false := by simpa using (not_or.1 hr).1
    rw [state_deleteObjectSegments_unkeyed flow object he (not_or.1 hr).2 s]
    exact sweeps_ledger hs hfit
  obtain ⟨s', hrun, hseg, hset, hwork⟩ := runOn_deleteObjectSegments flow object r ho (hs.calm hfit) hr
  rw [hrun] at hfeed ⊢
  refine Sweeps.of_dropped hs hfit hset (by rw [hseg]; exact List.filter_sublist) hfeed
    fun seg hseg' hgone => ?_
  have hgone' : seg ∈ (objectPending s.store flow object r).filter (r.contains ·.range) := by
    by_contra hng
    exact hgone (hseg ▸ List.mem_filter.2 ⟨hseg', decide_eq_true hng⟩)
  have hobj : seg.object = object := by
    rw [objectPending_filter_contains hs.indexed ho hr, List.mem_filter] at hgone'
    simp only [decide_eq_true_eq] at hgone'
    exact hgone'.2.2.1
  rw [if_neg (List.ne_nil_of_mem hgone')] at hwork
  have hw : (objectCleanupTask, (cleanupDoc [object]).render) ∈
      ((s'.accepted.drop s.accepted.length).map Task.work).filter (·.1 = objectCleanupTask) := by
    rw [hwork]
    exact List.mem_singleton_self _
  obtain ⟨u, hu, huw⟩ := List.mem_map.1 (List.mem_filter.1 hw).1
  simp only [Task.work, Prod.mk.injEq] at huw
  refine ⟨u, hu, huw.1, ?_⟩
  rw [Task.cleanupIds_of_payload huw.2, hobj]
  exact List.mem_singleton_self _

theorem deleteSegments_sweeps (flow : String) (range : Option TimeRange) (object createdBy : String) :
    ⦃fun s => ⌜g.Sweeps s⌝⦄ deleteSegments flow range object createdBy ⦃always g.Sweeps⦄ := by
  have hwritableFlow := @writableFlow_sweeps
  have hdeleteObjectSegments := @deleteObjectSegments_sweeps
  have hhasSegments := @hasSegments_sweeps
  have hsubmitRequest := @submitRequest_sweeps
  mvcgen [deleteSegments, -deleteSegments_spec, hwritableFlow, -writableFlow_spec,
    hdeleteObjectSegments, -deleteObjectSegments_spec, hhasSegments, -hasSegments_spec,
    hsubmitRequest, -submitRequest_spec]
  exact ⟨‹_›, by simpa using ‹(!object.isEmpty) = true›⟩

theorem deleteFlow_sweeps (flow createdBy : String) :
    ⦃fun s => ⌜g.Sweeps s⌝⦄ deleteFlow flow createdBy ⦃always g.Sweeps⦄ := by
  have hwritableFlow := @writableFlow_sweeps
  have hhasSegments := @hasSegments_sweeps
  have hsubmitRequest := @submitRequest_sweeps
  have hdeleteFlow_store := @deleteFlow_store_sweeps
  have hforgetFlow := @forgetFlow_sweeps
  have hflowDeleted := @flowDeleted_sweeps
  mvcgen [deleteFlow, hwritableFlow, -writableFlow_spec, hhasSegments, -hasSegments_spec,
    hsubmitRequest, -submitRequest_spec, hdeleteFlow_store, hforgetFlow, -forgetFlow_spec,
    hflowDeleted, -flowDeleted_spec]

theorem appendStorageIds_sweeps (flow : String) (r : TimeRange) (ids : List String) :
    ⦃fun s => ⌜g.Sweeps s⌝⦄ appendStorageIds flow r ids ⦃always g.Sweeps⦄ := by
  have hcachedFlow := @cachedFlow_sweeps
  mvcgen [appendStorageIds, hcachedFlow, -cachedFlow_spec, withStore]
  obtain ⟨st, ha, hst⟩ := except_map_eq_ok.1 ‹Except.map (fun x => ((), x)) _ = _›
  obtain ⟨-, rfl⟩ := Prod.mk.inj hst
  exact ‹g.Sweeps _›.appendStorageIds ha

end ServiceM

namespace FlowCall

open Std.Do ServiceM Ledger

theorem run_sweeps (g : Ledger) (c : FlowCall) (hc : ∀ flow seg, c ≠ .postSegment flow seg) :
    ⦃fun s => ⌜g.Sweeps s⌝⦄ c.run ⦃always g.Sweeps⦄ := by
  cases c with
  | putFlow f =>
    have hputFlow := @putFlow_sweeps
    mvcgen [run, hputFlow]
  | getFlow id =>
    have hcachedFlow := @cachedFlow_sweeps
    mvcgen [run, ServiceM.getFlow, hcachedFlow, -cachedFlow_spec]
  | postSegment flow seg => exact absurd rfl (hc flow seg)
  | listSegments flow p =>
    have hlistSegments := @listSegments_sweeps
    mvcgen [run, hlistSegments]
  | flowTimerange flow =>
    have hflowTimerange := @flowTimerange_sweeps
    mvcgen [run, hflowTimerange]
  | appendStorageIds flow r ids =>
    have happendStorageIds := @appendStorageIds_sweeps
    mvcgen [run, happendStorageIds]
  | deleteSegments flow range object createdBy =>
    have hdeleteSegments := @deleteSegments_sweeps
    mvcgen [run, hdeleteSegments, -deleteSegments_spec]
  | deleteFlow flow createdBy =>
    have hdeleteFlow := @deleteFlow_sweeps
    mvcgen [run, hdeleteFlow]
  | runRequest req timeLeft =>
    have hrunRequest := @runRequest_sweeps
    mvcgen [run, hrunRequest, -runRequest_spec]

end FlowCall

end MediaTimeline

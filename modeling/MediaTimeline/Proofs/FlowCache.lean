import Mathlib
import MediaTimeline.Proofs.Removal
import MediaTimeline.Proofs.Insertion

/-! The flow cache agrees with the flow table. -/

set_option mvcgen.warning false

namespace MediaTimeline

namespace Cache

variable {α : Type} {c : Cache α} {now : Int} {k : String} {v : α} {p : String × CacheEntry α}

theorem mem_dropOldest {es : List (String × CacheEntry α)} (h : p ∈ dropOldest es) : p ∈ es := by
  unfold dropOldest at h
  split at h
  · exact List.mem_of_mem_filter h
  · exact h

theorem mem_set (h : p ∈ (c.set now k v).entries) : p ∈ c.entries ∨ p = (k, ⟨v, now⟩) := by
  simp only [set, List.mem_append, List.mem_singleton] at h
  rcases h with h | h
  · left
    split_ifs at h
    all_goals first
      | exact mem_dropOldest (List.mem_of_mem_filter h)
      | exact List.mem_of_mem_filter h
      | exact mem_dropOldest h
      | exact h
  · exact .inr h

theorem mem_erase : p ∈ (c.erase k).entries ↔ p ∈ c.entries ∧ p.1 ≠ k := by
  simp [erase]

theorem mem_of_lookup {es : List (String × CacheEntry α)} {e : CacheEntry α}
    (h : es.lookup k = some e) : (k, e) ∈ es := by
  induction es with
  | nil => cases h
  | cons p es ih =>
    obtain ⟨k', e'⟩ := p
    by_cases hk : k = k'
    · subst hk
      simp only [List.lookup, beq_self_eq_true, Option.some.injEq] at h
      subst h
      exact List.mem_cons_self ..
    · have hne : (k == k') = false := by simpa using hk
      simp only [List.lookup, hne] at h
      exact List.mem_cons_of_mem _ (ih h)

theorem get?_eq_some (h : c.get? now k = some v) : ∃ e, (k, e) ∈ c.entries ∧ e.value = v := by
  unfold get? at h
  split at h
  · rename_i e he
    split_ifs at h
    cases h
    exact ⟨e, mem_of_lookup he, rfl⟩
  · cases h

end Cache

namespace Store

variable {st st' : Store} {k id : String}

theorem getFlow_congr (h : st'.flows = st.flows) (k : String) : st'.getFlow k = st.getFlow k := by
  unfold getFlow
  rw [h]

theorem find?_filter_id_ne (l : List Flow) (hk : k ≠ id) :
    (l.filter (·.id != id)).find? (·.id == k) = l.find? (·.id == k) := by
  induction l with
  | nil => rfl
  | cons f l ih =>
    rw [List.filter_cons]
    by_cases hi : f.id = id
    · -- a flow of the dropped id is not the one `k` finds
      have hfk : (f.id == k) = false := by simpa [hi] using hk.symm
      rw [if_neg (by simp [hi]), ih, List.find?_cons, hfk]
    · rw [if_pos (by simpa using hi), List.find?_cons, List.find?_cons, ih]

theorem getFlow_putFlow_ne (f : Flow) (hk : k ≠ f.id) :
    (st.putFlow f).getFlow k = st.getFlow k := by
  have hf : (f.id == k) = false := by simpa using hk.symm
  unfold getFlow putFlow
  rw [List.find?_append, find?_filter_id_ne _ hk, List.find?_singleton, hf]
  simp

theorem getFlow_of_touchFlow_ne {t : Instant} (h : st.touchFlow id t = .ok st') (hk : k ≠ id) :
    st'.getFlow k = st.getFlow k := by
  simp only [touchFlow, except_map_eq_ok] at h
  obtain ⟨_, -, rfl⟩ := h
  unfold getFlow
  simp only [List.find?_map]
  have hid : ((fun x : Flow => x.id == k) ∘ fun f =>
      if (f.id == id) = true then { f with segmentsUpdated := some t } else f) = (·.id == k) := by
    funext f
    by_cases hf : f.id = id <;> simp [hf]
  rw [hid]
  cases hfind : st.flows.find? (·.id == k) with
  | none => rfl
  | some f =>
    have hfk : f.id = k := by simpa using List.find?_some hfind
    simp [hfk, hk]

theorem getFlow_of_deleteFlow_ne (h : st.deleteFlow id = .ok st') (hk : k ≠ id) :
    st'.getFlow k = st.getFlow k := by
  simp only [deleteFlow, except_map_eq_ok] at h
  obtain ⟨_, -, rfl⟩ := h
  unfold getFlow
  rw [find?_filter_id_ne _ hk]

def writableFlow (st : Store) (id : String) : Except Fault Flow := do
  let f ← st.getFlow id
  if f.readOnly then .error (.readOnly id) else .ok f

theorem flows_of_appendStorageIds {flow : String} {stop : Int} {ids : List String}
    (h : st.appendStorageIds flow stop ids = .ok st') : st'.flows = st.flows := by
  simp only [appendStorageIds, except_map_eq_ok] at h
  obtain ⟨_, -, rfl⟩ := h
  rfl

theorem flows_of_deleteSegment {flow : String} {stop : Int} {r : Segment}
    (h : st.deleteSegment flow stop = .ok (r, st')) : st'.flows = st.flows := by
  rw [deleteSegment_eq_ok] at h
  rw [h.2, flows_dropKey]

end Store

namespace Service

def CacheAgrees (s : Service) (k : String) : Prop :=
  ∀ e, (k, e) ∈ s.flows.entries → s.store.getFlow k = .ok e.value

def FlowsCached (s : Service) : Prop := ∀ k, s.CacheAgrees k

def FlowsCachedBut (id : String) (s : Service) : Prop := ∀ k, k ≠ id → s.CacheAgrees k

variable {s t : Service} {id : String}

theorem FlowsCached.but (h : s.FlowsCached) (id : String) : s.FlowsCachedBut id :=
  fun k _ => h k

theorem FlowsCached.congr (h : s.FlowsCached) (hc : t.flows.entries = s.flows.entries)
    (hf : t.store.flows = s.store.flows) : t.FlowsCached := by
  intro k e he
  rw [Store.getFlow_congr hf]
  exact h k e (hc ▸ he)

theorem FlowsCachedBut.congr (h : s.FlowsCachedBut id) (hc : t.flows.entries = s.flows.entries)
    (hf : t.store.flows = s.store.flows) : t.FlowsCachedBut id := by
  intro k hk e he
  rw [Store.getFlow_congr hf]
  exact h k hk e (hc ▸ he)

theorem FlowsCachedBut.erase (h : s.FlowsCachedBut id) :
    ({ s with flows := s.flows.erase id } : Service).FlowsCached := by
  intro k e he
  obtain ⟨he, hk⟩ := Cache.mem_erase.1 he
  exact h k hk e he

theorem FlowsCached.set (h : s.FlowsCached) {f : Flow} (hf : s.store.getFlow id = .ok f)
    (now : Int) : ({ s with flows := s.flows.set now id f } : Service).FlowsCached := by
  intro k e he
  rcases Cache.mem_set he with he | he
  · exact h k e he
  · simp only [Prod.mk.injEq] at he
    obtain ⟨rfl, rfl⟩ := he
    exact hf

theorem FlowsCached.putFlow (h : s.FlowsCached) (f : Flow) :
    ({ s with store := s.store.putFlow f } : Service).FlowsCachedBut f.id := by
  intro k hk e he
  rw [Store.getFlow_putFlow_ne f hk]
  exact h k e he

theorem FlowsCached.touchFlow (h : s.FlowsCached) {st : Store} {time : Instant}
    (ht : s.store.touchFlow id time = .ok st) :
    ({ s with store := st } : Service).FlowsCachedBut id := by
  intro k hk e he
  rw [Store.getFlow_of_touchFlow_ne ht hk]
  exact h k e he

theorem FlowsCached.deleteFlow (h : s.FlowsCached) {st : Store}
    (ht : s.store.deleteFlow id = .ok st) :
    ({ s with store := st } : Service).FlowsCachedBut id := by
  intro k hk e he
  rw [Store.getFlow_of_deleteFlow_ne ht hk]
  exact h k e he

end Service

namespace ServiceM

open Std.Do Service

section Cached

/-! Steps that write neither the flow table nor the cache keep the cache right. -/

theorem now_cached : ⦃fun s => ⌜s.FlowsCached⌝⦄ now ⦃always FlowsCached⦄ := by
  mvcgen [now, -now_spec]

theorem instant_cached : ⦃fun s => ⌜s.FlowsCached⌝⦄ instant ⦃always FlowsCached⦄ := by
  have hnow := @now_cached
  mvcgen [instant, -instant_spec, hnow, -now_spec]

theorem freshId_cached (use : IdUse) :
    ⦃fun s => ⌜s.FlowsCached⌝⦄ freshId use ⦃always FlowsCached⦄ := by
  mvcgen [freshId, -freshId_spec]

theorem enqueue_cached (t : Task) : ⦃fun s => ⌜s.FlowsCached⌝⦄ enqueue t ⦃always FlowsCached⦄ := by
  have hfreshId := @freshId_cached
  have hinstant := @instant_cached
  mvcgen [enqueue, -enqueue_spec, hfreshId, -freshId_spec, hinstant, -instant_spec]

theorem query_cached (q : SegmentQuery) :
    ⦃fun s => ⌜s.FlowsCached⌝⦄ query q ⦃always FlowsCached⦄ := by
  mvcgen [query, -query_spec]

theorem deleteSegment_cached (flow : String) (stop : Int) :
    ⦃fun s => ⌜s.FlowsCached⌝⦄ deleteSegment flow stop ⦃always FlowsCached⦄ := by
  mvcgen [deleteSegment, -deleteSegment_spec, withStore]
  rename_i hc _ _ _ _ _ _ hdel _
  exact hc.congr rfl (Store.flows_of_deleteSegment hdel)

theorem putSegment_cached (seg : Segment) :
    ⦃fun s => ⌜s.FlowsCached⌝⦄ putSegment seg ⦃always FlowsCached⦄ := by
  mvcgen [putSegment, -putSegment_spec]

theorem putRequest_cached (r : DeleteRequest) :
    ⦃fun s => ⌜s.FlowsCached⌝⦄ putRequest r ⦃always FlowsCached⦄ := by
  mvcgen [putRequest, -putRequest_spec]

theorem loadFlow_cached (id : String) :
    ⦃fun s => ⌜s.FlowsCached⌝⦄ loadFlow id ⦃always FlowsCached⦄ := by
  mvcgen [loadFlow, -loadFlow_spec]

theorem emit_cached (name flow range : String) (count : Int) :
    ⦃fun s => ⌜s.FlowsCached⌝⦄ emit name flow range count ⦃always FlowsCached⦄ := by
  have hnow := @now_cached
  have hfreshId := @freshId_cached
  have henqueue := @enqueue_cached
  mvcgen [emit, -emit_spec, hnow, -now_spec, hfreshId, -freshId_spec, henqueue, -enqueue_spec]

theorem segmentsAdded_cached (flow : String) (r : TimeRange) (count : Int) :
    ⦃fun s => ⌜s.FlowsCached⌝⦄ segmentsAdded flow r count ⦃always FlowsCached⦄ := by
  have hemit := @emit_cached
  mvcgen [segmentsAdded, -segmentsAdded_spec, hemit, -emit_spec]

theorem segmentsDeleted_cached (flow : String) (r : TimeRange) (count : Int) :
    ⦃fun s => ⌜s.FlowsCached⌝⦄ segmentsDeleted flow r count ⦃always FlowsCached⦄ := by
  have hemit := @emit_cached
  mvcgen [segmentsDeleted, -segmentsDeleted_spec, hemit, -emit_spec]

theorem flowDeleted_cached (flow : String) :
    ⦃fun s => ⌜s.FlowsCached⌝⦄ flowDeleted flow ⦃always FlowsCached⦄ := by
  have hemit := @emit_cached
  mvcgen [flowDeleted, -flowDeleted_spec, hemit, -emit_spec]

theorem dispatch_go_cached (cfg : ServiceConfig) (total : Nat) (bs : List (List String)) (i : Nat) :
    ⦃fun s => ⌜s.FlowsCached⌝⦄ dispatch.go cfg total bs i ⦃always FlowsCached⦄ := by
  induction bs generalizing i with
  | nil => mvcgen [dispatch.go, -dispatch_go_spec]
  | cons b rest ih =>
    have henqueue := @enqueue_cached
    mvcgen [dispatch.go, -dispatch_go_spec, ih, henqueue, -enqueue_spec]

theorem dispatch_cached (ids : List String) :
    ⦃fun s => ⌜s.FlowsCached⌝⦄ dispatch ids ⦃always FlowsCached⦄ := by
  have hdispatch_go := @dispatch_go_cached
  mvcgen [dispatch, -dispatch_spec, hdispatch_go, -dispatch_go_spec]

theorem scheduleContinuation_cached (r : DeleteRequest) :
    ⦃fun s => ⌜s.FlowsCached⌝⦄ scheduleContinuation r ⦃always FlowsCached⦄ := by
  have henqueue := @enqueue_cached
  mvcgen [scheduleContinuation, -scheduleContinuation_spec, henqueue, -enqueue_spec]

theorem submitRequest_cached (flow : String) (r : TimeRange) (deleteFlow : Bool)
    (createdBy : String) :
    ⦃fun s => ⌜s.FlowsCached⌝⦄ submitRequest flow r deleteFlow createdBy ⦃always FlowsCached⦄ := by
  have hinstant := @instant_cached
  have hfreshId := @freshId_cached
  have hputRequest := @putRequest_cached
  have hscheduleContinuation := @scheduleContinuation_cached
  mvcgen [submitRequest, -submitRequest_spec, hinstant, -instant_spec, hfreshId, -freshId_spec,
    hputRequest, -putRequest_spec, hscheduleContinuation, -scheduleContinuation_spec]

theorem exactEnd_cached (flow : String) (bound : Int) :
    ⦃fun s => ⌜s.FlowsCached⌝⦄ exactEnd flow bound ⦃always FlowsCached⦄ := by
  have hquery := @query_cached
  mvcgen [exactEnd, -exactEnd_spec, hquery, -query_spec]

theorem plan_cached (flow : String) (p : ListParams) :
    ⦃fun s => ⌜s.FlowsCached⌝⦄ plan flow p ⦃always FlowsCached⦄ := by
  have hexactEnd := @exactEnd_cached
  mvcgen [plan, -plan_spec, hexactEnd, -exactEnd_spec]

theorem hasSegments_cached (flow : String) (r : TimeRange) :
    ⦃fun s => ⌜s.FlowsCached⌝⦄ hasSegments flow r ⦃always FlowsCached⦄ := by
  have hplan := @plan_cached
  have hquery := @query_cached
  mvcgen [hasSegments, -hasSegments_spec, hplan, -plan_spec, hquery, -query_spec]

theorem insert_cached (seg : Segment) :
    ⦃fun s => ⌜s.FlowsCached⌝⦄ insert seg ⦃always FlowsCached⦄ := by
  have hquery := @query_cached
  have hputSegment := @putSegment_cached
  mvcgen [insert, -insert_spec, hquery, -query_spec, hputSegment, -putSegment_spec]

theorem remove_cached (flow : String) (stop : Int) :
    ⦃fun s => ⌜s.FlowsCached⌝⦄ remove flow stop ⦃always FlowsCached⦄ := by
  have hdeleteSegment := @deleteSegment_cached
  mvcgen [remove, -remove_spec, hdeleteSegment, -deleteSegment_spec] with exact id

theorem list_cached (flow : String) (p : ListParams) :
    ⦃fun s => ⌜s.FlowsCached⌝⦄ list flow p ⦃always FlowsCached⦄ := by
  have hplan := @plan_cached
  have hquery := @query_cached
  mvcgen [list, hplan, -plan_spec, hquery, -query_spec]

theorem flowRange_cached (flow : String) :
    ⦃fun s => ⌜s.FlowsCached⌝⦄ flowRange flow ⦃always FlowsCached⦄ := by
  have hquery := @query_cached
  mvcgen [flowRange, first?, hquery, -query_spec]

theorem removeContained_cached (flow : String) (r : TimeRange) (page : List Segment) (n : Nat)
    (covered : TimeRange) :
    ⦃fun s => ⌜s.FlowsCached⌝⦄ removeContained flow r page n covered ⦃always FlowsCached⦄ := by
  induction page generalizing n covered with
  | nil => mvcgen [removeContained, -removeContained_spec]
  | cons t rest ih =>
    have hremove := @remove_cached
    mvcgen [removeContained, -removeContained_spec, ih, hremove, -remove_spec]

theorem removeObjectPages_cached (flow object : String) (r : TimeRange) (fuel : Nat)
    (cursor : TimeRange) (n : Nat) (covered : TimeRange) :
    ⦃fun s => ⌜s.FlowsCached⌝⦄ removeObjectPages flow object r fuel cursor n covered
    ⦃always FlowsCached⦄ := by
  induction fuel generalizing cursor n covered with
  | zero => mvcgen [removeObjectPages, -removeObjectPages_spec]
  | succ fuel ih =>
    have hplan := @plan_cached
    have hquery := @query_cached
    have hremoveContained := @removeContained_cached
    mvcgen [removeObjectPages, -removeObjectPages_spec, ih, hplan, -plan_spec, hquery, -query_spec,
      hremoveContained, -removeContained_spec]

theorem removeBatch_cached (flow : String) (items : List Segment) (n : Nat) (covered : TimeRange)
    (objs : List String) :
    ⦃fun s => ⌜s.FlowsCached⌝⦄ removeBatch flow items n covered objs ⦃always FlowsCached⦄ := by
  induction items generalizing n covered objs with
  | nil => mvcgen [removeBatch, -removeBatch_spec]
  | cons t rest ih =>
    have hremove := @remove_cached
    mvcgen [removeBatch, -removeBatch_spec, ih, hremove, -remove_spec]

/-! The steps that write a flow or the cache. -/

theorem forgetFlow_cached (id : String) :
    ⦃fun s => ⌜s.FlowsCachedBut id⌝⦄ forgetFlow id ⦃always FlowsCached⦄ := by
  mvcgen [forgetFlow, -forgetFlow_spec]
  exact FlowsCachedBut.erase ‹_›

theorem cachedFlow_cached (id : String) :
    ⦃fun s => ⌜s.FlowsCached⌝⦄ cachedFlow id ⦃always FlowsCached⦄ := by
  mvcgen [cachedFlow, -cachedFlow_spec, now, -now_spec, loadFlow, -loadFlow_spec]
  exact FlowsCached.set (FlowsCached.congr ‹_› rfl rfl) ‹_› _

theorem writableFlow_cached (id : String) :
    ⦃fun s => ⌜s.FlowsCached⌝⦄ writableFlow id ⦃always FlowsCached⦄ := by
  have hcachedFlow := @cachedFlow_cached
  mvcgen [writableFlow, -writableFlow_spec, hcachedFlow, -cachedFlow_spec]

theorem withStore_flow_cached (id : String) (g : Store → Except Fault Store)
    (hg : ∀ (s : Service) st, s.FlowsCached → g s.store = .ok st →
      ({ s with store := st } : Service).FlowsCachedBut id) :
    ⦃fun s => ⌜s.FlowsCached⌝⦄ withStore (fun st => (g st).map ((), ·))
    ⦃post⟨fun _ s => ⌜s.FlowsCachedBut id⌝, fun _ s => ⌜s.FlowsCached⌝, fun _ _ => ⌜False⌝⟩⦄ := by
  mvcgen [withStore]
  simp only [except_map_eq_ok, Prod.mk.injEq] at *
  obtain ⟨st, ht, -, rfl⟩ := ‹∃ _, _ ∧ _›
  exact hg _ _ ‹_› ht

theorem touchFlow_store_cached (id : String) (time : Instant) :
    ⦃fun s => ⌜s.FlowsCached⌝⦄ withStore (fun st => (st.touchFlow id time).map ((), ·))
    ⦃post⟨fun _ s => ⌜s.FlowsCachedBut id⌝, fun _ s => ⌜s.FlowsCached⌝, fun _ _ => ⌜False⌝⟩⦄ :=
  withStore_flow_cached id _ fun _ _ h ht => h.touchFlow ht

theorem deleteFlow_store_cached (flow : String) :
    ⦃fun s => ⌜s.FlowsCached⌝⦄ withStore (fun st => (st.deleteFlow flow).map ((), ·))
    ⦃post⟨fun _ s => ⌜s.FlowsCachedBut flow⌝, fun _ s => ⌜s.FlowsCached⌝, fun _ _ => ⌜False⌝⟩⦄ :=
  withStore_flow_cached flow _ fun _ _ h ht => h.deleteFlow ht

theorem touchFlow_cached (id : String) :
    ⦃fun s => ⌜s.FlowsCached⌝⦄ touchFlow id
    ⦃post⟨fun _ s => ⌜s.FlowsCachedBut id⌝, fun _ s => ⌜s.FlowsCached⌝, fun _ _ => ⌜False⌝⟩⦄ := by
  have htouchFlow_store := @touchFlow_store_cached
  mvcgen [touchFlow, -touchFlow_spec, instant, -instant_spec, now, -now_spec, htouchFlow_store]

theorem touch_cached (flow : String) :
    ⦃fun s => ⌜s.FlowsCached⌝⦄ touch flow ⦃always FlowsCached⦄ := by
  have htouchFlow := @touchFlow_cached
  have hforgetFlow := @forgetFlow_cached
  mvcgen [touch, -touch_spec, htouchFlow, -touchFlow_spec, hforgetFlow, -forgetFlow_spec]
  exact FlowsCached.but ‹_› _

theorem noteSegmentsDeleted_cached (flow : String) (r : TimeRange) (count : Int) :
    ⦃fun s => ⌜s.FlowsCachedBut flow⌝⦄ noteSegmentsDeleted flow r count ⦃always FlowsCached⦄ := by
  have hforgetFlow := @forgetFlow_cached
  have hsegmentsDeleted := @segmentsDeleted_cached
  mvcgen [noteSegmentsDeleted, -noteSegmentsDeleted_spec, hforgetFlow, -forgetFlow_spec,
    hsegmentsDeleted, -segmentsDeleted_spec]

theorem noteFlowDeleted_cached (flow : String) :
    ⦃fun s => ⌜s.FlowsCachedBut flow⌝⦄ noteFlowDeleted flow ⦃always FlowsCached⦄ := by
  have hforgetFlow := @forgetFlow_cached
  have hflowDeleted := @flowDeleted_cached
  mvcgen [noteFlowDeleted, -noteFlowDeleted_spec, hforgetFlow, -forgetFlow_spec, hflowDeleted,
    -flowDeleted_spec]

theorem putFlow_cached (f : Flow) : ⦃fun s => ⌜s.FlowsCached⌝⦄ putFlow f ⦃always FlowsCached⦄ := by
  have hinstant := @instant_cached
  have hloadFlow := @loadFlow_cached
  have hforgetFlow := @forgetFlow_cached
  mvcgen [putFlow, hinstant, -instant_spec, hloadFlow, -loadFlow_spec, hforgetFlow,
    -forgetFlow_spec]
  all_goals exact FlowsCached.putFlow ‹_› _

theorem deleteObjectSegments_cached (flow object : String) (r : TimeRange) :
    ⦃fun s => ⌜s.FlowsCached⌝⦄ deleteObjectSegments flow object r ⦃always FlowsCached⦄ := by
  have hremoveObjectPages := @removeObjectPages_cached
  have htouch := @touch_cached
  have hsegmentsDeleted := @segmentsDeleted_cached
  have hdispatch := @dispatch_cached
  mvcgen [deleteObjectSegments, -deleteObjectSegments_spec, hremoveObjectPages,
    -removeObjectPages_spec, htouch, -touch_spec, hsegmentsDeleted, -segmentsDeleted_spec,
    hdispatch, -dispatch_spec]

theorem deleteSegments_cached (flow : String) (range : Option TimeRange)
    (object createdBy : String) :
    ⦃fun s => ⌜s.FlowsCached⌝⦄ deleteSegments flow range object createdBy ⦃always FlowsCached⦄ := by
  have hwritableFlow := @writableFlow_cached
  have hdeleteObjectSegments := @deleteObjectSegments_cached
  have hhasSegments := @hasSegments_cached
  have hsubmitRequest := @submitRequest_cached
  mvcgen [deleteSegments, -deleteSegments_spec, hwritableFlow, -writableFlow_spec,
    hdeleteObjectSegments, -deleteObjectSegments_spec, hhasSegments, -hasSegments_spec,
    hsubmitRequest, -submitRequest_spec]

theorem deleteFlow_cached (flow createdBy : String) :
    ⦃fun s => ⌜s.FlowsCached⌝⦄ deleteFlow flow createdBy ⦃always FlowsCached⦄ := by
  have hwritableFlow := @writableFlow_cached
  have hhasSegments := @hasSegments_cached
  have hsubmitRequest := @submitRequest_cached
  have hdeleteFlow_store := @deleteFlow_store_cached
  have hforgetFlow := @forgetFlow_cached
  have hflowDeleted := @flowDeleted_cached
  mvcgen [deleteFlow, hwritableFlow, -writableFlow_spec, hhasSegments, -hasSegments_spec,
    hsubmitRequest, -submitRequest_spec, hdeleteFlow_store, hforgetFlow, -forgetFlow_spec,
    hflowDeleted, -flowDeleted_spec]
  exact id

theorem runBatch_cached (flow : String) (toDelete cursor : TimeRange) :
    ⦃fun s => ⌜s.FlowsCached⌝⦄ runBatch flow toDelete cursor ⦃always FlowsCached⦄ := by
  have hplan := @plan_cached
  have hquery := @query_cached
  have hremoveBatch := @removeBatch_cached
  have htouchFlow := @touchFlow_cached
  have hnoteSegmentsDeleted := @noteSegmentsDeleted_cached
  have hdispatch := @dispatch_cached
  mvcgen [runBatch, -runBatch_spec, hplan, -plan_spec, hquery, -query_spec, hremoveBatch,
    -removeBatch_spec, htouchFlow, -touchFlow_spec, hnoteSegmentsDeleted, -noteSegmentsDeleted_spec,
    hdispatch, -dispatch_spec]
  exact FlowsCached.but ‹_› _

theorem runBatches_cached (req : DeleteRequest) (timeLeft : Nat → Int) (fuel : Nat)
    (cursor : TimeRange) (r : RunReport) :
    ⦃fun s => ⌜s.FlowsCached⌝⦄ runBatches req timeLeft fuel cursor r ⦃always FlowsCached⦄ := by
  induction fuel generalizing cursor r with
  | zero => mvcgen [runBatches, -runBatches_spec]
  | succ fuel ih =>
    have hrunBatch := @runBatch_cached
    mvcgen [runBatches, -runBatches_spec, ih, hrunBatch, -runBatch_spec]

theorem runRequest_cached (req : DeleteRequest) (timeLeft : Nat → Int) :
    ⦃fun s => ⌜s.FlowsCached⌝⦄ runRequest req timeLeft ⦃always FlowsCached⦄ := by
  have hputRequest := @putRequest_cached
  have hinstant := @instant_cached
  have hrunBatches := @runBatches_cached
  have hdeleteFlow_store := @deleteFlow_store_cached
  have hnoteFlowDeleted := @noteFlowDeleted_cached
  have hscheduleContinuation := @scheduleContinuation_cached
  mvcgen [runRequest, -runRequest_spec, hputRequest, -putRequest_spec, hinstant, -instant_spec,
    hrunBatches, -runBatches_spec, hdeleteFlow_store, hnoteFlowDeleted, -noteFlowDeleted_spec,
    hscheduleContinuation, -scheduleContinuation_spec]
  all_goals exact FlowsCached.but ‹_› _

theorem postSegment_cached (flow : String) (seg : Segment) :
    ⦃fun s => ⌜s.FlowsCached⌝⦄ postSegment flow seg ⦃always FlowsCached⦄ := by
  have hwritableFlow := @writableFlow_cached
  have hinsert := @insert_cached
  have htouch := @touch_cached
  have hsegmentsAdded := @segmentsAdded_cached
  mvcgen [postSegment, hwritableFlow, -writableFlow_spec, hinsert, -insert_spec, htouch,
    -touch_spec, hsegmentsAdded, -segmentsAdded_spec]

theorem listSegments_cached (flow : String) (p : ListParams) :
    ⦃fun s => ⌜s.FlowsCached⌝⦄ listSegments flow p ⦃always FlowsCached⦄ := by
  have hcachedFlow := @cachedFlow_cached
  have hlist := @list_cached
  mvcgen [listSegments, hcachedFlow, -cachedFlow_spec, hlist]

theorem flowTimerange_cached (flow : String) :
    ⦃fun s => ⌜s.FlowsCached⌝⦄ flowTimerange flow ⦃always FlowsCached⦄ := by
  have hcachedFlow := @cachedFlow_cached
  have hflowRange := @flowRange_cached
  mvcgen [flowTimerange, hcachedFlow, -cachedFlow_spec, hflowRange]

theorem appendStorageIds_cached (flow : String) (r : TimeRange) (ids : List String) :
    ⦃fun s => ⌜s.FlowsCached⌝⦄ appendStorageIds flow r ids ⦃always FlowsCached⦄ := by
  have hcachedFlow := @cachedFlow_cached
  mvcgen [appendStorageIds, hcachedFlow, -cachedFlow_spec, withStore]
  simp only [except_map_eq_ok, Prod.mk.injEq] at *
  obtain ⟨st, ht, -, rfl⟩ := ‹∃ _, _ ∧ _›
  refine FlowsCached.congr ?_ ?_ (Store.flows_of_appendStorageIds ht)
  · assumption
  · rfl

end Cached

theorem cachedFlow_reads_table (id : String) (s₀ : Service) :
    ⦃fun s => ⌜s = s₀ ∧ s.FlowsCached⌝⦄ cachedFlow id
    ⦃post⟨fun f _ => ⌜s₀.store.getFlow id = .ok f⌝,
      fun e _ => ⌜s₀.outages.getFlow = true ∨ s₀.store.getFlow id = .error e⌝,
      fun _ _ => ⌜False⌝⟩⦄ := by
  mvcgen [cachedFlow, -cachedFlow_spec, now, -now_spec, loadFlow, -loadFlow_spec]
  all_goals obtain ⟨rfl, h⟩ := ‹_ ∧ _›
  · -- a live entry is a flow the table holds
    obtain ⟨e, he, rfl⟩ := Cache.get?_eq_some ‹_›
    exact h _ e he
  all_goals simp_all +zetaDelta

/-- A flow that takes changes, read through a cache that agrees with the table, is the one the
table holds and is not read-only; it is refused as read-only exactly when the table's is. -/
theorem writableFlow_reads_table (id : String) (s₀ : Service) :
    ⦃fun s => ⌜s = s₀ ∧ s.FlowsCached⌝⦄ writableFlow id
    ⦃post⟨fun f _ => ⌜s₀.store.getFlow id = .ok f ∧ f.readOnly = false⌝,
      fun e _ => ⌜s₀.outages.getFlow = true ∨ s₀.store.getFlow id = .error e ∨
        ∃ f, s₀.store.getFlow id = .ok f ∧ f.readOnly = true ∧ e = .readOnly id⌝,
      fun _ _ => ⌜False⌝⟩⦄ := by
  have hcachedFlow_reads := @cachedFlow_reads_table
  mvcgen [writableFlow, -writableFlow_spec, hcachedFlow_reads, -cachedFlow_spec]
  all_goals obtain ⟨rfl, h⟩ := ‹_ ∧ _›
  all_goals simp_all
  tauto

theorem runOn_getFlow_of_cached {s : Service} (h : s.FlowsCached) (id : String) :
    (∀ f, ((getFlow id).runOn s).1 = .ok (.ok f) → s.store.getFlow id = .ok f) ∧
      (s.outages.getFlow = false → ((getFlow id).runOn s).1 = .ok (s.store.getFlow id)) := by
  have hr := runOn_of_triple (P := fun t => t = s ∧ t.FlowsCached) (cachedFlow_reads_table id s) s
    ⟨rfl, h⟩
  unfold getFlow
  rcases hrun : (cachedFlow id).runOn s with ⟨(c | (e | f)), s'⟩
  all_goals rw [hrun] at hr
  · exact hr.elim
  · refine ⟨fun f hf => (by cases hf), fun hup => ?_⟩
    rcases hr with hout | herr
    · simp [hup] at hout
    · rw [herr]
  · exact ⟨fun f' hf => (by cases hf; exact hr), fun _ => by rw [hr]⟩

/-- Through a cache that agrees with the table, a flow that must take changes is the table's
flow, and is refused as read-only exactly when the table's flow is read-only. -/
theorem runOn_writableFlow_of_cached {s : Service} (h : s.FlowsCached) (id : String) :
    (∀ f, ((writableFlow id).runOn s).1 = .ok (.ok f) →
        s.store.getFlow id = .ok f ∧ f.readOnly = false) ∧
      (s.outages.getFlow = false →
        ((writableFlow id).runOn s).1 = .ok (s.store.writableFlow id)) := by
  have hr := runOn_of_triple (P := fun t => t = s ∧ t.FlowsCached) (writableFlow_reads_table id s)
    s ⟨rfl, h⟩
  rcases hrun : (writableFlow id).runOn s with ⟨(c | (e | f)), s'⟩
  all_goals rw [hrun] at hr
  · exact hr.elim
  · refine ⟨fun f hf => (by cases hf), fun hup => ?_⟩
    rcases hr with hout | herr | ⟨f, hf, hro, rfl⟩
    · simp [hup] at hout
    · rw [Store.writableFlow, herr]
      rfl
    · rw [Store.writableFlow, hf]
      simp only [bind, Except.bind, hro, if_true]
  · obtain ⟨hf, hro⟩ := hr
    refine ⟨fun f' hf' => (by cases hf'; exact ⟨hf, hro⟩), fun _ => ?_⟩
    rw [Store.writableFlow, hf]
    simp only [bind, Except.bind, hro, Bool.false_eq_true, if_false]

end ServiceM

/-- The operations of the service on flows and their segments, and the run of a delete request. -/
inductive FlowCall where
  | putFlow (f : Flow)
  | getFlow (id : String)
  | postSegment (flow : String) (seg : Segment)
  | listSegments (flow : String) (p : ListParams)
  | flowTimerange (flow : String)
  | appendStorageIds (flow : String) (r : TimeRange) (ids : List String)
  | deleteSegments (flow : String) (range : Option TimeRange) (object createdBy : String)
  | deleteFlow (flow createdBy : String)
  | runRequest (req : DeleteRequest) (timeLeft : Nat → Int)

namespace FlowCall

open ServiceM

def run : FlowCall → ServiceM Unit
  | putFlow f => discard (ServiceM.putFlow f)
  | getFlow id => discard (ServiceM.getFlow id)
  | postSegment flow seg => discard (ServiceM.postSegment flow seg)
  | listSegments flow p => discard (ServiceM.listSegments flow p)
  | flowTimerange flow => discard (ServiceM.flowTimerange flow)
  | appendStorageIds flow r ids => ServiceM.appendStorageIds flow r ids
  | deleteSegments flow range object createdBy =>
    discard (ServiceM.deleteSegments flow range object createdBy)
  | deleteFlow flow createdBy => discard (ServiceM.deleteFlow flow createdBy)
  | runRequest req timeLeft => discard (ServiceM.runRequest req timeLeft)

/-- The state a run of calls leaves, each call made in the state the one before it left,
whatever it answered. -/
def runAll : List FlowCall → Service → Service
  | [], s => s
  | c :: cs, s => runAll cs (c.run.runOn s).2

open Std.Do Service

theorem run_cached (c : FlowCall) : ⦃fun s => ⌜s.FlowsCached⌝⦄ c.run ⦃always FlowsCached⦄ := by
  cases c with
  | putFlow f =>
    have hputFlow := @putFlow_cached
    mvcgen [run, hputFlow]
  | getFlow id =>
    have hcachedFlow := @cachedFlow_cached
    mvcgen [run, ServiceM.getFlow, hcachedFlow, -cachedFlow_spec]
  | postSegment flow seg =>
    have hpostSegment := @postSegment_cached
    mvcgen [run, hpostSegment]
  | listSegments flow p =>
    have hlistSegments := @listSegments_cached
    mvcgen [run, hlistSegments]
  | flowTimerange flow =>
    have hflowTimerange := @flowTimerange_cached
    mvcgen [run, hflowTimerange]
  | appendStorageIds flow r ids =>
    have happendStorageIds := @appendStorageIds_cached
    mvcgen [run, happendStorageIds]
  | deleteSegments flow range object createdBy =>
    have hdeleteSegments := @deleteSegments_cached
    mvcgen [run, hdeleteSegments, -deleteSegments_spec]
  | deleteFlow flow createdBy =>
    have hdeleteFlow := @deleteFlow_cached
    mvcgen [run, hdeleteFlow]
  | runRequest req timeLeft =>
    have hrunRequest := @runRequest_cached
    mvcgen [run, hrunRequest, -runRequest_spec]

theorem flowsCached_runAll (calls : List FlowCall) {s : Service} (h : s.FlowsCached) :
    (runAll calls s).FlowsCached := by
  induction calls generalizing s with
  | nil => exact h
  | cons c cs ih => exact ih (runOn_of_always c.run_cached h)

end FlowCall

open ServiceM in
/-- The flow cache is transparent: from a service with an empty cache, whatever its time to live,
size, clock and tables, along every run of the service's operations on flows and segments and of
delete requests, the cache holds only flows as the table has them; a flow read through it is the
one the table holds, and one that must take changes is also not read-only; and when the flow
table is up, reading a flow answers exactly what the table answers, failing as missing exactly
when the table has no such flow, and a flow is refused as read-only exactly when the table's is. -/
theorem flow_cache_reads_through (calls : List FlowCall) (s : Service)
    (hs : s.flows.entries = []) (id : String) :
    let s' := FlowCall.runAll calls s
    s'.FlowsCached ∧
      (∀ f, ((getFlow id).runOn s').1 = .ok (.ok f) → s'.store.getFlow id = .ok f) ∧
      (∀ f, ((writableFlow id).runOn s').1 = .ok (.ok f) →
        s'.store.getFlow id = .ok f ∧ f.readOnly = false) ∧
      (s'.outages.getFlow = false →
        ((getFlow id).runOn s').1 = .ok (s'.store.getFlow id) ∧
        ((writableFlow id).runOn s').1 = .ok (s'.store.writableFlow id)) := by
  intro s'
  have h₀ : s.FlowsCached := fun k e he => by
    rw [hs] at he
    cases he
  have h : s'.FlowsCached := FlowCall.flowsCached_runAll calls h₀
  obtain ⟨hget, hget'⟩ := runOn_getFlow_of_cached h id
  obtain ⟨hw, hw'⟩ := runOn_writableFlow_of_cached h id
  exact ⟨h, hget, hw, fun hup => ⟨hget' hup, hw' hup⟩⟩

open ServiceM in
/-- A flow read into the cache and then stored read-only is refused as read-only. -/
theorem flow_cache_reads_through_read_only :
    let s' := FlowCall.runAll [.putFlow { id := "f", container := "c" }, .getFlow "f",
      .putFlow { id := "f", container := "c", readOnly := true }] {}
    (match s'.store.getFlow "f" with | .ok f => f.readOnly | .error _ => false) = true ∧
      ((writableFlow "f").runOn s').1 = .ok (s'.store.writableFlow "f") := by
  intro s'
  have hup : s'.outages.getFlow = false := by decide +kernel
  exact ⟨by decide +kernel, ((flow_cache_reads_through _ {} rfl "f").2.2.2 hup).2⟩

end MediaTimeline

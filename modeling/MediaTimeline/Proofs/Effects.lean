import Mathlib
import MediaTimeline.Proofs.Bookkeeping
import MediaTimeline.Proofs.Pagination
import MediaTimeline.Deletion.Engine

/-! What a step of the service does, computed from the state it starts in. -/

set_option mvcgen.warning false

namespace MediaTimeline

namespace ServiceM

variable {α β : Type}

@[simp] theorem runOn_pure (a : α) (s : Service) :
    (pure a : ServiceM α).runOn s = (.ok (.ok a), s) := rfl

theorem runOn_bind (m : ServiceM α) (f : α → ServiceM β) (s : Service) :
    (m >>= f).runOn s = match m.runOn s with
      | (.ok (.ok a), s') => (f a).runOn s'
      | (.ok (.error e), s') => (.ok (.error e), s')
      | (.error c, s') => (.error c, s') := by
  rcases h : m.runOn s with ⟨(c | (e | a)), s'⟩
  all_goals
    unfold runOn at h ⊢
    simp only [bind, ExceptT.bind, ExceptT.run, ExceptT.mk, ExceptT.bindCont, StateT.run,
      StateT.bind] at h ⊢
    rw [h] <;> rfl

theorem runOn_tryCatch (m : ServiceM α) (h : Fault → ServiceM α) (s : Service) :
    (tryCatch m h).runOn s = match m.runOn s with
      | (.ok (.error e), s') => (h e).runOn s'
      | r => r := by
  rcases hm : m.runOn s with ⟨(c | (e | a)), s'⟩
  all_goals
    unfold runOn at hm ⊢
    dsimp only [tryCatch, tryCatchThe, MonadExceptOf.tryCatch, ExceptT.tryCatch, ExceptT.run,
      ExceptT.mk, bind, StateT.run, StateT.bind, ExceptT.bind, ExceptT.bindCont] at hm ⊢
    rw [hm] <;> rfl

@[simp] theorem runOn_throw (e : Fault) (s : Service) :
    (throw e : ServiceM α).runOn s = (.ok (.error e), s) := rfl
@[simp] theorem runOn_get (s : Service) : (get : ServiceM Service).runOn s = (.ok (.ok s), s) :=
  rfl
@[simp] theorem runOn_modify (f : Service → Service) (s : Service) :
    (modify f : ServiceM PUnit).runOn s = (.ok (.ok ⟨⟩), f s) := rfl
@[simp] theorem runOn_modifyGet (f : Service → α × Service) (s : Service) :
    (modifyGet f : ServiceM α).runOn s = (.ok (.ok (f s).1), (f s).2) := rfl

theorem runOn_map (f : α → β) (m : ServiceM α) (s : Service) :
    (f <$> m).runOn s = match m.runOn s with
      | (.ok (.ok a), s') => (.ok (.ok (f a)), s')
      | (.ok (.error e), s') => (.ok (.error e), s')
      | (.error c, s') => (.error c, s') := by
  rw [map_eq_pure_bind, runOn_bind]
  rcases m.runOn s with ⟨(c | (e | a)), s'⟩ <;> rfl

theorem runOn_discard (m : ServiceM α) (s : Service) :
    (Functor.discard m).runOn s = match m.runOn s with
      | (.ok (.ok _), s') => (.ok (.ok ()), s')
      | (.ok (.error e), s') => (.ok (.error e), s')
      | (.error c, s') => (.error c, s') :=
  runOn_map _ m s

theorem runOn_step (name : String) (m : ServiceM α) (s : Service) :
    (step name m).runOn s = match m.runOn s with
      | (.ok (.error e), s') => (.ok (.error (.within name e)), s')
      | r => r := by
  rw [step, runOn_tryCatch]
  rcases m.runOn s with ⟨(c | (e | a)), s'⟩ <;> rfl

@[simp] theorem runOn_crash (m : String) (s : Service) :
    (crash m : ServiceM α).runOn s = (.error ⟨m⟩, s) := rfl

end ServiceM

namespace TaskQueue

theorem enqueue_of_open {q : TaskQueue} (hq : q.closed = false)
    (now : Instant) (t : Task) :
    ∃ t' q', q.enqueue now t = .ok (t', q') ∧ t'.kind = t.kind ∧ t'.payload = t.payload ∧
      q'.closed = false := by
  unfold TaskQueue.enqueue
  simp only [hq, Bool.false_eq_true, if_false]
  split <;> split <;> simp [TaskQueue.replace, hq]

end TaskQueue

namespace Service

def TakesTasks (s : Service) : Prop :=
  s.queue.closed = false ∧ s.outages.enqueueKinds = []

theorem TakesTasks.of_settled {s s' : Service} (h : s.TakesTasks)
    (hs : s.Settled s') : s'.TakesTasks := by
  obtain ⟨hcfg, hset, hclosed⟩ := hs
  refine ⟨hclosed.trans h.1, ?_⟩
  have := congrArg Outages.enqueueKinds hset
  exact this.trans h.2

/-- From `s` to `s'` nothing was written: the store, the queue and what it accepted, and the
settings are as they were; only calls were counted and the clock read. -/
def Quiet (s s' : Service) : Prop :=
  s'.store = s.store ∧ s'.queue = s.queue ∧ s'.accepted = s.accepted ∧ s'.config = s.config ∧
    s'.outages.settings = s.outages.settings

end Service

def Task.work (t : Task) : String × String := (t.kind, t.payload)

namespace Store

variable {st st' : Store} {id : String} {t : Instant}

theorem getFlow_touchFlow (h : st.touchFlow id t = .ok st') :
    st'.getFlow id = (st.getFlow id).map fun f => { f with segmentsUpdated := some t } := by
  simp only [touchFlow, except_map_eq_ok] at h
  obtain ⟨_, -, rfl⟩ := h
  simp only [getFlow, List.find?_map]
  have hid : ((fun x : Flow => x.id == id) ∘ fun f =>
      if (f.id == id) = true then { f with segmentsUpdated := some t } else f) = (·.id == id) := by
    funext f
    by_cases h : f.id = id <;> simp [h]
  rw [hid]
  cases hf : st.flows.find? (·.id == id) with
  | none => rfl
  | some f =>
    have hfi : f.id = id := by simpa using List.find?_some hf
    simp [hfi, Except.map]

variable {l : List Segment} {x : Segment}

theorem find?_key_of_ordered (h : l.Pairwise fun a b => a.key.before b.key) (hx : x ∈ l) :
    l.find? (·.key == x.key) = some x := by
  induction l with
  | nil => simp at hx
  | cons t ts ih =>
    rw [List.pairwise_cons] at h
    rw [List.find?_cons]
    rcases List.mem_cons.1 hx with rfl | hx
    · simp
    · have hne : (t.key == x.key) = false := by
        rw [beq_eq_false_iff_ne]
        intro he
        have hb := h.1 x hx
        rw [he, SegmentKey.before_irrefl] at hb
        exact Bool.false_ne_true hb
      rw [hne]
      exact ih h.2 hx

@[simp] theorem addNew_nil (held : List String) : addNew held [] = held := rfl

theorem addNew_cons (held : List String) (i : String) (ids : List String) :
    addNew held (i :: ids) = addNew (if held.contains i then held else held ++ [i]) ids := rfl

theorem eq_of_key_eq_of_ordered (h : l.Pairwise fun a b => a.key.before b.key) {y : Segment}
    (hx : x ∈ l) (hy : y ∈ l) (hk : y.key = x.key) : y = x := by
  have hy' := find?_key_of_ordered h hy
  rw [hk, find?_key_of_ordered h hx] at hy'
  exact (Option.some.inj hy').symm

theorem filter_key_of_ordered (h : l.Pairwise fun a b => a.key.before b.key) (hx : x ∈ l) :
    l.filter (·.key != x.key) = l.filter (· ≠ x) := by
  refine List.filter_congr fun y hy => ?_
  by_cases hk : y.key = x.key
  · simp [eq_of_key_eq_of_ordered h hx hy hk]
  · have hne : y ≠ x := fun he => hk (he ▸ rfl)
    simp [hk, hne]

theorem sublist_filter_ne_of_ordered (h : l.Pairwise fun a b => a.key.before b.key)
    {t : Segment} {rest : List Segment} (hsub : (t :: rest).Sublist l) :
    rest.Sublist (l.filter (· ≠ t)) := by
  have htr : t ∉ rest := fun hm => by
    have := List.rel_of_pairwise_cons (h.sublist hsub) hm
    simp at this
  have hr := ((List.sublist_cons_self t rest).trans hsub).filter (fun x => decide (x ≠ t))
  rwa [List.filter_eq_self.2 fun x hx => by
    simp only [ne_eq, decide_eq_true_eq]
    rintro rfl
    exact htr hx] at hr

end Store

namespace Cleanup

theorem halve_flatten (cap : Int) (run : List String) : (halve cap run).flatten = run := by
  fun_induction halve cap run with
  | case1 run _ => simp
  | case2 run _ ih₁ ih₂ => rw [List.flatten_append, ih₁, ih₂, List.take_append_drop]

theorem runs_flatten (size : Nat) (ids : List String) : (runs size ids).flatten = ids := by
  fun_induction runs size ids with
  | case1 => rfl
  | case2 => simp
  | case3 ids _ ih => rw [List.flatten_cons, ih, List.take_append_drop]

theorem flatten_flatMap_halve (cap : Int) (rs : List (List String)) :
    (rs.flatMap (halve cap)).flatten = rs.flatten := by
  induction rs with
  | nil => rfl
  | cons r rs ih => rw [List.flatMap_cons, List.flatten_append, halve_flatten, ih, List.flatten_cons]

theorem flatten_of_pack {ids : List String} {cap : Int} {bs : List (List String)}
    (h : pack ids cap = .ok bs) : bs.flatten = ids := by
  unfold pack at h
  dsimp only at h
  split_ifs at h with hn
  · cases h
    simp [hn]
  all_goals
    cases h
    rw [flatten_flatMap_halve, runs_flatten]

end Cleanup

namespace ServiceM

theorem runOn_remove (flow : String) (stop : Int) (s : Service) :
    (remove flow stop).runOn s =
      if countCall s.outages.deleteAfter s.outages.deletes then
        (.ok (.error (.outage "storage unavailable")), s)
      else (.ok (.ok (s.store.segments.find? (·.key == ⟨flow, stop⟩))),
        { s with outages := { s.outages with deletes := s.outages.deletes + 1 },
                 store := s.store.filter (·.key != ⟨flow, stop⟩) }) := by
  simp only [remove, deleteSegment, runOn_tryCatch, runOn_map, runOn_bind, runOn_get, withStore,
    outage]
  split_ifs with h
  · simp
  · simp only [Store.deleteSegment, Store.getSegment, runOn_bind, runOn_modify, runOn_get]
    cases hf : List.find? (fun x => x.key == { flow := flow, stop := stop }) s.store.segments <;>
      simp [Except.map, runOn_map, Store.dropKey_eq_filter]
    rw [Store.filter_eq_self fun x hx => by simpa using List.find?_eq_none.1 hf x hx]

theorem runOn_query (q : SegmentQuery) (s : Service) :
    (query q).runOn s =
      if countCall s.outages.queryAfter s.outages.queries then
        (.ok (.error (.outage "query unavailable")), s)
      else (.ok (.ok (s.store.query q)),
        { s with outages := { s.outages with queries := s.outages.queries + 1 } }) := by
  simp only [query, runOn_bind, runOn_get, outage]
  split_ifs <;> simp [runOn_bind, runOn_map]

theorem runOn_enqueue (t : Task) (s : Service) (hup : s.TakesTasks) :
    ∃ t' s', (enqueue t).runOn s = (.ok (.ok t'), s') ∧ s'.accepted = s.accepted ++ [t'] ∧
      t'.kind = t.kind ∧ t'.payload = t.payload ∧ s'.store = s.store ∧ s'.config = s.config ∧
      s'.outages = s.outages ∧ s'.flows = s.flows ∧ s'.TakesTasks := by
  obtain ⟨hclosed, hkinds⟩ := hup
  simp only [enqueue]
  split <;>
  · simp only [runOn_bind, freshId, runOn_modifyGet, runOn_pure, runOn_get, hkinds,
      List.contains_nil, Bool.false_eq_true, if_false, instant, now, runOn_map]
    obtain ⟨t', q', he, hk, hp, hc⟩ := TaskQueue.enqueue_of_open hclosed
      (Instant.ofNanos (s.clock + 1)) _
    rw [he]
    refine ⟨t', _, rfl, ?_⟩
    exact ⟨rfl, hk, hp, rfl, rfl, rfl, rfl, hc, hkinds⟩

theorem runOn_touchFlow_quiet (flow : String) (s : Service) :
    ∃ st', (tryCatch (touchFlow flow) fun _ => pure ()).runOn s =
        (.ok (.ok ()), { s with clock := s.clock + 1, store := st' }) ∧
      st'.segments = s.store.segments ∧
      (s.outages.touch = false → ∀ f, s.store.getFlow flow = .ok f →
        st'.getFlow flow =
          .ok { f with segmentsUpdated := some (Instant.ofNanos (s.clock + 1)) }) := by
  simp only [touchFlow, runOn_tryCatch, runOn_bind, instant, now, runOn_map, runOn_modifyGet,
    runOn_get, outage, withStore]
  by_cases ht : s.outages.touch
  · refine ⟨s.store, ?_, rfl, fun h => absurd ht (by simp [h])⟩
    simp [ht]
  · have ht' : s.outages.touch = false := by simpa using ht
    cases htf : s.store.touchFlow flow (Instant.ofNanos (s.clock + 1)) with
    | error e =>
      refine ⟨s.store, ?_, rfl, fun _ f hf => ?_⟩
      · simp [ht', htf, runOn_bind, Except.map]
      · simp [Store.touchFlow, hf, Except.map] at htf
    | ok st' =>
      refine ⟨st', ?_, Store.segments_of_touchFlow htf, fun _ f hf => ?_⟩
      · simp [ht', htf, runOn_bind, Except.map]
      · simp [Store.getFlow_touchFlow htf, hf, Except.map]

theorem runOn_emit (name flow range : String) (count : Int) (s : Service) (hup : s.TakesTasks) :
    ∃ (s' : Service) (p : EventPayload) (ts : List Task),
      (emit name flow range count).runOn s = (.ok (.ok ()), s') ∧
      s'.accepted = s.accepted ++ ts ∧
      ts.map Task.work = (if s.config.events then [(eventTask, p.toDoc.render)] else []) ∧
      p.name = name ∧ p.flow = flow ∧ p.range = range ∧ p.count = count ∧
      s'.store = s.store ∧ s'.config = s.config ∧ s'.outages = s.outages ∧ s'.TakesTasks := by
  by_cases he : s.config.events
  · simp only [emit, runOn_bind, runOn_get, he, Bool.not_true, Bool.false_eq_true, if_false, now,
      runOn_modifyGet, freshId, runOn_tryCatch]
    let p : EventPayload := { name := name, flow := flow, range := range, count := count,
                              timestamp := (s.clock + 1) / 1000000, sequencer := hex12 (s.raised + 1) }
    obtain ⟨t', s', hrun, hacc, hk, hp, hst, hcfg, hout, -, hup'⟩ := runOn_enqueue
      { id := generatedId (s.issued.length + 1), kind := eventTask, priority := 5,
        payload := p.toDoc.render, maxRetries := 3, flow := flow }
      { s with clock := s.clock + 1, issued := s.issued ++ [(generatedId (s.issued.length + 1), .task)],
               raised := s.raised + 1 } hup
    rw [runOn_discard, hrun]
    exact ⟨s', p, [t'], rfl, hacc, by simp [Task.work, hk, hp], rfl, rfl, rfl, rfl, hst, hcfg,
      hout, hup'⟩
  · refine ⟨s, ⟨name, flow, range, count, 0, ""⟩, [], ?_, (List.append_nil _).symm, ?_, rfl, rfl,
      rfl, rfl, rfl, rfl, rfl, hup⟩
    · simp [emit, runOn_bind, he]
    · simp [he]

theorem runOn_noteSegmentsDeleted (flow : String) (r : TimeRange) (count : Int) (s : Service)
    (hup : s.TakesTasks) :
    ∃ (s' : Service) (p : EventPayload) (ts : List Task),
      (noteSegmentsDeleted flow r count).runOn s = (.ok (.ok ()), s') ∧
      s'.accepted = s.accepted ++ ts ∧
      ts.map Task.work = (if s.config.events then [(eventTask, p.toDoc.render)] else []) ∧
      p.name = segmentsDeletedEvent ∧ p.flow = flow ∧ p.range = r.toText ∧ p.count = count ∧
      s'.store = s.store ∧ s'.config = s.config ∧ s'.outages = s.outages ∧ s'.TakesTasks := by
  obtain ⟨s', p, ts, hrun, hrest⟩ := runOn_emit segmentsDeletedEvent flow r.toText count
    { s with flows := s.flows.erase flow } hup
  refine ⟨s', p, ts, ?_, hrest⟩
  simp only [noteSegmentsDeleted, forgetFlow, segmentsDeleted, runOn_bind, runOn_modify, hrun]

def cleanupWork (bs : List (List String)) : List (String × String) :=
  bs.map fun b => (objectCleanupTask, (cleanupDoc b).render)

theorem runOn_dispatch_go (cfg : ServiceConfig) (total : Nat) (bs : List (List String)) (i : Nat)
    (s : Service) (hup : s.TakesTasks) :
    ∃ (s' : Service) (ts : List Task),
      (dispatch.go cfg total bs i).runOn s = (.ok (.ok ()), s') ∧
      s'.accepted = s.accepted ++ ts ∧ ts.map Task.work = cleanupWork bs ∧
      s'.store = s.store ∧ s'.config = s.config ∧ s'.outages = s.outages ∧ s'.TakesTasks := by
  induction bs generalizing i s with
  | nil => exact ⟨s, [], rfl, by simp, rfl, rfl, rfl, rfl, hup⟩
  | cons b rest ih =>
    obtain ⟨t', s₁, hrun, hacc, hk, hp, hst, hcfg, hout, -, hup₁⟩ := runOn_enqueue
      { kind := objectCleanupTask, priority := 0, payload := (cleanupDoc b).render,
        maxRetries := cfg.cleanupRetries } s hup
    obtain ⟨s₂, ts, hrest, hacc₂, hwork, hst₂, hcfg₂, hout₂, hup₂⟩ := ih (i + 1) s₁ hup₁
    refine ⟨s₂, t' :: ts, ?_, by simp [hacc₂, hacc], ?_, hst₂.trans hst, hcfg₂.trans hcfg,
      hout₂.trans hout, hup₂⟩
    · simp only [dispatch.go, runOn_bind, runOn_step, runOn_discard, hrun, hrest]
    · rw [List.map_cons, hwork]
      simp [cleanupWork, Task.work, hk, hp]

/-- Handing objects to cleanup puts one cleanup task per batch on the queue, the batches being
the ids in order; a size cap that the batching arithmetic cannot follow crashes the run. -/
theorem runOn_dispatch (ids : List String) (s : Service) (hup : s.TakesTasks) :
    match Cleanup.pack ids (max (s.config.maxMessageSize - cleanupEnvelope) 1) with
    | .error e => (dispatch ids).runOn s = (.error ⟨e.message⟩, s)
    | .ok bs => ∃ (s' : Service) (ts : List Task), (dispatch ids).runOn s = (.ok (.ok ()), s') ∧
        s'.accepted = s.accepted ++ ts ∧ ts.map Task.work = cleanupWork bs ∧
        s'.store = s.store ∧ s'.config = s.config ∧ s'.outages = s.outages ∧ s'.TakesTasks := by
  split
  · rename_i e he
    simp [dispatch, runOn_bind, he]
  · rename_i bs hb
    obtain ⟨s', ts, hrun, hrest⟩ := runOn_dispatch_go s.config bs.length bs 0 s hup
    refine ⟨s', ts, ?_, hrest⟩
    simp only [dispatch, runOn_bind, runOn_get, hb, runOn_pure, hrun]

/-- A batch removes a prefix of its items, up to the first failed removal: it adds their number
to the count, their ranges to the range covered and their objects, each once, to the objects,
and leaves the store without them. Only the failure stops it early, and without failures to
count it removes every item. It changes nothing else but the count of calls. -/
theorem runOn_removeBatch (flow : String) (items : List Segment) (n : Nat) (covered : TimeRange)
    (objs : List String) (s : Service) (hsub : items.Sublist s.store.segments) (hflow : ∀ i ∈ items, i.flow = flow) :
    ∃ k ≤ items.length, ∃ failure s',
      (removeBatch flow items n covered objs).runOn s =
        (.ok (.ok (n + k, ((items.take k).map (·.range)).foldl TimeRange.extend covered,
            Store.addNew objs ((items.take k).map (·.object)), failure)), s') ∧
      s'.store = s.store.filter (· ∉ items.take k) ∧
      s.Settled s' ∧ s'.accepted = s.accepted ∧ (failure = none ↔ k = items.length) ∧
      (s.outages.deleteAfter = none → failure = none) := by
  induction items generalizing n covered objs s with
  | nil => exact ⟨0, le_rfl, none, s, by simp [removeBatch], by simp, s.settled_refl, rfl, by simp,
      fun _ => rfl⟩
  | cons t rest ih =>
    have ht : t ∈ s.store.segments := hsub.subset List.mem_cons_self
    by_cases hout : countCall s.outages.deleteAfter s.outages.deletes
    · -- the removal of the first item fails, and the batch stops there
      refine ⟨0, Nat.zero_le _, some (.within ("delete segment " ++ t.range.toText)
        (.outage "storage unavailable")), s, ?_, by simp, s.settled_refl, rfl, by simp, fun hn => ?_⟩
      · simp [removeBatch, runOn_bind, runOn_tryCatch, runOn_map, runOn_remove, hout]
      · simp [countCall, hn] at hout
    · -- the first item goes, and the rest of the batch runs on the store without it
      have hkey : t.key = ⟨flow, t.stop⟩ := by rw [Segment.key, hflow t List.mem_cons_self]
      have hfind := Store.find?_key_of_ordered s.store.ordered ht
      have hdrop := Store.filter_key_of_ordered s.store.ordered ht
      rw [hkey] at hfind hdrop
      have hsub' := Store.sublist_filter_ne_of_ordered s.store.ordered hsub
      obtain ⟨k, hk, failure, s', hrun, hst, hset, hacc, hfail, hnone⟩ :=
        ih (n + 1) (covered.extend t.range)
          (if objs.contains t.object then objs else objs ++ [t.object])
          { s with outages := { s.outages with deletes := s.outages.deletes + 1 },
                   store := s.store.filter (·.key != ⟨flow, t.stop⟩) }
          (by simp only [Store.segments_filter, hdrop]; exact hsub')
          fun i hi => hflow i (List.mem_cons_of_mem t hi)
      refine ⟨k + 1, by simpa using hk, failure, s', ?_, ?_, (s.settled_refl).trans hset, hacc,
        by simp [hfail], hnone⟩
      · simp only [removeBatch, runOn_bind, runOn_tryCatch, runOn_map, runOn_remove, hout, hfind,
          Bool.false_eq_true, if_false, hrun, List.take_succ_cons, List.map_cons, List.foldl_cons,
          Store.addNew_cons, Nat.add_right_comm n 1 k, Nat.add_assoc]
      · rw [hst]
        refine Store.ext_of_segments ?_ rfl rfl
        simp only [Store.segments_filter, hdrop, List.filter_filter]
        refine List.filter_congr fun x _ => ?_
        simp [Bool.and_comm]

open Std.Do

section Quiet

variable (s₀ : Service)

theorem query_quiet_spec (q : SegmentQuery) :
    ⦃fun s => ⌜s₀.Quiet s⌝⦄ query q ⦃always s₀.Quiet⦄ := by
  mvcgen [query, -query_spec]

theorem exactEnd_quiet_spec (flow : String) (bound : Int) :
    ⦃fun s => ⌜s₀.Quiet s⌝⦄ exactEnd flow bound ⦃always s₀.Quiet⦄ := by
  mvcgen [exactEnd, -exactEnd_spec, query_quiet_spec, -query_spec] with
    simp_all +zetaDelta [Service.Quiet, Outages.settings]

theorem plan_quiet_spec (flow : String) (p : ListParams) :
    ⦃fun s => ⌜s₀.Quiet s⌝⦄ plan flow p ⦃always s₀.Quiet⦄ := by
  mvcgen [plan, exactEnd_quiet_spec, -exactEnd_spec, -plan_spec] with
    simp_all +zetaDelta [Service.Quiet, Outages.settings]

end Quiet

end ServiceM

end MediaTimeline

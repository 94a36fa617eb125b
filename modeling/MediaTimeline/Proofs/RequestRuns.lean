import Mathlib
import MediaTimeline.Proofs.CalmRun

/-! Runs of a delete request: every run ends by one of its own exits within the count of batches
its matches take, and from a calm state it makes exactly that many, one run or many. -/

set_option mvcgen.warning false

namespace MediaTimeline

namespace Store

theorem eq_missing_of_deleteFlow {st : Store} {id : String} {e : Fault}
    (h : st.deleteFlow id = .error e) : e = .missing .flow := by
  rw [deleteFlow_eq_error] at h
  unfold getFlow at h
  split at h <;> simp at h
  exact h.symm

theorem segments_deleteFlow_getD (st : Store) (id : String) :
    ((st.deleteFlow id).toOption.getD st).segments = st.segments := by
  cases h : st.deleteFlow id with
  | error e => rfl
  | ok st' => exact segments_of_deleteFlow h

end Store

namespace ServiceM

open TimeRange

theorem runOn_putRequest_up (r : DeleteRequest) {s : Service} (h : s.outages.putRequestAfter = none) :
    (putRequest r).runOn s =
      (.ok (.ok ()), { s with store := s.store.putRequest r,
                              outages := { s.outages with requestPuts := s.outages.requestPuts + 1 } }) := by
  simp [putRequest, runOn_bind, countCall, h]

theorem runOn_noteFlowDeleted (flow : String) {s : Service} (hup : s.TakesTasks) :
    ∃ s', (noteFlowDeleted flow).runOn s = (.ok (.ok ()), s') ∧ s.Bookkept s' ∧ s.Queued s' [] := by
  obtain ⟨s', p, ts, hrun, hacc, hwork, -⟩ := runOn_emit flowDeletedEvent flow "" 0
    { s with flows := s.flows.erase flow } hup
  have hnote : (noteFlowDeleted flow).runOn s = (.ok (.ok ()), s') := by
    simp only [noteFlowDeleted, forgetFlow, flowDeleted, runOn_bind, runOn_modify, hrun]
  have hbk := runOn_of_always (noteFlowDeleted_spec s flow) (Service.bookkept_refl s)
  rw [hnote] at hbk
  exact ⟨s', hnote, hbk, ts, hacc, by rw [cleanupPayloads_of_event hwork, List.map_nil]⟩

theorem runOn_scheduleContinuation (r : DeleteRequest) {s : Service} (hup : s.TakesTasks) :
    ∃ s', (scheduleContinuation r).runOn s = (.ok (.ok ()), s') ∧ s.Bookkept s' ∧ s.Queued s' [] := by
  obtain ⟨t', s', hrun, hacc, hkind, -⟩ := runOn_enqueue
    { kind := deleteRequestTask, priority := 5, payload := (requestDoc r.id).render, maxRetries := 5,
      flow := r.flow } s hup
  have hsched : (scheduleContinuation r).runOn s = (.ok (.ok ()), s') := by
    simp only [scheduleContinuation, runOn_discard, hrun]
  have hbk := runOn_of_always (scheduleContinuation_spec s r) (Service.bookkept_refl s)
  rw [hsched] at hbk
  exact ⟨s', hsched, hbk, [t'], hacc, by simp [cleanupPayloads, hkind, deleteRequestTask, objectCleanupTask]⟩

theorem runOn_tryCatch_deleteFlow (flow : String) (handler : Fault → ServiceM Unit)
    (hh : handler (.missing .flow) = pure ()) (s : Service) :
    (tryCatch (withStore fun st => (st.deleteFlow flow).map ((), ·)) handler).runOn s =
      (.ok (.ok ()), { s with store := (s.store.deleteFlow flow).toOption.getD s.store }) := by
  rw [runOn_tryCatch]
  cases hdrop : s.store.deleteFlow flow with
  | error e =>
    obtain rfl := Store.eq_missing_of_deleteFlow hdrop
    simp [withStore, runOn_bind, hdrop, Except.map, runOn_throw, hh, Except.toOption]
  | ok st =>
    simp [withStore, runOn_bind, hdrop, Except.map, Except.toOption]

theorem runOn_runRequest_created (req : DeleteRequest) (timeLeft : Nat → Int) {s : Service}
    (hcreated : req.status = .created) (h : s.outages.putRequestAfter = none) :
    (runRequest req timeLeft).runOn s =
      (runRequest { req with status := .started, updated := Instant.ofNanos (s.clock + 1) } timeLeft).runOn
        { s with clock := s.clock + 1,
                 store := s.store.putRequest
                   { req with status := .started, updated := Instant.ofNanos (s.clock + 1) },
                 outages := { s.outages with requestPuts := s.outages.requestPuts + 1 } } := by
  have hterm : req.terminal = false := by simp [DeleteRequest.terminal, hcreated]
  conv_lhs => simp only [runRequest, hterm, hcreated, Bool.false_eq_true, if_false, beq_self_eq_true,
    if_true, runOn_bind, instant, now, runOn_map, runOn_modifyGet, runOn_step,
    runOn_putRequest_up _ (s := { s with clock := s.clock + 1 }) h, runOn_pure, runOn_get]
  have hterm' : DeleteRequest.terminal
      { req with status := .started, updated := Instant.ofNanos (s.clock + 1) } = false := rfl
  have hstarted : (RequestStatus.started == RequestStatus.created) = false := rfl
  conv_rhs => simp only [runRequest, hterm', hstarted, Bool.false_eq_true, if_false, runOn_bind,
    runOn_pure, runOn_get]
  rfl

/-- How a run of a request ends from a calm state, over the matches `ms` its cursor had, in
batches of `n`: at least one batch and at most the count of the matches, what the range to delete
holds of its pages removed, and the request either done or checkpointed at a cursor left with the
rest after a time left down to the margin. -/
structure CalmEnd (req : DeleteRequest) (timeLeft : Nat → Int) (n : Nat) (ms : List Segment)
    (s : Service) (r : RunReport) (req' : DeleteRequest) (s' : Service) : Prop where
  settled : s.Settled s'
  id : req'.id = req.id
  flow : req'.flow = req.flow
  toDelete : req'.toDelete = req.toDelete
  deleteFlow : req'.deleteFlow = req.deleteFlow
  batches_pos : 0 < r.batches
  batches_le : r.batches ≤ batchCount ms.length n
  deleted : r.deleted = ((ms.take (r.batches * n)).filter (req.toDelete.contains ·.range)).length
  segments : s'.store.segments =
    s.store.segments.filter (· ∉ (ms.take (r.batches * n)).filter (req.toDelete.contains ·.range))
  exit : (r.status = .done ∧ req'.status = .done ∧ req'.remaining = .never ∧
      r.batches = batchCount ms.length n) ∨
    (req'.terminal = false ∧ r.batches < batchCount ms.length n ∧
      req'.toDelete.IsCursor req'.remaining ∧
      pending s'.store req'.flow n req'.remaining = ms.drop (r.batches * n) ∧
      ∃ k, timeLeft k ≤ s.config.safetyMargin)

theorem runRequest_calm_started (req : DeleteRequest) (timeLeft : Nat → Int) {s : Service}
    (hs : s.Calm) {n : Nat} (hn : 0 < n) (hsize : s.config.batchSize = n)
    (hterm : req.terminal = false) (hcr : req.status ≠ .created)
    (hc : req.toDelete.IsCursor req.remaining) {ms : List Segment}
    (hms : pending s.store req.flow n req.remaining = ms) :
    ∃ (r : RunReport) (req' : DeleteRequest) (s' : Service),
      (runRequest req timeLeft).runOn s = (.ok (.ok (r, req')), s') ∧
      CalmEnd req timeLeft n ms s r req' s' ∧
      s.Queued s' (pagesCleanup req.toDelete (max (s.config.maxMessageSize - cleanupEnvelope) 1) n ms
        r.batches) := by
  have hcr' : (req.status == .created) = false := by simpa using hcr
  have hfuel : batchCount ms.length n ≤ s.store.segments.length + 2 :=
    hms ▸ (batchCount_pending_le s.store req.flow req.remaining hn).trans (Nat.le_succ _)
  obtain ⟨j, s₁, c', r', more, hrun, hj, hjle, hbat, hdel, hsw, hseg, hq, hmore, hcont⟩ :=
    runOn_runBatches_calm req timeLeft hn (s.store.segments.length + 2) req.remaining
      { status := req.status } hs hsize hc hms hfuel
  simp only [runRequest, hterm, hcr', Bool.false_eq_true, if_false, runOn_bind, runOn_pure,
    runOn_get, hrun, instant, now, runOn_map, runOn_modifyGet]
  have hb : r'.batches = j := by simpa using hbat
  have hd : r'.deleted = ((ms.take (j * n)).filter (req.toDelete.contains ·.range)).length := by
    simpa using hdel
  have hs₁ := hs.of_swept hsw
  cases more with
  | false =>
    have hjc := hmore.1 rfl
    simp only [Bool.not_false, if_true]
    cases hdf : req.deleteFlow
    · -- done: the request is stored as done
      simp only [Bool.false_eq_true, if_false, runOn_bind, runOn_step,
        runOn_putRequest_up _ (s := { s₁ with clock := s₁.clock + 1 }) hs₁.requests, runOn_pure]
      refine ⟨_, _, _, rfl,
        ⟨hsw.2.2.trans ⟨rfl, rfl, rfl⟩, rfl, rfl, rfl, hdf.symm, ?_, ?_, ?_, ?_, ?_⟩, ?_⟩
      all_goals simp only [hb, hd, hseg, Store.segments_putRequest]
      exacts [hj, hjle, .inl ⟨trivial, trivial, trivial, hjc⟩, hq.of_accepted rfl]
    · -- done with the flow: its record goes, a flow already gone being no failure
      simp only [if_true, runOn_bind]
      rw [runOn_tryCatch_deleteFlow]
      · obtain ⟨s₃, hnote, hbk₃, hq₃⟩ := runOn_noteFlowDeleted req.flow
          (s := { s₁ with clock := s₁.clock + 1,
                          store := (s₁.store.deleteFlow req.flow).toOption.getD s₁.store }) hs₁.tasks
        have hput₃ : s₃.outages.putRequestAfter = none :=
          (congrArg Outages.putRequestAfter hbk₃.2.2.1).trans hs₁.requests
        simp only [hnote, runOn_step, runOn_putRequest_up _ (s := s₃) hput₃, runOn_pure]
        refine ⟨_, _, _, rfl, ⟨(hsw.2.2.trans hbk₃.2).trans ⟨rfl, rfl, rfl⟩, rfl, rfl, rfl,
          hdf.symm, ?_, ?_, ?_, ?_, ?_⟩, ?_⟩
        all_goals simp only [hb, hd, Store.segments_putRequest, hbk₃.1, Store.segments_deleteFlow_getD]
        exacts [hj, hjle, hseg, .inl ⟨trivial, trivial, trivial, hjc⟩,
          (hq.trans_nil hq₃).of_accepted rfl]
      · -- the handler lets a missing flow pass
        rfl
  | true =>
    -- time ran out with matches left: the request is checkpointed at the cursor and queued again
    obtain ⟨hcur, hpend, k, hk⟩ := hcont rfl
    have hjlt : j < batchCount ms.length n :=
      lt_of_le_of_ne hjle fun h => absurd (hmore.2 h) (by simp)
    simp only [Bool.not_true, Bool.false_eq_true, if_false, runOn_bind, runOn_step,
      runOn_putRequest_up _ (s := { s₁ with clock := s₁.clock + 1 }) hs₁.requests]
    obtain ⟨s₄, hsched, hbk₄, hq₄⟩ := runOn_scheduleContinuation
      { req with remaining := c', updated := Instant.ofNanos (s₁.clock + 1) }
      (s := { s₁ with clock := s₁.clock + 1,
                      store := s₁.store.putRequest
                        { req with remaining := c', updated := Instant.ofNanos (s₁.clock + 1) },
                      outages := { s₁.outages with requestPuts := s₁.outages.requestPuts + 1 } })
      hs₁.tasks
    simp only [hsched, runOn_pure]
    have hseg₄ : s₄.store.segments = s₁.store.segments := hbk₄.1
    refine ⟨_, _, _, rfl, ⟨(hsw.2.2.trans ⟨rfl, rfl, rfl⟩).trans hbk₄.2, rfl, rfl, rfl, rfl,
      ?_, ?_, ?_, ?_, ?_⟩, ?_⟩
    all_goals simp only [hb, hd]
    · exact hj
    · exact hjle
    · exact hseg₄.trans hseg
    · refine .inr ⟨hterm, hjlt, hcur, ?_, k, hk⟩
      rw [pending_congr hseg₄]
      exact hpend
    · exact hq.trans_nil hq₄

/-- A run of a request that is not final, in a calm state, from a cursor: it makes at least one
batch and at most the count of what is left, removes what the range to delete holds of the pages
it made and hands their objects to cleanup page by page, and either finishes the request or
checkpoints it at a cursor left with the rest, after reading a time left down to the margin. -/
theorem runRequest_queued (req : DeleteRequest) (timeLeft : Nat → Int) {s : Service}
    (hs : s.Calm) {n : Nat} (hn : 0 < n) (hsize : s.config.batchSize = n)
    (hterm : req.terminal = false) (hc : req.toDelete.IsCursor req.remaining) {ms : List Segment}
    (hms : pending s.store req.flow n req.remaining = ms) :
    ∃ (r : RunReport) (req' : DeleteRequest) (s' : Service),
      (runRequest req timeLeft).runOn s = (.ok (.ok (r, req')), s') ∧
      CalmEnd req timeLeft n ms s r req' s' ∧
      s.Queued s' (pagesCleanup req.toDelete (max (s.config.maxMessageSize - cleanupEnvelope) 1) n ms
        r.batches) := by
  by_cases hcr : req.status = .created
  · -- the request is stored as started first, which touches no segment, setting or task
    rw [runOn_runRequest_created req timeLeft hcr hs.requests]
    set req₁ : DeleteRequest :=
      { req with status := .started, updated := Instant.ofNanos (s.clock + 1) }
    set s₀ : Service := { s with clock := s.clock + 1, store := s.store.putRequest req₁,
                                 outages := { s.outages with requestPuts := s.outages.requestPuts + 1 } }
    have hset : s.Settled s₀ := ⟨rfl, rfl, rfl⟩
    obtain ⟨r, req', s', hrun, h, hq⟩ := runRequest_calm_started req₁ timeLeft
      (hs.of_settled hset (List.Sublist.refl _)) hn hsize rfl (by simp [req₁]) hc hms
    exact ⟨r, req', s', hrun, ⟨hset.trans h.settled, h.id, h.flow, h.toDelete, h.deleteFlow,
      h.batches_pos, h.batches_le, h.deleted, h.segments, h.exit⟩, hq.of_accepted_left rfl⟩
  · exact runRequest_calm_started req timeLeft hs hn hsize hterm hcr hc hms

/-- A run of a request that is not final, in a calm state, from a cursor: it makes at least one
batch and at most the count of what is left, removes what the range to delete holds of the pages
it made, and either finishes the request or checkpoints it at a cursor left with the rest, after
reading a time left down to the margin. -/
theorem runRequest_calm (req : DeleteRequest) (timeLeft : Nat → Int) {s : Service}
    (hs : s.Calm) {n : Nat} (hn : 0 < n) (hsize : s.config.batchSize = n)
    (hterm : req.terminal = false) (hc : req.toDelete.IsCursor req.remaining) {ms : List Segment}
    (hms : pending s.store req.flow n req.remaining = ms) :
    ∃ (r : RunReport) (req' : DeleteRequest) (s' : Service),
      (runRequest req timeLeft).runOn s = (.ok (.ok (r, req')), s') ∧
      CalmEnd req timeLeft n ms s r req' s' := by
  obtain ⟨r, req', s', hrun, h, -⟩ := runRequest_queued req timeLeft hs hn hsize hterm hc hms
  exact ⟨r, req', s', hrun, h⟩

theorem runOn_runRequest_terminal (req : DeleteRequest) (timeLeft : Nat → Int) (s : Service)
    (h : req.terminal = true) :
    (runRequest req timeLeft).runOn s = (.ok (.ok ({ status := req.status }, req)), s) := by
  simp only [runRequest, h, if_true]
  rfl

def runEach : DeleteRequest → List (Nat → Int) → ServiceM (List RunReport × DeleteRequest)
  | req, [] => pure ([], req)
  | req, t :: ts => do
    let (r, req') ← runRequest req t
    let (rs, req'') ← runEach req' ts
    pure (r :: rs, req'')

theorem runOn_runEach_terminal (req : DeleteRequest) (h : req.terminal = true) (s : Service) :
    ∀ ts, (runEach req ts).runOn s = (.ok (.ok (ts.map fun _ => { status := req.status }, req)), s)
  | [] => rfl
  | t :: ts => by
    simp only [runEach, runOn_bind, runOn_runRequest_terminal req t s h, runOn_runEach_terminal req h s ts,
      runOn_pure, List.map_cons]

/-- Runs of a request on budgets enough for the count of what is left end with the request done:
every run but the last stops at a checkpoint after one batch or more, and the last finishes; the
runs make the count of batches in all, remove what the range to delete holds of the matches, and
hand cleanup the objects of every page in turn. -/
theorem runEach_queued (req : DeleteRequest) (ts : List (Nat → Int)) {s : Service} (hs : s.Calm)
    {n : Nat} (hn : 0 < n) (hsize : s.config.batchSize = n) (hterm : req.terminal = false)
    (hc : req.toDelete.IsCursor req.remaining) {ms : List Segment}
    (hms : pending s.store req.flow n req.remaining = ms) (hlen : batchCount ms.length n ≤ ts.length) :
    ∃ (rs : List RunReport) (req' : DeleteRequest) (s' : Service),
      (runEach req ts).runOn s = (.ok (.ok (rs, req')), s') ∧ req'.status = .done ∧
      req'.remaining = .never ∧ (rs.map (·.batches)).sum = batchCount ms.length n ∧
      (rs.map (·.deleted)).sum = (ms.filter (req.toDelete.contains ·.range)).length ∧
      s'.store.segments = s.store.segments.filter (· ∉ ms.filter (req.toDelete.contains ·.range)) ∧
      s.Settled s' ∧
      s.Queued s' (pagesCleanup req.toDelete (max (s.config.maxMessageSize - cleanupEnvelope) 1) n ms
        (batchCount ms.length n)) := by
  induction ts generalizing req s ms with
  | nil => exact absurd hlen (by have := @one_le_batchCount ms.length n; simp; omega)
  | cons t ts ih =>
  obtain ⟨r, req₁, s₁, hrun, ⟨hset, -, hflow, hdel, -, hb, -, hd, hseg, hend⟩, hq⟩ :=
    runRequest_queued req t hs hn hsize hterm hc hms
  rcases hend with ⟨-, hdone, hnever, hcount⟩ | ⟨hterm₁, hlt, hc₁, hpend, -⟩
  · -- the first run finishes, and the later ones find the request done
    have hall : ms.take (r.batches * n) = ms := by rw [hcount]; exact take_batchCount hn ms
    have hterm₁ : req₁.terminal = true := by simp [DeleteRequest.terminal, hdone]
    refine ⟨r :: ts.map fun _ => { status := req₁.status }, req₁, s₁, ?_, hdone, hnever, ?_, ?_, ?_,
      hset, by rwa [hcount] at hq⟩
    · simp only [runEach, runOn_bind, hrun, runOn_runEach_terminal req₁ hterm₁ s₁ ts, runOn_pure]
    · simp [hcount]
    · simp [hd, hall]
    · rw [hseg, hall]
  · -- the first run stops at a checkpoint; the rest is the run of what it left
    have hs₁ : s₁.Calm := hs.of_settled hset (by rw [hseg]; exact List.filter_sublist)
    have hmul := mul_lt_of_lt_batchCount hn hb hlt
    have hcnt := batchCount_sub_mul hn hmul
    obtain ⟨rs, req', s', hrun', hdone, hnever, hbs, hds, hseg', hset', hq'⟩ :=
      ih req₁ hs₁ (by rw [hset.1]; exact hsize) hterm₁ hc₁ hpend
        (by rw [List.length_drop]; simp only [List.length_cons] at hlen; omega)
    rw [hdel] at hds hseg' hq'
    rw [hset.1, List.length_drop] at hq'
    have hsplit := List.take_append_drop (r.batches * n) ms
    refine ⟨r :: rs, req', s', ?_, hdone, hnever, ?_, ?_, ?_, hset.trans hset', ?_⟩
    · simp only [runEach, runOn_bind, hrun, hrun', runOn_pure]
    · rw [List.map_cons, List.sum_cons, hbs, List.length_drop]
      omega
    · rw [List.map_cons, List.sum_cons, hds, hd, ← List.length_append, ← List.filter_append, hsplit]
    · rw [hseg', hseg, filter_notMem_filter_notMem_append, ← List.filter_append, hsplit]
    · -- the pages of the later runs are the pages after those of the first
      rw [← hcnt, Nat.add_comm, pagesCleanup_add]
      exact hq.trans hq'

theorem runEach_calm (req : DeleteRequest) (ts : List (Nat → Int)) {s : Service} (hs : s.Calm)
    {n : Nat} (hn : 0 < n) (hsize : s.config.batchSize = n) (hterm : req.terminal = false)
    (hc : req.toDelete.IsCursor req.remaining) {ms : List Segment}
    (hms : pending s.store req.flow n req.remaining = ms) (hlen : batchCount ms.length n ≤ ts.length) :
    ∃ (rs : List RunReport) (req' : DeleteRequest) (s' : Service),
      (runEach req ts).runOn s = (.ok (.ok (rs, req')), s') ∧ req'.status = .done ∧
      req'.remaining = .never ∧ (rs.map (·.batches)).sum = batchCount ms.length n ∧
      (rs.map (·.deleted)).sum = (ms.filter (req.toDelete.contains ·.range)).length ∧
      s'.store.segments = s.store.segments.filter (· ∉ ms.filter (req.toDelete.contains ·.range)) ∧
      s.Settled s' := by
  obtain ⟨rs, req', s', hrun, hdone, hnever, hbs, hds, hseg, hset, -⟩ :=
    runEach_queued req ts hs hn hsize hterm hc hms hlen
  exact ⟨rs, req', s', hrun, hdone, hnever, hbs, hds, hseg, hset⟩

/-! Runs that meet failures. -/

theorem runOn_runBatches_turn (req : DeleteRequest) (timeLeft : Nat → Int) (c : TimeRange)
    (r : RunReport) {s : Service} (hidx : s.Indexed) {n : Nat} (hn : 0 < n)
    (hsize : s.config.batchSize = n) (hc : req.toDelete.IsCursor c) :
    ((∀ fuel, (runBatches req timeLeft (fuel + 1) c r).runOn s =
        (runBatches req timeLeft 1 c r).runOn s) ∧
      ∀ r' c' more failure s', (runBatches req timeLeft 1 c r).runOn s =
          (.ok (.ok (r', c', more, failure)), s') →
        r'.batches = r.batches + 1 ∧ (more = true → failure = none →
          r'.budgetReads = r.budgetReads + 1 ∧ timeLeft r.budgetReads ≤ s.config.safetyMargin)) ∨
    ∃ s₁ c' r₁, s.Swept s₁ ∧ req.toDelete.IsCursor c' ∧
      n < (pending s.store req.flow n c).length ∧
      pending s₁.store req.flow n c' = (pending s.store req.flow n c).drop n ∧
      r₁.batches = r.batches + 1 ∧ r₁.budgetReads = r.budgetReads + 1 ∧
      ∀ fuel, (runBatches req timeLeft (fuel + 1) c r).runOn s =
        (runBatches req timeLeft fuel c' r₁).runOn s₁ := by
  have hdone := runOn_of_triple (runBatch_done req.flow req.toDelete c s) s rfl
  simp only [runBatches, runOn_bind]
  rcases hb : (runBatch req.flow req.toDelete c).runOn s with ⟨(x | (e | ⟨b, f⟩)), s₁⟩
  all_goals rw [hb] at hdone
  · exact .inl ⟨fun _ => rfl, by simp⟩
  · exact .inl ⟨fun _ => rfl, by simp⟩
  cases f with
  | some e =>
    refine .inl ⟨fun _ => rfl, ?_⟩
    rintro r' c' more failure s' ⟨⟩
    simp
  | none =>
  obtain ⟨hsw, hbd⟩ := hdone
  have hbd := hbd rfl
  cases hm : b.more with
  | false =>
    refine .inl ⟨fun fuel => ?_, ?_⟩
    · simp only [Option.isSome_none, Bool.false_eq_true, if_false, hm, Bool.not_false, if_true]
    · simp only [Option.isSome_none, Bool.false_eq_true, if_false, hm, Bool.not_false, if_true]
      rintro r' c' more failure s' ⟨⟩
      simp
  | true =>
  unfold Service.BatchDone at hbd
  split_ifs at hbd with he
  · exact absurd hbd.1 (by simp [hm])
  obtain ⟨-, hmore, hlast, hseg⟩ := hbd
  obtain he' | ⟨-, hk, hT, hend⟩ := hc
  · exact absurd he' (by simp [he])
  have hne : c.isEmpty = false := by simpa using he
  have hpos : (0 : Int) < n := by exact_mod_cast hn
  set ms := batchMatches s.store req.flow n c with hms
  have hpend : pending s.store req.flow n c = ms := by rw [pending, if_neg he]
  have hpage : (batchPage s.store req.flow n c).segments = ms.take n ∧
      ((batchPage s.store req.flow n c).lastKey.isSome ↔ (n : Int) < ms.length) := by
    simpa using batchPage_eq (Store.Indexed.ends64 hidx) hpos
  rw [hsize] at hmore hlast hseg
  have hlt : n < ms.length := by
    have := hpage.2.1 (by rw [← hmore, hm])
    exact_mod_cast this
  have htake : ms.take n ≠ [] := by
    simp only [ne_eq, List.take_eq_nil_iff, not_or]
    exact ⟨by omega, fun h => by simp [h] at hlt⟩
  obtain ⟨L, hL⟩ := Option.isSome_iff_exists.1 (List.getLast?_isSome.2 htake)
  have hcur : b.last = some L.range := by
    rw [show b.last = (b, none).1.last from rfl, hlast, hpage.1, hL]
    rfl
  have hnc := isCursor_next hidx hk hne hT hend (show (n : Int).toNat < ms.length by simpa using hlt)
    (by simpa using hL)
  have hnext : pending s₁.store req.flow n (req.toDelete.intersect L.range.after) = ms.drop n := by
    rw [pending, if_neg (by simp [hnc.1])]
    refine batchMatches_next hidx hk hne hT hend hlt hL (fun x hx => ?_) hseg
    rw [← hpage.1]
    exact (trimEnds_sublist _).subset hx
  have hcfg : s₁.config.safetyMargin = s.config.safetyMargin := by rw [hsw.2.2.1]
  simp only [Option.isSome_none, Bool.false_eq_true, if_false, hm, Bool.not_true, runOn_bind,
    runOn_get, hcfg, hcur]
  by_cases hlow : timeLeft r.budgetReads ≤ s.config.safetyMargin
  · -- no time is left: the loop ends after this batch, whatever its fuel
    refine .inl ⟨fun fuel => ?_, ?_⟩
    · simp only [if_pos hlow]
    · simp only [if_pos hlow, runOn_pure]
      rintro r' c' more failure s' ⟨⟩
      exact ⟨rfl, fun _ _ => ⟨rfl, hlow⟩⟩
  · refine .inr ⟨s₁, req.toDelete.intersect L.range.after,
      { r with batches := r.batches + 1, deleted := r.deleted + b.deleted,
               objects := r.objects + b.objects, budgetReads := r.budgetReads + 1 },
      hsw, .inr hnc, hpend ▸ hlt, hpend ▸ hnext, rfl, rfl, fun fuel => ?_⟩
    simp only [if_neg hlow]

theorem runOn_runBatches_fuel_add (req : DeleteRequest) (timeLeft : Nat → Int) {n : Nat}
    (hn : 0 < n) (fuel : Nat) (c : TimeRange) (r : RunReport) {s : Service} (hidx : s.Indexed)
    (hsize : s.config.batchSize = n) (hc : req.toDelete.IsCursor c)
    (hfuel : batchCount (pending s.store req.flow n c).length n ≤ fuel) (k : Nat) :
    (runBatches req timeLeft (fuel + k) c r).runOn s = (runBatches req timeLeft fuel c r).runOn s := by
  induction fuel generalizing c r s with
  | zero => exact absurd hfuel (by have := @one_le_batchCount (pending s.store req.flow n c).length n; omega)
  | succ fuel ih =>
    rw [show fuel + 1 + k = (fuel + k) + 1 by omega]
    rcases runOn_runBatches_turn req timeLeft c r hidx hn hsize hc with
      ⟨hend, -⟩ | ⟨s₁, c', r₁, hsw, hc', hlt, hpend, -, -, hrun⟩
    · rw [hend (fuel + k), hend fuel]
    · -- the batch went through and the loop goes on with one batch fewer to make
      rw [hrun (fuel + k), hrun fuel]
      refine ih c' r₁ (hsw.indexed hidx) (by rw [hsw.2.2.1]; exact hsize) hc' ?_
      rw [hpend, List.length_drop]
      have := batchCount_of_lt hn hlt
      omega

theorem runOn_runBatches_ends (req : DeleteRequest) (timeLeft : Nat → Int) {n : Nat}
    (hn : 0 < n) (fuel : Nat) (c : TimeRange) (r : RunReport) {s : Service} (hidx : s.Indexed)
    (hsize : s.config.batchSize = n) (hc : req.toDelete.IsCursor c)
    (hfuel : batchCount (pending s.store req.flow n c).length n ≤ fuel) {r' : RunReport}
    {c' : TimeRange} {more : Bool} {failure : Option Fault} {s' : Service}
    (hrun : (runBatches req timeLeft fuel c r).runOn s = (.ok (.ok (r', c', more, failure)), s')) :
    r.batches < r'.batches ∧
      r'.batches ≤ r.batches + batchCount (pending s.store req.flow n c).length n ∧
      (more = true → failure = none →
        r.budgetReads < r'.budgetReads ∧ timeLeft (r'.budgetReads - 1) ≤ s.config.safetyMargin) := by
  induction fuel generalizing c r s with
  | zero => exact absurd hfuel (by have := @one_le_batchCount (pending s.store req.flow n c).length n; omega)
  | succ fuel ih =>
    have hone := @one_le_batchCount (pending s.store req.flow n c).length n
    rcases runOn_runBatches_turn req timeLeft c r hidx hn hsize hc with
      ⟨hend, hres⟩ | ⟨s₁, c₁, r₁, hsw, hc₁, hlt, hpend, hb, hbr, hnext⟩
    · -- the loop ends after this batch
      rw [hend] at hrun
      obtain ⟨hb, hlow⟩ := hres r' c' more failure s' hrun
      refine ⟨by omega, by omega, fun hm hf => ?_⟩
      obtain ⟨hbr, hle⟩ := hlow hm hf
      exact ⟨by omega, by rwa [hbr, Nat.add_sub_cancel]⟩
    · rw [hnext] at hrun
      have hcount := batchCount_of_lt hn hlt
      obtain ⟨hlo, hhi, hlow⟩ := ih c₁ r₁ (hsw.indexed hidx) (by rw [hsw.2.2.1]; exact hsize) hc₁
        (by rw [hpend, List.length_drop]; omega) hrun
      rw [hpend, List.length_drop] at hhi
      refine ⟨by omega, by omega, fun hm hf => ?_⟩
      obtain ⟨hbr', hle⟩ := hlow hm hf
      exact ⟨by omega, by rwa [hsw.2.2.1] at hle⟩

open Std.Do Service in
theorem runBatches_ends_spec (req : DeleteRequest) (timeLeft : Nat → Int) {n : Nat} (hn : 0 < n)
    (S : Service) (fuel : Nat) (r : RunReport) :
    ⦃fun s => ⌜s.store.segments = S.store.segments ∧ s.config = S.config ∧ S.Indexed ∧
      S.config.batchSize = n ∧ req.toDelete.IsCursor req.remaining ∧
      fuel = S.store.segments.length + 2⌝⦄
    runBatches req timeLeft fuel req.remaining r
    ⦃post⟨fun res _ => ⌜r.batches + 1 ≤ res.1.batches ∧
        res.1.batches ≤ r.batches + batchCount (pending S.store req.flow n req.remaining).length n ∧
        (res.2.2.1 = true → res.2.2.2 = none → r.budgetReads < res.1.budgetReads ∧
          timeLeft (res.1.budgetReads - 1) ≤ S.config.safetyMargin)⌝,
      fun _ _ => ⌜True⌝, fun _ _ => ⌜True⌝⟩⦄ := by
  refine triple_of_runOn fun s ⟨hseg, hcfg, hS, hsize, hc, hfuel⟩ => ?_
  have hidx : s.Indexed := by
    unfold Service.Indexed
    rwa [hseg]
  have hpend := pending_congr hseg req.flow n req.remaining
  have hcount : batchCount (pending s.store req.flow n req.remaining).length n ≤ fuel := by
    rw [hfuel, ← hseg]
    exact (batchCount_pending_le s.store req.flow req.remaining hn).trans (Nat.le_succ _)
  rcases hrun : (runBatches req timeLeft fuel req.remaining r).runOn s with
    ⟨(x | (e | ⟨r', c', more, failure⟩)), s'⟩
  · trivial
  · trivial
  · have := runOn_runBatches_ends req timeLeft hn fuel req.remaining r hidx (hcfg ▸ hsize) hc hcount hrun
    rwa [hpend, hcfg] at this

open Std.Do Service in
theorem runRequest_ends (req : DeleteRequest) (timeLeft : Nat → Int) {n : Nat} (hn : 0 < n)
    (s₀ : Service) (hidx : s₀.Indexed) (hsize : s₀.config.batchSize = n)
    (hterm : req.terminal = false) (hc : req.toDelete.IsCursor req.remaining) :
    ⦃fun s => ⌜s = s₀⌝⦄ runRequest req timeLeft
    ⦃post⟨fun res _ => ⌜1 ≤ res.1.batches ∧
        res.1.batches ≤ batchCount (pending s₀.store req.flow n req.remaining).length n ∧
        (res.2.status = .done ∨ res.2.status = .failed ∨
          (0 < res.1.budgetReads ∧ timeLeft (res.1.budgetReads - 1) ≤ s₀.config.safetyMargin))⌝,
      fun _ _ => ⌜True⌝, fun _ _ => ⌜True⌝⟩⦄ := by
  have hloop := fun rq fuel r => runBatches_ends_spec rq timeLeft hn s₀ fuel r
  mvcgen [runRequest, -runRequest_spec, withStore, -putRequest_spec, putRequest_stores,
    -instant_spec, instant_filed, -runBatches_spec, hloop, -noteFlowDeleted_spec,
    noteFlowDeleted_filed, -scheduleContinuation_spec, scheduleContinuation_filed]
  all_goals clear hloop
  all_goals simp_all +zetaDelta [Service.Filed, Service.Bookkept, Service.Settled,
    DeleteRequest.terminal, Service.Indexed]

/-- A run of a delete request over an indexed store, from a cursor over the range to delete,
whatever fails: its loop over batches reaches one of its exits before its fuel runs out, so more
fuel changes nothing; a run that answers makes at least one batch and at most as many as its
matches fill, one batch for none, and ends done, failed, or after reading a time left at or below
the safety margin. When no call fails: with time enough it makes exactly that many batches,
removes exactly the matches that the range to delete holds and is done; and runs one after
another, each on its own budget, leave the request done within that many runs. -/
theorem run_request_batch_accounting (req : DeleteRequest) {s : Service} (hidx : s.Indexed)
    {n : Nat} (hn : 0 < n) (hsize : s.config.batchSize = n) (hterm : req.terminal = false)
    (hc : req.toDelete.IsCursor req.remaining) :
    let ms := pending s.store req.flow n req.remaining
    let gone := ms.filter (req.toDelete.contains ·.range)
    (∀ (timeLeft : Nat → Int) (c : TimeRange) (r : RunReport) (k : Nat), req.toDelete.IsCursor c →
      (runBatches req timeLeft (s.store.segments.length + 2 + k) c r).runOn s =
        (runBatches req timeLeft (s.store.segments.length + 2) c r).runOn s) ∧
    (∀ (timeLeft : Nat → Int) (r : RunReport) (req' : DeleteRequest) (s' : Service),
      (runRequest req timeLeft).runOn s = (.ok (.ok (r, req')), s') →
      1 ≤ r.batches ∧ r.batches ≤ batchCount ms.length n ∧
      (req'.status = .done ∨ req'.status = .failed ∨
        (0 < r.budgetReads ∧ timeLeft (r.budgetReads - 1) ≤ s.config.safetyMargin))) ∧
    (s.Calm → ∀ timeLeft : Nat → Int, (∀ k, s.config.safetyMargin < timeLeft k) →
      ∃ r req' s', (runRequest req timeLeft).runOn s = (.ok (.ok (r, req')), s') ∧
        r.status = .done ∧ req'.status = .done ∧ r.batches = batchCount ms.length n ∧
        r.deleted = gone.length ∧ s'.store.segments = s.store.segments.filter (· ∉ gone)) ∧
    (s.Calm → ∀ ts : List (Nat → Int), batchCount ms.length n ≤ ts.length →
      ∃ rs req' s', (runEach req ts).runOn s = (.ok (.ok (rs, req')), s') ∧ req'.status = .done ∧
        (rs.map (·.batches)).sum = batchCount ms.length n) := by
  intro ms gone
  refine ⟨fun timeLeft c r k hc' => ?_, fun timeLeft r req' s' hrun => ?_,
    fun hs timeLeft htime => ?_, fun hs ts hlen => ?_⟩
  · exact runOn_runBatches_fuel_add req timeLeft hn _ c r hidx hsize hc'
      ((batchCount_pending_le s.store req.flow c hn).trans (Nat.le_succ _)) k
  · have h := runOn_of_triple (runRequest_ends req timeLeft hn s hidx hsize hterm hc) s rfl
    rw [hrun] at h
    exact h
  · obtain ⟨r, req', s', hrun, h⟩ := runRequest_calm req timeLeft hs hn hsize hterm hc rfl
    rcases h.exit with ⟨hrs, hdone, -, hcount⟩ | ⟨-, -, -, -, k, hk⟩
    · -- with a full count of batches the pages hold every match
      have hall : ms.take (r.batches * n) = ms := by rw [hcount]; exact take_batchCount hn ms
      exact ⟨r, req', s', hrun, hrs, hdone, hcount, by rw [h.deleted, hall],
        by rw [h.segments, hall]⟩
    · exact absurd hk (not_le.2 (htime k))
  · obtain ⟨rs, req', s', hrun, hdone, -, hbs, -⟩ := runEach_calm req ts hs hn hsize hterm hc rfl hlen
    exact ⟨rs, req', s', hrun, hdone, hbs⟩

/-- Two one-second segments of a flow, in batches of one, with time enough: the run makes two
batches and removes both. -/
theorem run_request_batch_accounting_two_segments :
    let seg₁ : Segment := ⟨"f", "o1", ⟨some ⟨⟨0⟩, true⟩, some ⟨⟨1000000000⟩, false⟩⟩, "", "",
      none, none, none, [], 0, 999999999⟩
    let seg₂ : Segment := ⟨"f", "o2", ⟨some ⟨⟨1000000000⟩, true⟩, some ⟨⟨2000000000⟩, false⟩⟩,
      "", "", none, none, none, [], 1000000000, 1999999999⟩
    let req : DeleteRequest :=
      ⟨"d", "f", false, .eternity, .eternity, .created, none, "", .zero, .zero⟩
    let s : Service := { config := { batchSize := 1 },
                         store := { segments := [seg₁, seg₂], byObject := [seg₁, seg₂] } }
    s.Indexed ∧ s.Calm ∧ req.toDelete.IsCursor req.remaining ∧
      ∃ r req' s', (runRequest req fun _ => 3600000000000).runOn s = (.ok (.ok (r, req')), s') ∧
        r.batches = 2 ∧ r.deleted = 2 ∧ s'.store.segments = [] := by
  intro seg₁ seg₂ req s
  have hidx : s.Indexed := by decide
  have hcalm : s.Calm := ⟨hidx, rfl, rfl, rfl, ⟨rfl, rfl⟩, by decide⟩
  have hc : req.toDelete.IsCursor req.remaining :=
    .inr ⟨rfl, keyed_eternity, TimeRange.contains_self _, rfl⟩
  obtain ⟨-, -, hdone, -⟩ := run_request_batch_accounting req hidx one_pos rfl rfl hc
  obtain ⟨r, req', s', hrun, -, -, hb, hd, hseg⟩ :=
    hdone hcalm (fun _ => 3600000000000) fun _ => by decide
  refine ⟨hidx, hcalm, hc, r, req', s', hrun, ?_, ?_, ?_⟩
  · rw [hb]
    decide
  · rw [hd]
    decide
  · rw [hseg]
    decide

/-- With batches of one, a request whose remaining range ends before its range to delete runs on
past it: the planner's query for the remaining range matches two of four segments, and the run
makes four batches and removes all four. -/
theorem batches_outrun_remaining_matches :
    let seg (o : String) (k : Int) : Segment :=
      ⟨"f", o, ⟨some ⟨⟨k * 1000000000⟩, true⟩, some ⟨⟨(k + 1) * 1000000000⟩, false⟩⟩, "", "",
        none, none, none, [], k * 1000000000, (k + 1) * 1000000000 - 1⟩
    let req : DeleteRequest := ⟨"r1", "f", false,
      ⟨some ⟨⟨0⟩, true⟩, some ⟨⟨10000000000⟩, false⟩⟩, ⟨some ⟨⟨0⟩, true⟩, some ⟨⟨3000000000⟩, false⟩⟩,
      .created, none, "", .zero, .zero⟩
    let s : Service := { config := { batchSize := 1 },
                         store := { segments := [seg "o1" 1, seg "o2" 2, seg "o3" 3, seg "o4" 4],
                                    byObject := [seg "o1" 1, seg "o2" 2, seg "o3" 3, seg "o4" 4] } }
    (pending s.store "f" 1 req.remaining).length = 2 ∧
      ∃ r req' s', (runRequest req fun _ => 3600000000000).runOn s = (.ok (.ok (r, req')), s') ∧
        r.batches = 4 ∧ r.deleted = 4 := by
  intro seg req s
  have hrun : (((runRequest req fun _ => 3600000000000).runOn s).1.toOption.bind fun o =>
      o.toOption.map fun p => p.1.batches == 4 && p.1.deleted == 4) = some true := by
    decide +kernel
  refine ⟨by decide, ?_⟩
  rcases hout : (runRequest req fun _ => 3600000000000).runOn s with ⟨(c | (e | ⟨r, req'⟩)), s'⟩
  all_goals rw [hout] at hrun
  · cases hrun
  · cases hrun
  · have hcounts := Option.some.inj hrun
    simp only [Bool.and_eq_true, beq_iff_eq] at hcounts
    exact ⟨r, req', s', rfl, hcounts⟩

end ServiceM

end MediaTimeline

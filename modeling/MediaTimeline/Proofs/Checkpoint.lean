import Mathlib
import MediaTimeline.Proofs.Cursor
import MediaTimeline.Proofs.DeletionSafety
import MediaTimeline.Proofs.Submission

/-! A delete request's run stores it back as a checkpoint it can resume from, whichever exit it
takes: the remaining range shrinks and still leads the planner to every segment left to delete. -/

set_option mvcgen.warning false

namespace MediaTimeline

def Service.Filed (s s' : Service) : Prop :=
  s.Bookkept s' ∧ s'.store.requests = s.store.requests

def Service.Swept (s s' : Service) : Prop :=
  s'.store.segments.Sublist s.store.segments ∧ s'.store.requests = s.store.requests ∧ s.Settled s'

/-- What a batch from the cursor `c` of a request to delete `T` from `flow`, started in `s₀`,
leaves in `s` with report `b` when it meets no failure: from an empty cursor nothing; else the
report of the cursor's page, and the store less what it kept of that page. -/
def Service.BatchDone (s₀ : Service) (flow : String) (T c : TimeRange) (b : BatchReport)
    (s : Service) : Prop :=
  if c.isEmpty then b.more = false ∧ b.last = none
  else
    c.Keyed ∧ b.more = (ServiceM.batchPage s₀.store flow s₀.config.batchSize c).lastKey.isSome ∧
      b.last = (ServiceM.batchPage s₀.store flow s₀.config.batchSize c).segments.getLast?.map
        (·.range) ∧
      s.store.segments = s₀.store.segments.filter
        (· ∉ trimEnds T (·.range) (ServiceM.batchPage s₀.store flow s₀.config.batchSize c).segments)

/-- The state `s` lets a run of `req` resume from the cursor `c` within `K`: the cursor lies in
`K`, ends where the range to delete ends unless it is empty, and still reaches every segment of
the flow in `s` that the range to delete holds. -/
def Service.Resumable (s : Service) (req : DeleteRequest) (K c : TimeRange) : Prop :=
  K.contains c = true ∧ (c.isEmpty = true ∨ c.upper = req.toDelete.upper) ∧
    c.Reaches req.flow req.toDelete s.store.segments

namespace Service

@[simp] theorem filed_refl (s : Service) : s.Filed s := ⟨bookkept_refl s, rfl⟩

@[simp] theorem swept_refl (s : Service) : s.Swept s := ⟨List.Sublist.refl _, rfl, settled_refl s⟩

theorem Swept.trans {s₁ s₂ s₃ : Service} (h₁ : s₁.Swept s₂) (h₂ : s₂.Swept s₃) : s₁.Swept s₃ :=
  ⟨h₂.1.trans h₁.1, h₂.2.1.trans h₁.2.1, h₁.2.2.trans h₂.2.2⟩

theorem Swept.indexed {s₁ s₂ : Service} (h : s₁.Swept s₂) (hi : s₁.Indexed) : s₂.Indexed :=
  Store.Indexed.sublist hi h.1

theorem Filed.swept {s₁ s₂ : Service} (h : s₁.Filed s₂) : s₁.Swept s₂ :=
  ⟨h.1.1 ▸ List.Sublist.refl _, h.2, h.1.2⟩

end Service

namespace Store

theorem requests_of_touchFlow {st st' : Store} {id : String} {t : Instant}
    (h : st.touchFlow id t = .ok st') : st'.requests = st.requests := by
  simp only [touchFlow, except_map_eq_ok] at h
  obtain ⟨_, -, rfl⟩ := h
  rfl

end Store

namespace ServiceM

open Std.Do Service

section Filed

variable (s₀ : Service)

theorem now_filed : ⦃fun s => ⌜s₀.Filed s⌝⦄ now ⦃always s₀.Filed⦄ := by
  mvcgen [now, -now_spec]

theorem instant_filed : ⦃fun s => ⌜s₀.Filed s⌝⦄ instant ⦃always s₀.Filed⦄ := by
  have hnow := @now_filed
  mvcgen [instant, -instant_spec, -now_spec, hnow]

theorem freshId_filed (use : IdUse) : ⦃fun s => ⌜s₀.Filed s⌝⦄ freshId use ⦃always s₀.Filed⦄ := by
  mvcgen [freshId, -freshId_spec]

theorem enqueue_filed (t : Task) : ⦃fun s => ⌜s₀.Filed s⌝⦄ enqueue t ⦃always s₀.Filed⦄ := by
  mvcgen [enqueue, -enqueue_spec, freshId_filed, instant_filed, -freshId_spec, -instant_spec] with
    simp_all +zetaDelta [Filed, Bookkept, Settled]
  all_goals grind [TaskQueue.enqueue_closed]

theorem forgetFlow_filed (id : String) : ⦃fun s => ⌜s₀.Filed s⌝⦄ forgetFlow id ⦃always s₀.Filed⦄ := by
  mvcgen [forgetFlow, -forgetFlow_spec]

theorem emit_filed (name flow range : String) (count : Int) :
    ⦃fun s => ⌜s₀.Filed s⌝⦄ emit name flow range count ⦃always s₀.Filed⦄ := by
  mvcgen [emit, -emit_spec, now_filed, freshId_filed, enqueue_filed, -now_spec, -freshId_spec,
    -enqueue_spec] with simp_all +zetaDelta [Filed, Bookkept, Settled]

theorem segmentsDeleted_filed (flow : String) (r : TimeRange) (count : Int) :
    ⦃fun s => ⌜s₀.Filed s⌝⦄ segmentsDeleted flow r count ⦃always s₀.Filed⦄ := by
  have hemit := @emit_filed
  mvcgen [segmentsDeleted, -segmentsDeleted_spec, -emit_spec, hemit]

theorem flowDeleted_filed (flow : String) :
    ⦃fun s => ⌜s₀.Filed s⌝⦄ flowDeleted flow ⦃always s₀.Filed⦄ := by
  have hemit := @emit_filed
  mvcgen [flowDeleted, -flowDeleted_spec, -emit_spec, hemit]

theorem noteSegmentsDeleted_filed (flow : String) (r : TimeRange) (count : Int) :
    ⦃fun s => ⌜s₀.Filed s⌝⦄ noteSegmentsDeleted flow r count ⦃always s₀.Filed⦄ := by
  mvcgen [noteSegmentsDeleted, -noteSegmentsDeleted_spec, -forgetFlow_spec, -segmentsDeleted_spec,
    forgetFlow_filed, segmentsDeleted_filed] with simp_all +zetaDelta [Filed, Bookkept, Settled]

theorem noteFlowDeleted_filed (flow : String) :
    ⦃fun s => ⌜s₀.Filed s⌝⦄ noteFlowDeleted flow ⦃always s₀.Filed⦄ := by
  mvcgen [noteFlowDeleted, -noteFlowDeleted_spec, -forgetFlow_spec, -flowDeleted_spec,
    forgetFlow_filed, flowDeleted_filed] with simp_all +zetaDelta [Filed, Bookkept, Settled]

theorem scheduleContinuation_filed (r : DeleteRequest) :
    ⦃fun s => ⌜s₀.Filed s⌝⦄ scheduleContinuation r ⦃always s₀.Filed⦄ := by
  have henqueue := @enqueue_filed
  mvcgen [scheduleContinuation, -scheduleContinuation_spec, -enqueue_spec, henqueue]

theorem dispatch_go_filed (cfg : ServiceConfig) (total : Nat) (bs : List (List String)) (i : Nat) :
    ⦃fun s => ⌜s₀.Filed s⌝⦄ dispatch.go cfg total bs i ⦃always s₀.Filed⦄ := by
  induction bs generalizing i with
  | nil => mvcgen [dispatch.go, -dispatch_go_spec]
  | cons b rest ih =>
    mvcgen [dispatch.go, -dispatch_go_spec, -enqueue_spec, enqueue_filed, ih] with
      simp_all +zetaDelta [Filed, Bookkept, Settled]

theorem dispatch_filed (ids : List String) :
    ⦃fun s => ⌜s₀.Filed s⌝⦄ dispatch ids ⦃always s₀.Filed⦄ := by
  have hdispatch_go := @dispatch_go_filed
  mvcgen [dispatch, -dispatch_spec, -dispatch_go_spec, hdispatch_go]

theorem touchFlow_filed (id : String) :
    ⦃fun s => ⌜s₀.Filed s⌝⦄ touchFlow id ⦃always s₀.Filed⦄ := by
  mvcgen [touchFlow, withStore, -touchFlow_spec, -instant_spec, instant_filed] with
    simp_all +zetaDelta [Filed, Bookkept, Settled]
  all_goals grind [Store.segments_of_touchFlow, Store.requests_of_touchFlow]

end Filed

theorem runOn_plan_unkeyed (flow : String) (p : ListParams) {r : TimeRange} (hpage : p.page = "")
    (hr : p.range = some r) (he : r.isEmpty = false) (hk : ¬ r.Keyed) (s : Service) :
    ∃ e, (plan flow p).runOn s = (.ok (.error e), s) := by
  have hpe : p.page.isEmpty = true := by rw [hpage]; rfl
  have het : r.isEternity = false := by
    cases h : r.isEternity
    · rfl
    · obtain ⟨-, hl, hu⟩ := TimeRange.ends_of_isEternity h
      exact absurd ⟨.inl hl, .inl hu⟩ hk
  simp only [plan, runOn_bind, hpe, if_true, runOn_pure, hr, het, he, Bool.false_eq_true, if_false]
  rcases hl : r.lower with _ | lo
  · rcases hu : r.upper with _ | up
    · exact absurd ⟨.inl hl, .inl hu⟩ hk
    · rcases hb : r.stopKey with e | b
      · simp [refuse, runOn_throw]
      · exact absurd ⟨.inl hl, .inr ⟨b, hb⟩⟩ hk
  · rcases ha : r.startKey with e | a
    · simp [refuse, runOn_throw]
    · rcases hu : r.upper with _ | up
      · exact absurd ⟨.inr ⟨a, ha⟩, .inl hu⟩ hk
      · rcases hb : r.stopKey with e | b
        · simp [refuse, runOn_throw]
        · exact absurd ⟨.inr ⟨a, ha⟩, .inr ⟨b, hb⟩⟩ hk

theorem plan_cursor_spec (flow : String) (size : Int) (c : TimeRange) (s₀ : Service) :
    ⦃fun s => ⌜s = s₀⌝⦄ plan flow { range := some c, limit := size }
    ⦃post⟨fun qo s => ⌜s₀.Filed s ∧ s.store = s₀.store ∧ (qo.2 = true ↔ c.isEmpty = false) ∧
        (qo.2 = true → c.Keyed ∧ qo.1 = plannedQuery s₀.store flow { range := some c, limit := size } c)⌝,
      fun _ s => ⌜s₀.Filed s⌝, fun _ _ => ⌜False⌝⟩⦄ := by
  apply triple_of_runOn
  rintro s rfl
  have hbk := runOn_of_always (plan_spec s flow { range := some c, limit := size }) (bookkept_refl s)
  cases he : c.isEmpty
  · by_cases hk : c.Keyed
    · rcases runOn_plan_keyed_or flow { range := some c, limit := size } rfl rfl he hk s with
        ⟨s', hrun, hst, -⟩ | ⟨-, hrun⟩
      · rw [hrun] at hbk ⊢
        exact ⟨⟨hbk, by rw [hst]⟩, hst, by simp, fun _ => ⟨hk, rfl⟩⟩
      · -- an outage refuses the anchor's query, and the plan fails before any write
        rw [hrun]
        exact filed_refl s
    · obtain ⟨e, hrun⟩ := runOn_plan_unkeyed flow { range := some c, limit := size } rfl rfl he hk s
      rw [hrun]
      exact filed_refl s
  · rw [runOn_plan_empty flow { range := some c, limit := size } rfl rfl he s]
    exact ⟨filed_refl s, rfl, by simp, by simp⟩

theorem removeBatch_swept (flow : String) (items : List Segment) (n : Nat) (covered : TimeRange)
    (objs : List String) (s₀ : Service) :
    ⦃fun s => ⌜s = s₀ ∧ items.Sublist s.store.segments ∧ ∀ i ∈ items, i.flow = flow⌝⦄
    removeBatch flow items n covered objs
    ⦃post⟨fun r s => ⌜s₀.Swept s ∧
        (r.2.2.2 = none → s.store.segments = s₀.store.segments.filter (· ∉ items))⌝,
      fun _ _ => ⌜False⌝, fun _ _ => ⌜False⌝⟩⦄ := by
  apply triple_of_runOn
  rintro s ⟨rfl, hsub, hflow⟩
  obtain ⟨k, hk, failure, s', hrun, hst, hset, -, hfail, -⟩ :=
    runOn_removeBatch flow items n covered objs s hsub hflow
  rw [hrun]
  refine ⟨⟨by rw [hst]; exact List.filter_sublist, by rw [hst]; rfl, hset⟩, fun hnone => ?_⟩
  rw [hst, hfail.1 hnone, List.take_length]
  rfl

theorem runBatch_done (flow : String) (T c : TimeRange) (s₀ : Service) :
    ⦃fun s => ⌜s = s₀⌝⦄ runBatch flow T c
    ⦃post⟨fun bf s => ⌜s₀.Swept s ∧ (bf.2 = none → s₀.BatchDone flow T c bf.1 s)⌝,
      fun _ s => ⌜s₀.Swept s⌝, fun _ s => ⌜s₀.Swept s⌝⟩⦄ := by
  have hplan := fun size => plan_cursor_spec flow size c s₀
  have hremoveBatch := @removeBatch_swept
  have htouchFlow := @touchFlow_filed
  have hnoteSegmentsDeleted := @noteSegmentsDeleted_filed
  have hdispatch := @dispatch_filed
  mvcgen [runBatch, -runBatch_spec, -plan_spec, hplan, -removeBatch_spec, hremoveBatch,
    -touchFlow_spec, htouchFlow, -noteSegmentsDeleted_spec, hnoteSegmentsDeleted, -dispatch_spec,
    hdispatch]
  all_goals clear hplan hremoveBatch htouchFlow hnoteSegmentsDeleted hdispatch
  all_goals simp_all +zetaDelta [Service.Swept, Service.Filed, Service.Bookkept, Service.Settled,
    Service.BatchDone, query_plannedQuery]
  case vc4 =>
    have hitems := trimEnds_sublist (r := T) (f := (·.range))
      (batchPage s₀.store flow s₀.config.batchSize c).segments
    exact ⟨hitems.trans (batchPage_sublist _ _ _ _),
      fun i hi => flow_of_mem_batchPage (hitems.subset hi)⟩

end ServiceM

namespace TimeRange

theorem Reaches.never_of_isEmpty {c T : TimeRange} {flow : String} {l : List Segment}
    (h : c.Reaches flow T l) (he : c.isEmpty = true) : never.Reaches flow T l := by
  rw [reaches_never]
  intro seg hs hf
  by_contra hT
  have := (h seg hs hf (by simpa using hT)).1
  simp [he] at this

end TimeRange

namespace Service

open TimeRange

variable {s s' : Service} {req : DeleteRequest} {K c : TimeRange}

theorem Resumable.swept (h : s.Resumable req K c) (hs : s.Swept s') : s'.Resumable req K c :=
  ⟨h.1, h.2.1, h.2.2.mono fun _ hx => hs.1.subset hx⟩

/-- A batch keeps a run resumable. The next cursor, the part of the range to delete past the
page's last segment, reaches every segment the batch left, and lies in the cursor before; and
when the page hands on no key, nothing is left to reach. -/
theorem Resumable.batch (hidx : s.Indexed) (h : s.Resumable req K c) (hs : s.Swept s')
    {b : BatchReport} (hd : s.BatchDone req.flow req.toDelete c b s') :
    (∀ c', (b.last = none → c' = c) → (∀ l, b.last = some l → c' = req.toDelete.intersect l.after) →
      s'.Resumable req K c') ∧
    (b.more = false → never.Reaches req.flow req.toDelete s'.store.segments) := by
  obtain ⟨hK, hend, hreach⟩ := h
  unfold BatchDone at hd
  split_ifs at hd with he
  · -- from an empty cursor nothing is read, and nothing was left to reach
    obtain ⟨-, hlast⟩ := hd
    refine ⟨fun c' hc _ => hc hlast ▸ (Resumable.swept ⟨hK, hend, hreach⟩ hs), fun _ => ?_⟩
    exact (hreach.mono fun _ hx => hs.1.subset hx).never_of_isEmpty he
  · simp only [Bool.not_eq_true] at he
    obtain ⟨hk, hmore, hlast, hseg⟩ := hd
    have hend' : c.upper = req.toDelete.upper := hend.resolve_left (by simp [he])
    have hpage := @ServiceM.reaches_past_page _ _ s.config.batchSize _ _ hidx hreach hk hend'
    dsimp only at hpage
    rw [← hseg] at hpage
    refine ⟨fun c' hnone hsome => ?_, fun hm => hpage.1 (by simpa [hm] using hmore.symm)⟩
    rcases hl : b.last with _ | l
    · exact hnone hl ▸ Resumable.swept ⟨hK, hend, hreach⟩ hs
    · -- the last segment of the page gives the next cursor
      rw [hlast] at hl
      obtain ⟨L, hL, rfl⟩ := Option.map_eq_some_iff.1 hl
      obtain ⟨hcc, hup'⟩ := @ServiceM.contains_past_page _ _ s.config.batchSize _ _ hidx hk he hend'
        _ (List.mem_of_getLast? hL)
      rw [hsome _ (hlast.trans (by rw [hL]; rfl))]
      exact ⟨contains_trans hK hcc, hup', hpage.2 L hL⟩

theorem Resumable.next {S : Service} (hS : S.Indexed) (h : s.Resumable req K c) (hSs : S.Swept s)
    {b : BatchReport} {f : Option Fault}
    (hpost : s.Swept s' ∧ (f = none → s.BatchDone req.flow req.toDelete c b s'))
    (hf : ¬ f.isSome = true) (c' : TimeRange) (hnone : b.last = none → c' = c)
    (hsome : ∀ l, b.last = some l → c' = req.toDelete.intersect l.after) :
    S.Swept s' ∧ s'.Resumable req K c' ∧
      (b.more = false → never.Reaches req.flow req.toDelete s'.store.segments) := by
  obtain ⟨hnext, hnever⟩ :=
    h.batch (hSs.indexed hS) hpost.1 (hpost.2 (Option.not_isSome_iff_eq_none.1 hf))
  exact ⟨hSs.trans hpost.1, hnext c' hnone hsome, hnever⟩

end Service

namespace ServiceM

open Std.Do Service TimeRange

theorem runBatches_resumable (req : DeleteRequest) (timeLeft : Nat → Int) (S : Service)
    (hS : S.Indexed) (K : TimeRange) (fuel : Nat)
    (c : TimeRange) (r : RunReport) :
    ⦃fun s => ⌜S.Swept s ∧ s.Resumable req K c⌝⦄ runBatches req timeLeft fuel c r
    ⦃post⟨fun res s => ⌜S.Swept s ∧ s.Resumable req K res.2.1 ∧
        (res.2.2.2 = none → res.2.2.1 = false → never.Reaches req.flow req.toDelete s.store.segments)⌝,
      fun _ s => ⌜S.Swept s⌝, fun _ s => ⌜S.Swept s⌝⟩⦄ := by
  induction fuel generalizing c r with
  | zero => (mvcgen [runBatches, -runBatches_spec] with simp_all)
  | succ fuel ih =>
    have hrunBatch := @runBatch_done
    mvcgen [runBatches, -runBatches_spec, -runBatch_spec, hrunBatch, ih]
    -- a failed batch hands back the cursor it started from
    case vc1 s₁ hpre res _ hfail s₂ hpost =>
      exact ⟨hpre.1.trans hpost.1, hpre.2.swept hpost.1, by simp⟩
    -- otherwise the batch moves the cursor past its page, and the run goes on from there
    case vc2 s₁ hpre res _ hfail cur hmore s₂ hpost =>
      obtain ⟨hS₂, hR, hnever⟩ := hpre.2.next hS hpre.1 hpost hfail cur
        (fun h => by simp +zetaDelta [h]) (fun l h => by simp +zetaDelta [h])
      exact ⟨hS₂, hR, hnever (by simpa using hmore)⟩
    case vc3 s₁ hpre res _ hfail cur hmore _ _ s₂ hpost _ =>
      obtain ⟨hS₂, hR, -⟩ := hpre.2.next hS hpre.1 hpost hfail cur
        (fun h => by simp +zetaDelta [h]) (fun l h => by simp +zetaDelta [h])
      exact ⟨hS₂, hR, by simp⟩
    case vc4 s₁ hpre res _ hfail cur hmore _ _ s₂ hpost _ =>
      obtain ⟨hS₂, hR, -⟩ := hpre.2.next hS hpre.1 hpost hfail cur
        (fun h => by simp +zetaDelta [h]) (fun l h => by simp +zetaDelta [h])
      exact ⟨hS₂, hR⟩
    all_goals exact fun h => (‹S.Swept _ ∧ _›).1.trans h

end ServiceM

namespace TimeRange

theorem startWithin_self (x : Option Bound) : startWithin x x = true := by
  rcases x with _ | b
  · rfl
  · cases hb : b.closed <;> simp [startWithin, hb]

theorem contains_self (r : TimeRange) : r.contains r = true := by
  cases he : r.isEmpty
  · exact (contains_iff he).2 ⟨he, startWithin_self _, stopWithin_self _⟩
  · simp [contains, he]

end TimeRange

def RequestStatus.Advances (a b : RequestStatus) : Prop :=
  b = a ∨ (a = .created ∧ b = .started) ∨ (a ≠ .done ∧ a ≠ .failed ∧ (b = .done ∨ b = .failed))

/-- What a run of `req` may leave stored in its place, over the segments `segs`. -/
@[mk_iff] structure DeleteRequest.Checkpoint (req req' : DeleteRequest) (segs : List Segment) :
    Prop where
  flow : req'.flow = req.flow
  toDelete : req'.toDelete = req.toDelete
  shrinks : req.remaining.contains req'.remaining = true
  ends : req'.remaining.isEmpty = true ∨ req'.remaining.upper = req.toDelete.upper
  reaches : req'.remaining.Reaches req.flow req.toDelete segs
  advances : req.status.Advances req'.status
  done : req'.status = .done → req' = req ∨ req'.remaining = TimeRange.never

def DeleteRequest.KeptIn (req : DeleteRequest) (segs : List Segment) (reqs : List DeleteRequest) :
    Prop :=
  ∃ r, reqs.find? (·.id == req.id) = some r ∧ req.Checkpoint r segs

def Service.Keeps (req : DeleteRequest) (s : Service) : Prop :=
  req.KeptIn s.store.segments s.store.requests

namespace DeleteRequest

open TimeRange

variable {req r : DeleteRequest} {segs segs' : List Segment}

theorem Checkpoint.refl (hend : req.remaining.isEmpty = true ∨ req.remaining.upper = req.toDelete.upper)
    (h : req.remaining.Reaches req.flow req.toDelete segs) : req.Checkpoint req segs :=
  ⟨rfl, rfl, contains_self _, hend, h, .inl rfl, fun _ => .inl rfl⟩

theorem Checkpoint.mono (h : req.Checkpoint r segs) (hs : ∀ x ∈ segs', x ∈ segs) :
    req.Checkpoint r segs' :=
  { h with reaches := h.reaches.mono hs }

theorem KeptIn.mono {reqs : List DeleteRequest} (h : req.KeptIn segs reqs)
    (hs : ∀ x ∈ segs', x ∈ segs) : req.KeptIn segs' reqs := by
  obtain ⟨r, hr, hc⟩ := h
  exact ⟨r, hr, hc.mono hs⟩

theorem keptIn_iff_getRequest (st : Store) :
    req.KeptIn segs st.requests ↔ ∃ r, st.getRequest req.id = .ok r ∧ req.Checkpoint r segs := by
  unfold KeptIn Store.getRequest
  cases st.requests.find? (·.id == req.id) <;> simp

@[simp] theorem keptIn_putRequest (st : Store) (h : r.id = req.id) :
    req.KeptIn segs (st.putRequest r).requests ↔ req.Checkpoint r segs := by
  have hnone : (st.requests.filter (·.id != r.id)).find? (·.id == req.id) = none := by
    rw [List.find?_eq_none]
    intro x hx
    simpa [h] using (List.mem_filter.1 hx).2
  unfold KeptIn Store.putRequest
  rw [List.find?_append, hnone]
  simp [h]

end DeleteRequest

namespace Service

theorem Keeps.swept {req : DeleteRequest} {s s' : Service} (h : s.Keeps req) (hs : s.Swept s') :
    s'.Keeps req := by
  unfold Keeps at *
  rw [hs.2.1]
  exact h.mono fun _ hx => hs.1.subset hx

end Service

namespace Store

@[simp] theorem segments_putRequest (st : Store) (r : DeleteRequest) :
    (st.putRequest r).segments = st.segments := rfl

end Store

def Store.PlanReaches (st : Store) (flow : String) (T c : TimeRange) : Prop :=
  ∀ seg ∈ st.segments, seg.flow = flow → T.contains seg.range = true →
    ∃ q s, (ServiceM.plan flow { range := some c }).runOn { store := st } = (.ok (.ok (q, true)), s) ∧
      q.selects seg = true

/-- Over a store in key order, the planner reaches from `c` exactly what `c` reaches: it answers
a query only for a range that is not empty and has keys, and that query selects what the range
meets. -/
theorem Store.planReaches_iff {st : Store} {flow : String} {T c : TimeRange}
    (hidx : Store.Indexed st.segments) : st.PlanReaches flow T c ↔ c.Reaches flow T st.segments := by
  constructor
  · intro h seg hs hf hT
    obtain ⟨q, s, hrun, hsel⟩ := h seg hs hf hT
    have he : c.isEmpty = false := by
      cases he : c.isEmpty
      · rfl
      · rw [ServiceM.runOn_plan_empty flow _ rfl rfl he] at hrun
        simp at hrun
    have hk : c.Keyed := by
      by_contra hk
      obtain ⟨e, herr⟩ := ServiceM.runOn_plan_unkeyed flow { range := some c } rfl rfl he hk _
      rw [herr] at hrun
      cases hrun
    obtain ⟨s', hrun', -, -⟩ := ServiceM.runOn_plan_keyed flow { range := some c } rfl rfl he hk
      (s := { store := st }) rfl
    rw [hrun'] at hrun
    obtain ⟨rfl, -⟩ : ServiceM.plannedQuery st flow { range := some c } c = q ∧ _ := by simpa using hrun
    exact ⟨he, hk, ((ServiceM.selects_plannedQuery hidx hk hs hf).1 hsel).1⟩
  · intro h seg hs hf hT
    obtain ⟨he, hk, hm⟩ := h seg hs hf hT
    obtain ⟨s', hrun, -, -⟩ := ServiceM.runOn_plan_keyed flow { range := some c } rfl rfl he hk
      (s := { store := st }) rfl
    exact ⟨_, s', hrun, (ServiceM.selects_plannedQuery hidx hk hs hf).2 ⟨hm, .inl rfl⟩⟩

namespace ServiceM

open Std.Do Service TimeRange

theorem putRequest_stores (r : DeleteRequest) (s₀ : Service) :
    ⦃fun s => ⌜s = s₀⌝⦄ putRequest r
    ⦃post⟨fun _ s => ⌜s.store = s₀.store.putRequest r ∧ s₀.Settled s⌝,
      fun _ s => ⌜s = s₀⌝, fun _ _ => ⌜False⌝⟩⦄ := by
  mvcgen [putRequest, -putRequest_spec] with simp_all +zetaDelta [Service.Settled, Outages.settings]

theorem runBatches_resumes (req₀ req : DeleteRequest) (timeLeft : Nat → Int) (fuel : Nat)
    (c : TimeRange) (r : RunReport) (S : Service) :
    ⦃fun s => ⌜s = S ∧ S.Indexed ∧ S.Resumable req c c ∧
      S.Keeps req₀⌝⦄
    runBatches req timeLeft fuel c r
    ⦃post⟨fun res s => ⌜s.Keeps req₀ ∧ s.Resumable req c res.2.1 ∧
        (res.2.2.2 = none → res.2.2.1 = false → never.Reaches req.flow req.toDelete s.store.segments)⌝,
      fun _ s => ⌜s.Keeps req₀⌝, fun _ s => ⌜s.Keeps req₀⌝⟩⦄ := by
  rintro s ⟨rfl, hS, hR, hK⟩
  refine Triple.entails_wp_of_post (runBatches_resumable req timeLeft s hS c fuel c r) ?_ s
    ⟨swept_refl s, hR⟩
  exact ⟨fun _ _ h => ⟨hK.swept h.1, h.2⟩, fun _ _ h => hK.swept h, fun _ _ h => hK.swept h, trivial⟩

theorem runRequest_keeps (req : DeleteRequest) (timeLeft : Nat → Int) (s₀ : Service)
    (hidx : s₀.Indexed) (hstored : s₀.store.getRequest req.id = .ok req)
    (hend : req.remaining.isEmpty = true ∨ req.remaining.upper = req.toDelete.upper)
    (hreach : req.remaining.Reaches req.flow req.toDelete s₀.store.segments) :
    ⦃fun s => ⌜s = s₀⌝⦄ runRequest req timeLeft ⦃always (Keeps req)⦄ := by
  have hkept : s₀.Keeps req :=
    (DeleteRequest.keptIn_iff_getRequest _).2 ⟨req, hstored, .refl hend hreach⟩
  have hloop := runBatches_resumes req
  mvcgen [runRequest, -runRequest_spec, withStore, -putRequest_spec, putRequest_stores,
    -instant_spec, instant_filed, -runBatches_spec, hloop, -noteFlowDeleted_spec,
    noteFlowDeleted_filed, -scheduleContinuation_spec, scheduleContinuation_filed] with
    (clear hloop
     simp_all +zetaDelta [Keeps, Filed, Bookkept, Settled, DeleteRequest.checkpoint_iff,
      RequestStatus.Advances, TimeRange.contains_never, TimeRange.contains_self, Service.Resumable,
      DeleteRequest.terminal, Service.Indexed, Outages.settings])

/-- A run of a delete request leaves, under its id, a request with the same flow and range to
delete, whose remaining range only shrank, still ends where the range to delete ends unless
nothing remains, and still leads the planner to every segment of the flow that the range to
delete holds; its status only moved forward, to done only with nothing remaining. A request
that is done or failed is answered as it is, with nothing read or written. -/
theorem run_request_keeps_checkpoint (req : DeleteRequest) (timeLeft : Nat → Int) (s₀ : Service)
    (hidx : s₀.Indexed) (hstored : s₀.store.getRequest req.id = .ok req)
    (hend : req.remaining.isEmpty = true ∨ req.remaining.upper = req.toDelete.upper)
    (hreach : s₀.store.PlanReaches req.flow req.toDelete req.remaining) :
    let s := ((runRequest req timeLeft).runOn s₀).2
    (∃ req', s.store.getRequest req.id = .ok req' ∧ req'.flow = req.flow ∧
      req'.toDelete = req.toDelete ∧ req.remaining.contains req'.remaining = true ∧
      (req'.remaining.isEmpty = true ∨ req'.remaining.upper = req.toDelete.upper) ∧
      s.store.PlanReaches req.flow req.toDelete req'.remaining ∧
      req.status.Advances req'.status ∧
      (req'.status = .done → req' = req ∨ req'.remaining = TimeRange.never)) ∧
    (req.terminal = true →
      (runRequest req timeLeft).runOn s₀ = (.ok (.ok ({ status := req.status }, req)), s₀)) := by
  intro s
  have hkeeps : s.Keeps req := runOn_ends (E := fun r => r.2.Keeps req)
    (runRequest_keeps req timeLeft s₀ hidx hstored hend ((Store.planReaches_iff hidx).1 hreach))
    s₀ rfl
  have hsub : s.store.segments.Sublist s₀.store.segments :=
    runOn_ends (E := fun r => r.2.Within s₀.store.segments) (runRequest_spec _ req timeLeft) s₀
      (List.Sublist.refl _)
  obtain ⟨req', hget, hc⟩ := (DeleteRequest.keptIn_iff_getRequest _).1 hkeeps
  refine ⟨⟨req', hget, hc.flow, hc.toDelete, hc.shrinks, hc.ends,
    (Store.planReaches_iff (Store.Indexed.sublist hidx hsub)).2 hc.reaches, hc.advances, hc.done⟩, ?_⟩
  intro hterm
  simp only [runRequest, hterm, if_true]
  rfl

/-- Batches of one segment over a whole flow of two, with the second query refused: the first
segment goes, and the request is stored failed with a cursor that still reaches the second. -/
theorem run_request_keeps_checkpoint_after_outage :
    let seg₁ : Segment := ⟨"f", "o1", ⟨some ⟨⟨0⟩, true⟩, some ⟨⟨1000000000⟩, false⟩⟩, "", "",
      none, none, none, [], 0, 999999999⟩
    let seg₂ : Segment := ⟨"f", "o2", ⟨some ⟨⟨1000000000⟩, true⟩, some ⟨⟨2000000000⟩, false⟩⟩,
      "", "", none, none, none, [], 1000000000, 1999999999⟩
    let req : DeleteRequest :=
      ⟨"d", "f", false, .eternity, .eternity, .created, none, "", .zero, .zero⟩
    let s₀ : Service := { config := { batchSize := 1 },
                          store := { segments := [seg₁, seg₂], byObject := [seg₁, seg₂],
                                     requests := [req] },
                          outages := { queryAfter := some 1 } }
    let s := ((runRequest req fun _ => 10000000000).runOn s₀).2
    s₀.Indexed ∧ s.store.segments = [seg₂] ∧
      ∃ req', s.store.getRequest "d" = .ok req' ∧ req'.status = .failed ∧
        req'.toDelete = .eternity ∧ s.store.PlanReaches "f" .eternity req'.remaining := by
  intro seg₁ seg₂ req s₀ s
  have hidx : s₀.Indexed := by decide
  have hreach : s₀.store.PlanReaches "f" .eternity .eternity :=
    (Store.planReaches_iff hidx).2 fun seg _ _ _ => ⟨rfl, keyed_eternity, meetsOnGrid_eternity seg⟩
  have hrun : s.store.segments = [seg₂] ∧
      (s.store.getRequest "d").toOption.map (·.status) = some .failed := by
    decide +kernel
  obtain ⟨⟨req', hget, -, hdel, -, -, hplan, -⟩, -⟩ :=
    run_request_keeps_checkpoint req (fun _ => 10000000000) s₀ hidx rfl (.inr rfl) hreach
  have hget' : s.store.getRequest "d" = .ok req' := hget
  have hst : req'.status = .failed := by
    simpa [hget', Except.toOption] using hrun.2
  exact ⟨hidx, hrun.1, req', hget', hst, hdel, hplan⟩

/-- With batches of one segment, a request whose remaining range ends before its range to
delete is checkpointed past that end: the cursor after the first segment runs on to the end of
the range to delete, outside the remaining range it started from. -/
theorem checkpoint_outruns_remaining :
    let seg₁ : Segment := ⟨"f", "o1", ⟨some ⟨⟨1000000000⟩, true⟩, some ⟨⟨2000000000⟩, false⟩⟩,
      "", "", none, none, none, [], 1000000000, 1999999999⟩
    let seg₂ : Segment := ⟨"f", "o2", ⟨some ⟨⟨2000000000⟩, true⟩, some ⟨⟨3000000000⟩, false⟩⟩,
      "", "", none, none, none, [], 2000000000, 2999999999⟩
    let req : DeleteRequest := ⟨"r1", "f", false,
      ⟨some ⟨⟨0⟩, true⟩, some ⟨⟨10000000000⟩, false⟩⟩, ⟨some ⟨⟨0⟩, true⟩, some ⟨⟨3000000000⟩, false⟩⟩,
      .created, none, "", .zero, .zero⟩
    let s₀ : Service :=
      { config := { batchSize := 1 },
        store := { segments := [seg₁, seg₂], byObject := [seg₁, seg₂], requests := [req] } }
    ∃ req', ((runRequest req fun _ => 0).runOn s₀).2.store.getRequest "r1" = .ok req' ∧
      req'.remaining = ⟨some ⟨⟨2000000000⟩, true⟩, some ⟨⟨10000000000⟩, false⟩⟩ ∧
      req.remaining.contains req'.remaining = false := by
  intro seg₁ seg₂ req s₀
  have hrun : ((((runRequest req fun _ => 0).runOn s₀).2.store.getRequest "r1").toOption.map fun r =>
      decide (r.remaining = ⟨some ⟨⟨2000000000⟩, true⟩, some ⟨⟨10000000000⟩, false⟩⟩) &&
        !req.remaining.contains r.remaining) = some true := by
    decide +kernel
  rcases hget : ((runRequest req fun _ => 0).runOn s₀).2.store.getRequest "r1" with e | r
  all_goals rw [hget] at hrun
  · cases hrun
  · simp only [Except.toOption, Option.map_some, Option.some.injEq, Bool.and_eq_true,
      decide_eq_true_eq, Bool.not_eq_true'] at hrun
    exact ⟨r, rfl, hrun⟩

end ServiceM

end MediaTimeline

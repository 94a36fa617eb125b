import Mathlib
import MediaTimeline.Proofs.NextCursor

/-! Runs of a delete request in which no call fails. -/

namespace MediaTimeline

namespace Cleanup

open JsonValue

theorem size_renderItems_cons_cons (a b : JsonValue) (vs : List JsonValue) :
    (renderItems (a :: b :: vs)).utf8ByteSize =
      (render a).utf8ByteSize + 1 + (renderItems (b :: vs)).utf8ByteSize := by
  simp [renderItems, String.utf8ByteSize_append]
  rfl

theorem size_renderItems_le_cons (a : JsonValue) (vs : List JsonValue) :
    (renderItems vs).utf8ByteSize ≤ (renderItems (a :: vs)).utf8ByteSize := by
  cases vs with
  | nil => simp [renderItems]
  | cons b vs => rw [size_renderItems_cons_cons]; omega

theorem size_renderItems_le {vs ws : List JsonValue} (h : vs.Sublist ws) :
    (renderItems vs).utf8ByteSize ≤ (renderItems ws).utf8ByteSize := by
  induction h with
  | slnil => exact le_rfl
  | cons a _ ih => exact ih.trans (size_renderItems_le_cons a _)
  | @cons_cons vs ws a h ih =>
    match vs, ws, h with
    | [], ws, _ =>
      cases ws with
      | nil => exact le_rfl
      | cons b ws => rw [size_renderItems_cons_cons]; simp only [renderItems]; omega
    | v :: vs, w :: ws, _ => rw [size_renderItems_cons_cons, size_renderItems_cons_cons]; omega

theorem arraySize_eq (ids : List String) :
    arraySize ids = (renderItems (ids.map .str)).utf8ByteSize + 2 := by
  have hl : ("[" : String).utf8ByteSize = 1 := by decide
  have hr : ("]" : String).utf8ByteSize = 1 := by decide
  simp [arraySize, render, String.utf8ByteSize_append, hl, hr]
  omega

theorem arraySize_le {ids ids' : List String} (h : ids.Sublist ids') : arraySize ids ≤ arraySize ids' := by
  rw [arraySize_eq, arraySize_eq]
  exact Nat.add_le_add_right (size_renderItems_le (h.map _)) 2

/-- Ids are packed into batches whenever the array of all of them and the cap stay below the
largest 64-bit integer: only a wrapped batch count stops the packing. -/
theorem pack_ok {ids : List String} {cap : Int} (hcap : 0 < cap)
    (hfit : (arraySize ids : Int) + cap ≤ 2 ^ 63) : ∃ bs, pack ids cap = .ok bs := by
  unfold pack
  split_ifs with hids hz
  · exact ⟨_, rfl⟩
  · exact absurd hcap (not_lt.2 hz)
  have hsize : 2 ≤ arraySize ids := by rw [arraySize_eq]; omega
  have hwrap : wrap64 (arraySize ids + cap - 1) = arraySize ids + cap - 1 := by
    unfold wrap64
    rw [Int.emod_eq_of_lt (by omega) (by omega)]
    omega
  have hcount : 1 ≤ (wrap64 (arraySize ids + cap - 1)).tdiv cap := by
    rw [hwrap, Int.tdiv_eq_ediv_of_nonneg (by omega), Int.le_ediv_iff_mul_le hcap]
    omega
  dsimp only
  rw [if_neg (by omega), if_neg (by omega)]
  exact ⟨_, rfl⟩

end Cleanup

namespace Store

theorem addNew_sublist (held ids : List String) : (addNew held ids).Sublist (held ++ ids) := by
  induction ids generalizing held with
  | nil => simp [addNew]
  | cons i ids ih =>
    rw [addNew_cons]
    split_ifs with hi
    · exact (ih held).trans ((List.sublist_cons_self i ids).append_left held)
    · simpa using ih (held ++ [i])

end Store

/-- A state in which no call of a run of a delete request fails: the store is indexed, queries,
removals and request writes are answered, the queue takes every task, and the array of all stored
objects fits below the largest 64-bit integer together with the cleanup cap. -/
structure Service.Calm (s : Service) : Prop where
  indexed : s.Indexed
  queries : s.outages.queryAfter = none
  deletes : s.outages.deleteAfter = none
  requests : s.outages.putRequestAfter = none
  tasks : s.TakesTasks
  fits : (Cleanup.arraySize (s.store.segments.map (·.object)) : Int) +
    max (s.config.maxMessageSize - ServiceM.cleanupEnvelope) 1 ≤ 2 ^ 63

namespace Service

theorem Calm.of_settled {s s' : Service} (h : s.Calm) (hs : s.Settled s')
    (hsub : s'.store.segments.Sublist s.store.segments) : s'.Calm where
  indexed := Store.Indexed.sublist h.indexed hsub
  queries := (congrArg Outages.queryAfter hs.2.1).trans h.queries
  deletes := (congrArg Outages.deleteAfter hs.2.1).trans h.deletes
  requests := (congrArg Outages.putRequestAfter hs.2.1).trans h.requests
  tasks := h.tasks.of_settled hs
  fits := by
    rw [hs.1]
    exact le_trans (by simpa using Cleanup.arraySize_le (hsub.map (·.object))) h.fits

theorem Calm.of_swept {s s' : Service} (h : s.Calm) (hs : s.Swept s') : s'.Calm :=
  h.of_settled hs.2.2 hs.1

end Service

def cleanupPayloads (ts : List Task) : List String :=
  (ts.filter (·.kind = objectCleanupTask)).map (·.payload)

@[simp] theorem cleanupPayloads_append (ts ts' : List Task) :
    cleanupPayloads (ts ++ ts') = cleanupPayloads ts ++ cleanupPayloads ts' := by
  simp [cleanupPayloads]

theorem cleanupPayloads_of_work {ts : List Task} {bs : List (List String)}
    (h : ts.map Task.work = ServiceM.cleanupWork bs) :
    cleanupPayloads ts = bs.map fun b => (ServiceM.cleanupDoc b).render := by
  induction ts generalizing bs with
  | nil =>
    cases bs with
    | nil => rfl
    | cons b bs => simp [ServiceM.cleanupWork] at h
  | cons t ts ih =>
    cases bs with
    | nil => simp [ServiceM.cleanupWork] at h
    | cons b bs =>
      simp only [List.map_cons, ServiceM.cleanupWork, List.cons.injEq, Task.work, Prod.mk.injEq] at h
      obtain ⟨⟨hk, hp⟩, hrest⟩ := h
      simp [cleanupPayloads, hk, hp, ← ih hrest]

theorem cleanupPayloads_of_event {ts : List Task} {events : Bool} {p : String}
    (h : ts.map Task.work = if events then [(eventTask, p)] else []) : cleanupPayloads ts = [] := by
  split_ifs at h
  · obtain ⟨t, rfl⟩ : ∃ t, ts = [t] := List.length_eq_one_iff.1 (by simpa using congrArg List.length h)
    simp only [List.map_cons, List.map_nil, List.cons.injEq, Task.work, Prod.mk.injEq, and_true] at h
    simp [cleanupPayloads, h.1, eventTask, objectCleanupTask]
  · simp [List.map_eq_nil_iff.1 h, cleanupPayloads]

namespace Service

def Queued (s s' : Service) (bs : List (List String)) : Prop :=
  ∃ extra, s'.accepted = s.accepted ++ extra ∧
    cleanupPayloads extra = bs.map fun b => (ServiceM.cleanupDoc b).render

theorem queued_of_accepted {s s' : Service} (h : s'.accepted = s.accepted) : s.Queued s' [] :=
  ⟨[], by simp [h], rfl⟩

theorem Queued.of_accepted {s s₁ s₂ : Service} {bs : List (List String)} (h : s.Queued s₁ bs)
    (h' : s₂.accepted = s₁.accepted) : s.Queued s₂ bs := by
  obtain ⟨e, ha, hp⟩ := h
  exact ⟨e, h'.trans ha, hp⟩

theorem Queued.of_accepted_left {s s₁ s₂ : Service} {bs : List (List String)} (h : s₁.Queued s₂ bs)
    (h' : s₁.accepted = s.accepted) : s.Queued s₂ bs := by
  obtain ⟨e, ha, hp⟩ := h
  exact ⟨e, by rw [ha, h'], hp⟩

theorem Queued.trans_nil {s₁ s₂ s₃ : Service} {bs : List (List String)} (h₁ : s₁.Queued s₂ bs)
    (h₂ : s₂.Queued s₃ []) : s₁.Queued s₃ bs := by
  obtain ⟨e₁, ha₁, hp₁⟩ := h₁
  obtain ⟨e₂, ha₂, hp₂⟩ := h₂
  exact ⟨e₁ ++ e₂, by rw [ha₂, ha₁, List.append_assoc],
    by rw [cleanupPayloads_append, hp₁, hp₂, List.map_nil, List.append_nil]⟩

theorem Queued.trans {s₁ s₂ s₃ : Service} {bs bs' : List (List String)} (h₁ : s₁.Queued s₂ bs)
    (h₂ : s₂.Queued s₃ bs') : s₁.Queued s₃ (bs ++ bs') := by
  obtain ⟨e₁, ha₁, hp₁⟩ := h₁
  obtain ⟨e₂, ha₂, hp₂⟩ := h₂
  exact ⟨e₁ ++ e₂, by rw [ha₂, ha₁, List.append_assoc],
    by rw [cleanupPayloads_append, hp₁, hp₂, List.map_append]⟩

end Service

namespace ServiceM

def cleanupBatches (cap : Int) (items : List Segment) : List (List String) :=
  match Cleanup.pack (Store.addNew [] (items.map (·.object))) cap with
  | .ok bs => bs
  | .error _ => []

theorem runOn_runBatch_calm (flow : String) (T c : TimeRange) {s : Service} (hs : s.Calm)
    (hne : c.isEmpty = false) (hk : c.Keyed) :
    ∃ (b : BatchReport) (s' : Service), (runBatch flow T c).runOn s = (.ok (.ok (b, none)), s') ∧
      b.deleted = (trimEnds T (·.range) (batchPage s.store flow s.config.batchSize c).segments).length ∧
      s.Queued s' (cleanupBatches (max (s.config.maxMessageSize - cleanupEnvelope) 1)
        (trimEnds T (·.range) (batchPage s.store flow s.config.batchSize c).segments)) := by
  obtain ⟨s₁, hplan, hst₁, hqa₁⟩ := runOn_plan_keyed flow
    { range := some c, limit := s.config.batchSize } rfl rfl hne hk hs.queries
  have hq₁ := runOn_of_always (plan_quiet_spec s flow { range := some c, limit := s.config.batchSize })
    (s := s) ⟨rfl, rfl, rfl, rfl, rfl⟩
  rw [hplan] at hq₁
  obtain ⟨-, hqueue₁, hacc₁, hcfg₁, hset₁⟩ := hq₁
  have hcount : countCall s₁.outages.queryAfter s₁.outages.queries = false := by
    simp [countCall, hqa₁]
  simp only [runBatch, runOn_bind, runOn_get, runOn_tryCatch, runOn_map, hplan, runOn_query,
    hcount, Bool.false_eq_true, if_false, hst₁, query_plannedQuery]
  set items := trimEnds T (·.range) (batchPage s.store flow s.config.batchSize c).segments
  have hsub : items.Sublist s.store.segments := (trimEnds_sublist _).trans (batchPage_sublist _ _ _ _)
  obtain ⟨k, -, failure, s₃, hrb, -, hset₃, hacc₃, hfail, hnone⟩ :=
    runOn_removeBatch flow items 0 TimeRange.never []
      { s₁ with outages := { s₁.outages with queries := s₁.outages.queries + 1 } }
      (by rw [hst₁]; exact hsub) fun i hi => flow_of_mem_batchPage ((trimEnds_sublist _).subset hi)
  obtain rfl := hnone ((congrArg Outages.deleteAfter hset₁).trans hs.deletes)
  obtain rfl : k = items.length := hfail.1 rfl
  rw [List.take_length, hst₁] at hrb
  simp only [hrb]
  have hset₀ : s.Settled s₃ :=
    (show s.Settled s₁ from ⟨hcfg₁, hset₁, by rw [hqueue₁]⟩).trans hset₃
  have hacc₀ : s₃.accepted = s.accepted := hacc₃.trans hacc₁
  rcases hlen : items.length with _ | j
  · -- an empty batch removes and sends nothing
    simp only [List.eq_nil_of_length_eq_zero hlen, Nat.add_zero, Nat.lt_irrefl, if_false,
      List.map_nil, Store.addNew_nil, List.isEmpty_nil, if_true, runOn_pure]
    refine ⟨_, s₃, rfl, rfl, ?_⟩
    simpa [cleanupBatches, Cleanup.pack] using Service.queued_of_accepted hacc₀
  have hobjs : (Store.addNew [] (items.map (·.object))).isEmpty = false := by
    rw [List.isEmpty_eq_false_iff]
    exact Store.addNew_ne_nil (by simpa using List.ne_nil_of_length_pos (by omega : 0 < items.length))
  simp only [show 0 < 0 + (j + 1) by omega, if_true, runOn_bind]
  obtain ⟨st₄, htouch, -, -⟩ := runOn_touchFlow_quiet flow s₃
  obtain ⟨s₅, p, ts, hnote, hacc₅, hwork₅, -, -, -, -, -, hcfg₅, -, hup₅⟩ :=
    runOn_noteSegmentsDeleted flow ((items.map (·.range)).foldl TimeRange.extend TimeRange.never)
      ↑(0 + (j + 1)) { s₃ with clock := s₃.clock + 1, store := st₄ } (hs.tasks.of_settled hset₀)
  simp only [htouch, hnote, hobjs, Bool.false_eq_true, if_false, runOn_bind, runOn_tryCatch,
    runOn_map]
  have hcap : max (s₅.config.maxMessageSize - cleanupEnvelope) 1 =
      max (s.config.maxMessageSize - cleanupEnvelope) 1 := by
    rw [hcfg₅, show s₃.config = s.config from hset₀.1]
  have hfit : (Cleanup.arraySize (Store.addNew [] (items.map (·.object))) : Int) +
      max (s₅.config.maxMessageSize - cleanupEnvelope) 1 ≤ 2 ^ 63 := by
    have hle := Cleanup.arraySize_le
      ((Store.addNew_sublist [] (items.map (·.object))).trans (by simpa using hsub.map (·.object)))
    rw [hcap]
    exact le_trans (by simpa using hle) hs.fits
  obtain ⟨bs, hpack⟩ := Cleanup.pack_ok (lt_max_of_lt_right one_pos) hfit
  have hd := runOn_dispatch (Store.addNew [] (items.map (·.object))) s₅ hup₅
  rw [hpack] at hd
  obtain ⟨s₆, ts', hdisp, hacc₆, hwork₆, -⟩ := hd
  simp only [hdisp, runOn_pure]
  refine ⟨_, s₆, rfl, Nat.zero_add _, ts ++ ts', ?_, ?_⟩
  · rw [hacc₆, hacc₅, ← List.append_assoc]
    exact congrArg (· ++ ts ++ ts') hacc₀
  · rw [hcap] at hpack
    rw [cleanupPayloads_append, cleanupPayloads_of_event hwork₅, cleanupPayloads_of_work hwork₆,
      List.nil_append, cleanupBatches, hpack]

theorem runOn_runBatch_empty (flow : String) (T : TimeRange) {c : TimeRange} (he : c.isEmpty = true)
    (s : Service) : (runBatch flow T c).runOn s = (.ok (.ok ({}, none)), s) := by
  simp [runBatch, runOn_bind, runOn_tryCatch, runOn_map,
    runOn_plan_empty flow { range := some c, limit := s.config.batchSize } rfl rfl he]

/-- In a calm state a batch from a cursor with keys removes what the range to delete holds of its
page, hands the objects of what it removed to cleanup and reports the page. -/
theorem runBatch_calm (flow : String) (T c : TimeRange) {s : Service} (hs : s.Calm)
    (hne : c.isEmpty = false) (hk : c.Keyed) :
    ∃ (b : BatchReport) (s' : Service), (runBatch flow T c).runOn s = (.ok (.ok (b, none)), s') ∧
      b.deleted = (trimEnds T (·.range) (batchPage s.store flow s.config.batchSize c).segments).length ∧
      s.Swept s' ∧ s.BatchDone flow T c b s' ∧
      s.Queued s' (cleanupBatches (max (s.config.maxMessageSize - cleanupEnvelope) 1)
        (trimEnds T (·.range) (batchPage s.store flow s.config.batchSize c).segments)) := by
  obtain ⟨b, s', hrun, hdel, hqueued⟩ := runOn_runBatch_calm flow T c hs hne hk
  have hdone := runOn_of_triple (runBatch_done flow T c s) s rfl
  rw [hrun] at hdone
  exact ⟨b, s', hrun, hdel, hdone.1, hdone.2 rfl, hqueued⟩

end ServiceM

namespace TimeRange

def IsCursor (T c : TimeRange) : Prop :=
  c.isEmpty = true ∨ (c.isEmpty = false ∧ c.Keyed ∧ T.contains c = true ∧ c.upper = T.upper)

end TimeRange

namespace ServiceM

open TimeRange

def pending (st : Store) (flow : String) (size : Int) (c : TimeRange) : List Segment :=
  if c.isEmpty then [] else batchMatches st flow size c

def batchCount (m size : Nat) : Nat := max 1 ((m + size - 1) / size)

section Count

variable {m size : Nat}

theorem one_le_batchCount : 1 ≤ batchCount m size := le_max_left _ _

theorem batchCount_of_le (hsize : 0 < size) (h : m ≤ size) : batchCount m size = 1 := by
  have : (m + size - 1) / size < 2 := (Nat.div_lt_iff_lt_mul hsize).2 (by omega)
  unfold batchCount
  omega

theorem batchCount_of_lt (hsize : 0 < size) (h : size < m) :
    batchCount m size = batchCount (m - size) size + 1 := by
  have hpos : 1 ≤ (m - 1) / size := (Nat.le_div_iff_mul_le hsize).2 (by omega)
  unfold batchCount
  rw [show m + size - 1 = (m - 1) + size by omega, Nat.add_div_right _ hsize,
    show m - size + size - 1 = m - 1 by omega]
  omega

theorem batchCount_le (hsize : 0 < size) : batchCount m size ≤ m + 1 := by
  rcases Nat.eq_zero_or_pos m with rfl | hm
  · have : (0 + size - 1) / size = 0 := Nat.div_eq_of_lt (by omega)
    unfold batchCount
    omega
  · have : (m + size - 1) / size ≤ m := by
      refine Nat.div_le_of_le_mul ?_
      have := Nat.le_mul_of_pos_left (m - 1) hsize
      rw [show size * m = size * (m - 1) + size by
        rw [← Nat.mul_add_one, Nat.sub_add_cancel hm]]
      omega
    unfold batchCount
    omega

theorem mul_lt_of_lt_batchCount {j : Nat} (hsize : 0 < size) (hj : 0 < j) (h : j < batchCount m size) :
    j * size < m := by
  have hle : j + 1 ≤ (m + size - 1) / size := by unfold batchCount at h; omega
  have := (Nat.le_div_iff_mul_le hsize).1 hle
  rw [Nat.add_mul, Nat.one_mul] at this
  omega

theorem batchCount_sub_mul (hsize : 0 < size) :
    ∀ {j : Nat}, j * size < m → batchCount (m - j * size) size + j = batchCount m size
  | 0, _ => by simp
  | j + 1, h => by
    have hj : j * size < m := lt_of_le_of_lt (Nat.mul_le_mul_right size (Nat.le_succ j)) h
    have hlt : size < m - j * size := by rw [Nat.add_mul, Nat.one_mul] at h; omega
    rw [← batchCount_sub_mul hsize hj, batchCount_of_lt hsize hlt, Nat.add_mul, Nat.one_mul,
      Nat.sub_sub]
    omega

theorem le_batchCount_mul (hsize : 0 < size) : m ≤ batchCount m size * size := by
  have hdm := Nat.div_add_mod (m + size - 1) size
  have hlt := Nat.mod_lt (m + size - 1) hsize
  have hle : (m + size - 1) / size * size ≤ batchCount m size * size :=
    Nat.mul_le_mul_right size (le_max_right _ _)
  rw [Nat.mul_comm] at hdm
  omega

theorem take_batchCount {α : Type} (hsize : 0 < size) (l : List α) :
    l.take (batchCount l.length size * size) = l :=
  List.take_of_length_le (le_batchCount_mul hsize)

end Count

theorem pending_congr {st st' : Store} (h : st.segments = st'.segments) (flow : String) (size : Int)
    (c : TimeRange) : pending st flow size c = pending st' flow size c := by
  have ha : anchorOf st flow = anchorOf st' flow := by
    funext b
    simp only [anchorOf, Store.query_congr h]
  simp only [pending, batchMatches, plannedQuery, Store.queryMatches, h, ha]

theorem pending_sublist (st : Store) (flow : String) (size : Int) (c : TimeRange) :
    (pending st flow size c).Sublist st.segments := by
  unfold pending
  split_ifs
  · exact List.nil_sublist _
  · exact batchMatches_sublist st flow size c

theorem batchCount_pending_le (st : Store) (flow : String) (c : TimeRange) {n : Nat} (hn : 0 < n) :
    batchCount (pending st flow n c).length n ≤ st.segments.length + 1 :=
  (batchCount_le hn).trans (Nat.succ_le_succ (pending_sublist st flow n c).length_le)

variable {st : Store} {flow : String} {size : Int} {T c : TimeRange}

theorem batchMatches_pairwise :
    (batchMatches st flow size c).Pairwise fun a b => a.stop < b.stop :=
  (Store.pairwise_queryMatches _ _).imp fun h => by
    simpa [SegmentQuery.ahead, plannedQuery] using h

theorem trimEnds_batchPage (hidx : Store.Indexed st.segments) (hne : c.isEmpty = false)
    (hk : c.Keyed) (hT : T.contains c = true) (hsize : 0 < size) :
    trimEnds T (·.range) (batchPage st flow size c).segments =
      ((batchMatches st flow size c).take size.toNat).filter (T.contains ·.range) := by
  have hpage : (batchPage st flow size c).segments = (batchMatches st flow size c).take size.toNat :=
    (batchPage_eq hidx.ends64 hsize).1
  refine eq_of_sublist_of_mem_iff ((trimEnds_sublist _).trans (batchPage_sublist _ _ _ _))
    (hpage ▸ (List.filter_sublist.trans (batchPage_sublist _ _ _ _))) (Store.Ordered.nodup hidx.ordered)
    fun x => ?_
  rw [mem_trimEnds_page hidx hne hk hT, List.mem_filter, hpage]

theorem isCursor_after (hidx : Store.Indexed st.segments) (hk : c.Keyed) (hcne : c.isEmpty = false)
    (hT : T.contains c = true) (hend : c.upper = T.upper) {L x : Segment}
    (hL : L ∈ batchMatches st flow size c) (hx : x ∈ batchMatches st flow size c)
    (hlt : L.stop < x.stop) :
    (T.intersect L.range.after).isEmpty = false ∧ (T.intersect L.range.after).Keyed ∧
      T.contains (T.intersect L.range.after) = true ∧ (T.intersect L.range.after).upper = T.upper := by
  obtain ⟨hne', hk', -⟩ := next_cursor_meets hidx hk hT hend hL hx hlt
  obtain ⟨hLne, -, -, hLz⟩ := Segment.keysOf_eq_ok.1 (hidx.keyed L ((mem_batchMatches hidx hk).1 hL).1)
  obtain ⟨u, hu, -⟩ := stopKey_eq_ok hLz
  refine ⟨hne', hk', contains_trans hT (contains_next hidx hk hcne hend hL), ?_⟩
  rw [intersect_eq hne', after_eq hLne hu, meetEnds_none]

theorem isCursor_next (hidx : Store.Indexed st.segments) (hk : c.Keyed) (hcne : c.isEmpty = false)
    (hT : T.contains c = true) (hend : c.upper = T.upper) {L : Segment}
    (hmore : size.toNat < (batchMatches st flow size c).length)
    (hL : ((batchMatches st flow size c).take size.toNat).getLast? = some L) :
    (T.intersect L.range.after).isEmpty = false ∧ (T.intersect L.range.after).Keyed ∧
      T.contains (T.intersect L.range.after) = true ∧ (T.intersect L.range.after).upper = T.upper := by
  set ms := batchMatches st flow size c
  have hLm : L ∈ ms.take size.toNat := List.mem_of_getLast? hL
  obtain ⟨x, hx⟩ := List.exists_mem_of_ne_nil (ms.drop size.toNat)
    (by simp only [ne_eq, List.drop_eq_nil_iff, not_le]; exact hmore)
  have hlt : L.stop < x.stop := by
    have hp : ms.Pairwise fun a b => a.stop < b.stop := batchMatches_pairwise
    rw [← List.take_append_drop size.toNat ms, List.pairwise_append] at hp
    exact hp.2.2 L hLm x hx
  exact isCursor_after hidx hk hcne hT hend (List.mem_of_mem_take hLm) (List.mem_of_mem_drop hx) hlt

/-- One turn of the loop over batches from a cursor with keys in a calm state: the batch removes
what the range to delete holds of the first matches, and the loop ends when no matches are left
past them, stops when the time left is down to the margin, and else goes on past the page. -/
theorem runOn_runBatches_succ (req : DeleteRequest) (timeLeft : Nat → Int) (fuel : Nat)
    (r : RunReport) {s : Service} (hs : s.Calm) {n : Nat} (hn : 0 < n) (hsize : s.config.batchSize = n)
    (hne : c.isEmpty = false) (hk : c.Keyed) (hT : req.toDelete.contains c = true) :
    ∃ (b : BatchReport) (s₁ : Service), s.Swept s₁ ∧
      b.deleted = (((batchMatches s.store req.flow n c).take n).filter
        (req.toDelete.contains ·.range)).length ∧
      b.last = ((batchMatches s.store req.flow n c).take n).getLast?.map (·.range) ∧
      s₁.store.segments = s.store.segments.filter
        (· ∉ ((batchMatches s.store req.flow n c).take n).filter (req.toDelete.contains ·.range)) ∧
      s.Queued s₁ (cleanupBatches (max (s.config.maxMessageSize - cleanupEnvelope) 1)
        (((batchMatches s.store req.flow n c).take n).filter (req.toDelete.contains ·.range))) ∧
      (runBatches req timeLeft (fuel + 1) c r).runOn s =
        if (batchMatches s.store req.flow n c).length ≤ n then
          (.ok (.ok ({ r with batches := r.batches + 1, deleted := r.deleted + b.deleted,
                              objects := r.objects + b.objects },
            (match b.last with | some l => req.toDelete.intersect l.after | none => c), false, none)), s₁)
        else if timeLeft r.budgetReads ≤ s.config.safetyMargin then
          (.ok (.ok ({ r with batches := r.batches + 1, deleted := r.deleted + b.deleted,
                              objects := r.objects + b.objects, budgetReads := r.budgetReads + 1 },
            (match b.last with | some l => req.toDelete.intersect l.after | none => c), true, none)), s₁)
        else
          (runBatches req timeLeft fuel
            (match b.last with | some l => req.toDelete.intersect l.after | none => c)
            { r with batches := r.batches + 1, deleted := r.deleted + b.deleted,
                     objects := r.objects + b.objects, budgetReads := r.budgetReads + 1 }).runOn s₁ := by
  obtain ⟨b, s₁, hrun, hdel, hsw, hdone, hq⟩ := runBatch_calm req.flow req.toDelete c hs hne hk
  simp only [Service.BatchDone, hne, Bool.false_eq_true, if_false] at hdone
  obtain ⟨-, hmore, hlast, hseg⟩ := hdone
  have hpos : (0 : Int) < n := by exact_mod_cast hn
  rw [hsize] at hdel hmore hlast hseg hq
  rw [trimEnds_batchPage hs.indexed hne hk hT hpos, Int.toNat_natCast] at hdel hseg hq
  have hpage : (batchPage s.store req.flow n c).segments = (batchMatches s.store req.flow n c).take n ∧
      ((batchPage s.store req.flow n c).lastKey.isSome ↔ n < (batchMatches s.store req.flow n c).length) := by
    simpa using batchPage_eq (Store.Indexed.ends64 hs.indexed) hpos
  rw [hpage.1] at hlast
  refine ⟨b, s₁, hsw, hdel, hlast, hseg, hq, ?_⟩
  simp only [runBatches, runOn_bind, hrun, Option.isSome_none, Bool.false_eq_true, if_false]
  -- the batch leaves matches behind exactly when its page hands on a key
  by_cases hle : (batchMatches s.store req.flow n c).length ≤ n
  · have hm : b.more = false := by
      rw [hmore]
      cases h : (batchPage s.store req.flow n c).lastKey.isSome
      · rfl
      · exact absurd (hpage.2.1 h) (by omega)
    rcases b.last with _ | l
    all_goals simp only [hm, Bool.not_false, runOn_pure, hle, ↓reduceIte]
  · have hm : b.more = true := by rw [hmore]; exact hpage.2.2 (by omega)
    simp only [hm, Bool.not_true, Bool.false_eq_true, if_false, runOn_bind, runOn_get, hsw.2.2.1, hle]
    split_ifs <;> rfl

/-- The batches of object ids that cleanup gets from the first `j` pages of `n` matches: for each
page, the objects of what the range to delete holds of it. -/
def pagesCleanup (T : TimeRange) (cap : Int) (n : Nat) : List Segment → Nat → List (List String)
  | _, 0 => []
  | ms, j + 1 => cleanupBatches cap ((ms.take n).filter (T.contains ·.range)) ++
      pagesCleanup T cap n (ms.drop n) j

theorem pagesCleanup_add (T : TimeRange) (cap : Int) (n : Nat) :
    ∀ (j k : Nat) (ms : List Segment),
      pagesCleanup T cap n ms (j + k) = pagesCleanup T cap n ms j ++ pagesCleanup T cap n (ms.drop (j * n)) k
  | 0, k, ms => by simp [pagesCleanup]
  | j + 1, k, ms => by
    rw [show j + 1 + k = (j + k) + 1 by omega, pagesCleanup, pagesCleanup, pagesCleanup_add T cap n j k,
      List.drop_drop, List.append_assoc, show n + j * n = (j + 1) * n by ring]

theorem filter_notMem_filter_notMem_append (l a d : List Segment) :
    (l.filter (· ∉ a)).filter (· ∉ d) = l.filter (· ∉ a ++ d) := by
  rw [List.filter_filter]
  refine List.filter_congr fun x _ => ?_
  simp [Bool.and_comm]

/-- The loop over batches from a cursor in a calm state, with fuel for every batch its matches
take. It makes `j` batches, at least one and at most the count of its matches: together they
remove what the range to delete holds of the first `j` pages of matches. It ends without work left
exactly when `j` is the count; else it stopped on a time left down to the margin, at a cursor that
is left with the matches after the first `j` pages. -/
theorem runOn_runBatches_calm (req : DeleteRequest) (timeLeft : Nat → Int) {n : Nat} (hn : 0 < n)
    (fuel : Nat) (c : TimeRange) (r : RunReport) {s : Service} (hs : s.Calm)
    (hsize : s.config.batchSize = n) (hc : req.toDelete.IsCursor c) {ms : List Segment}
    (hms : pending s.store req.flow n c = ms) (hfuel : batchCount ms.length n ≤ fuel) :
    ∃ (j : Nat) (s' : Service) (c' : TimeRange) (r' : RunReport) (more : Bool),
      (runBatches req timeLeft fuel c r).runOn s = (.ok (.ok (r', c', more, none)), s') ∧
      0 < j ∧ j ≤ batchCount ms.length n ∧ r'.batches = r.batches + j ∧
      r'.deleted = r.deleted + ((ms.take (j * n)).filter (req.toDelete.contains ·.range)).length ∧
      s.Swept s' ∧
      s'.store.segments =
        s.store.segments.filter (· ∉ (ms.take (j * n)).filter (req.toDelete.contains ·.range)) ∧
      s.Queued s' (pagesCleanup req.toDelete (max (s.config.maxMessageSize - cleanupEnvelope) 1) n ms j) ∧
      (more = false ↔ j = batchCount ms.length n) ∧
      (more = true → req.toDelete.IsCursor c' ∧ pending s'.store req.flow n c' = ms.drop (j * n) ∧
        ∃ k, timeLeft k ≤ s.config.safetyMargin) := by
  induction fuel generalizing c r s ms with
  | zero => exact absurd hfuel (by have := @one_le_batchCount ms.length n; omega)
  | succ fuel ih =>
  rcases hc with he | ⟨hne, hk, hT, hend⟩
  · -- from an empty cursor nothing is read and the loop ends at once
    obtain rfl : ms = [] := by rw [← hms, pending, if_pos he]
    have hcount : batchCount 0 n = 1 := batchCount_of_le hn (Nat.zero_le n)
    refine ⟨1, s, c, { r with batches := r.batches + 1, deleted := r.deleted + 0,
                              objects := r.objects + 0 },
      false, ?_, one_pos, by simp [hcount], rfl, by simp, Service.swept_refl s, by simp,
      by simpa [pagesCleanup, cleanupBatches, Cleanup.pack] using Service.queued_of_accepted rfl,
      by simp [hcount], by simp⟩
    simp [runBatches, runOn_bind, runOn_runBatch_empty _ _ he]
  have hms' : batchMatches s.store req.flow n c = ms := by rw [← hms, pending, if_neg (by simp [hne])]
  obtain ⟨b, s₁, hsw, hdel, hlast, hseg, hq, hrun⟩ :=
    runOn_runBatches_succ req timeLeft fuel r hs hn hsize hne hk hT
  rw [hms'] at hdel hlast hseg hq hrun
  have hq₁ : s.Queued s₁
      (pagesCleanup req.toDelete (max (s.config.maxMessageSize - cleanupEnvelope) 1) n ms 1) := by
    simpa [pagesCleanup] using hq
  rw [hrun]
  by_cases hle : ms.length ≤ n
  · -- the first page holds every match
    have hcount := batchCount_of_le hn hle
    rw [if_pos hle]
    exact ⟨1, s₁, _, _, false, rfl, one_pos, hcount.ge, rfl, by simp [hdel], hsw, by simpa using hseg,
      hq₁, by simp [hcount], by simp⟩
  rw [if_neg hle]
  have hcount := batchCount_of_lt hn (not_le.1 hle)
  have htake : ms.take n ≠ [] := by
    simp only [ne_eq, List.take_eq_nil_iff, not_or]
    exact ⟨by omega, fun h => by simp [h] at hle⟩
  obtain ⟨L, hL⟩ := Option.isSome_iff_exists.1 (List.getLast?_isSome.2 htake)
  have hnext : (match b.last with | some l => req.toDelete.intersect l.after | none => c) =
      req.toDelete.intersect L.range.after := by
    rw [hlast, hL]
    rfl
  rw [hnext]
  have hnc := isCursor_next hs.indexed hk hne hT hend
    (show (n : Int).toNat < (batchMatches s.store req.flow n c).length by
      rw [Int.toNat_natCast, hms']; omega)
    (by rw [Int.toNat_natCast, hms']; exact hL)
  have hpend : pending s₁.store req.flow n (req.toDelete.intersect L.range.after) = ms.drop n := by
    rw [pending, if_neg (by simp [hnc.1]), ← hms']
    refine batchMatches_next hs.indexed hk hne hT hend (by rw [hms']; omega) (by rw [hms']; exact hL)
      (D := (ms.take n).filter (req.toDelete.contains ·.range)) (fun x hx => ?_) hseg
    rw [hms']
    exact (List.mem_filter.1 hx).1
  by_cases hlow : timeLeft r.budgetReads ≤ s.config.safetyMargin
  · -- no time is left: the run stops after this batch
    rw [if_pos hlow]
    exact ⟨1, s₁, _, _, true, rfl, one_pos, by omega, rfl, by simp [hdel], hsw, by simpa using hseg,
      hq₁, by have := @one_le_batchCount (ms.length - n) n; simp [hcount]; omega,
      fun _ => ⟨.inr hnc, by simpa using hpend, _, hlow⟩⟩
  rw [if_neg hlow]
  obtain ⟨j, s', c', r', more, hrun', hj, hjle, hbat, hdel', hsw', hseg', hq', hmore', hcont⟩ :=
    ih (req.toDelete.intersect L.range.after) _ (hs.of_swept hsw) (by rw [hsw.2.2.1]; exact hsize) (.inr hnc) hpend
      (by rw [List.length_drop]; omega)
  have htake : ms.take ((j + 1) * n) = ms.take n ++ (ms.drop n).take (j * n) := by
    rw [show (j + 1) * n = n + j * n by ring, List.take_add]
  refine ⟨j + 1, s', c', r', more, hrun', by omega, by rw [hcount, List.length_drop] at *; omega,
    by simp [hbat]; omega, ?_, hsw.trans hsw', ?_, ?_, by rw [hmore', hcount, List.length_drop]; omega,
    fun hm => ?_⟩
  · rw [hdel', hdel, htake, List.filter_append, List.length_append]
    simp only
    omega
  · rw [hseg', hseg, htake, List.filter_append, filter_notMem_filter_notMem_append]
  · rw [hsw.2.2.1] at hq'
    exact hq.trans hq'
  · obtain ⟨hc', hp', k, hk'⟩ := hcont hm
    refine ⟨hc', by rw [hp', List.drop_drop, show (j + 1) * n = n + j * n by ring], k, ?_⟩
    rwa [← hsw.2.2.1]

end ServiceM

end MediaTimeline

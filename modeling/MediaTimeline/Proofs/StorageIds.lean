import Mathlib
import MediaTimeline.Proofs.SegmentDocument
import MediaTimeline.Proofs.CleanupTasks
import MediaTimeline.Proofs.CleanupHandoff
import MediaTimeline.Proofs.TaskRows
import MediaTimeline.Proofs.QueueAgreement

/-! Storage ids added to a segment. -/

namespace MediaTimeline

@[simp] theorem Segment.key_withStorageIds (s : Segment) (ids : List String) :
    { s with storageIds := ids }.key = s.key := rfl

namespace Store

/-! Adding ids: the ids new at their turn, appended in order. -/

def newAtTurn (held ids : List String) : List String :=
  (ids.zipIdx.filter fun p => !(held ++ ids.take p.2).contains p.1).map Prod.fst

theorem addNew_append (held a b : List String) : addNew held (a ++ b) = addNew (addNew held a) b :=
  List.foldl_append

theorem newAtTurn_concat (held ids : List String) (i : String) :
    newAtTurn held (ids ++ [i]) =
      newAtTurn held ids ++ if (held ++ ids).contains i then [] else [i] := by
  unfold newAtTurn
  rw [List.zipIdx_append, List.filter_append, List.map_append]
  congr 1
  · -- an earlier id sees the same ids before it
    congr 1
    refine List.filter_congr fun p hp => ?_
    have hlt : p.2 < 0 + ids.length := (List.mem_zipIdx hp).2.1
    rw [List.take_append_of_le_length (by omega)]
  · -- the last id sees all of `ids` before it
    have hids : (ids ++ [i]).take ids.length = ids := List.take_left' rfl
    simp only [zero_add, List.zipIdx_singleton, List.filter_cons, List.filter_nil, hids]
    cases (held ++ ids).contains i <;> rfl

theorem addNew_eq (held ids : List String) : addNew held ids = held ++ newAtTurn held ids := by
  induction ids using List.reverseRecOn with
  | nil => simp [newAtTurn]
  | append_singleton ids i ih =>
    have hheld : (addNew held ids).contains i = (held ++ ids).contains i := by
      simp [mem_addNew]
    rw [addNew_append, addNew_cons, addNew_nil, hheld, newAtTurn_concat, ih]
    split <;> simp

theorem addNew_of_subset {held ids : List String} (h : ∀ i ∈ ids, i ∈ held) :
    addNew held ids = held := by
  induction ids with
  | nil => rfl
  | cons i ids ih =>
    rw [addNew_cons, if_pos (List.contains_iff_mem.2 (h i List.mem_cons_self))]
    exact ih fun j hj => h j (List.mem_cons_of_mem i hj)

theorem addNew_eq_self_iff {held ids : List String} : addNew held ids = held ↔ ∀ i ∈ ids, i ∈ held :=
  ⟨fun h _ hi => h ▸ mem_addNew.2 (.inr hi), addNew_of_subset⟩

theorem addNew_idem (held ids : List String) : addNew (addNew held ids) ids = addNew held ids :=
  addNew_of_subset fun _ hi => mem_addNew.2 (.inr hi)

theorem nodup_addNew {held : List String} (h : held.Nodup) (ids : List String) :
    (addNew held ids).Nodup := by
  induction ids generalizing held with
  | nil => exact h
  | cons i ids ih =>
    rw [addNew_cons]
    split_ifs with hi
    · exact ih h
    · exact ih (h.append (List.nodup_singleton i) (by simpa using hi))

theorem length_addNew_eq_iff {held ids : List String} :
    (addNew held ids).length = held.length ↔ addNew held ids = held :=
  ⟨fun h => ((prefix_addNew held ids).eq_of_length h.symm).symm, fun h => by rw [h]⟩

/-! The memory store: the ids go to the segment with the key. -/

theorem addIds_addIds (k : SegmentKey) (a b : List String) (s : Segment) :
    addIds k b (addIds k a s) = addIds k (a ++ b) s := by
  unfold addIds
  by_cases hs : s.key = k <;> simp [hs, addNew_append]

def addIdsAt (k : SegmentKey) (ids : List String) (segs : List Segment) : List Segment :=
  segs.map (addIds k ids)

@[simp] theorem addIdsAt_nil (k : SegmentKey) (segs : List Segment) : addIdsAt k [] segs = segs := by
  unfold addIdsAt
  refine (List.map_congr_left fun s _ => ?_).trans (List.map_id' segs)
  unfold addIds
  split <;> rfl

theorem addIdsAt_addIdsAt (k : SegmentKey) (a b : List String) (segs : List Segment) :
    addIdsAt k b (addIdsAt k a segs) = addIdsAt k (a ++ b) segs := by
  simp only [addIdsAt, List.map_map]
  exact List.map_congr_left fun s _ => addIds_addIds k a b s

theorem map_key_addIdsAt (k : SegmentKey) (ids : List String) (segs : List Segment) :
    (addIdsAt k ids segs).map Segment.key = segs.map Segment.key := by
  simp only [addIdsAt, List.map_map]
  exact List.map_congr_left fun s _ => key_addIds k ids s

theorem addIdsAt_of_forall_ne {k : SegmentKey} {segs : List Segment} (h : ∀ s ∈ segs, s.key ≠ k)
    (ids : List String) : addIdsAt k ids segs = segs := by
  unfold addIdsAt
  refine (List.map_congr_left fun s hs => ?_).trans (List.map_id' segs)
  simp [addIds, h s hs]

theorem addIdsAt_idem (k : SegmentKey) (ids : List String) (segs : List Segment) :
    addIdsAt k ids (addIdsAt k ids segs) = addIdsAt k ids segs := by
  simp only [addIdsAt, List.map_map]
  refine List.map_congr_left fun s _ => ?_
  by_cases hs : s.key = k <;> simp [addIds, hs, addNew_idem]

theorem nodup_addIdsAt {segs : List Segment} (h : ∀ s ∈ segs, s.storageIds.Nodup) (k : SegmentKey)
    (ids : List String) : ∀ s ∈ addIdsAt k ids segs, s.storageIds.Nodup := by
  intro s hs
  obtain ⟨t, ht, rfl⟩ := List.mem_map.1 hs
  by_cases hk : t.key = k
  · simpa [addIds, hk] using nodup_addNew (h t ht) ids
  · simpa [addIds, hk] using h t ht

theorem exists_key_addIdsAt {k k' : SegmentKey} {ids : List String} {segs : List Segment} :
    (∃ s ∈ addIdsAt k ids segs, s.key = k') ↔ ∃ s ∈ segs, s.key = k' := by
  have hkeys := map_key_addIdsAt k ids segs
  constructor
  · rintro ⟨s, hs, rfl⟩
    obtain ⟨t, ht, hkey⟩ := List.mem_map.1 (hkeys ▸ List.mem_map_of_mem hs : s.key ∈ segs.map _)
    exact ⟨t, ht, hkey⟩
  · rintro ⟨s, hs, rfl⟩
    obtain ⟨t, ht, hkey⟩ :=
      List.mem_map.1 (hkeys.symm ▸ List.mem_map_of_mem hs : s.key ∈ (addIdsAt k ids segs).map _)
    exact ⟨t, ht, hkey⟩

theorem addIdsAt_eq (k : SegmentKey) (ids : List String) (segs : List Segment) :
    addIdsAt k ids segs = segs.map fun s =>
      if s.key = k then { s with storageIds := s.storageIds ++ newAtTurn s.storageIds ids } else s := by
  unfold addIdsAt addIds
  refine List.map_congr_left fun s _ => ?_
  by_cases hs : s.key = k <;> simp [hs, addNew_eq]

theorem addIdsAt_of_held {k : SegmentKey} {ids : List String} {segs : List Segment}
    (h : ∀ s ∈ segs, s.key = k → ∀ i ∈ ids, i ∈ s.storageIds) : addIdsAt k ids segs = segs := by
  unfold addIdsAt
  refine (List.map_congr_left fun s hs => ?_).trans (List.map_id' segs)
  by_cases hk : s.key = k
  · simp [addIds, hk, addNew_of_subset (h s hs hk)]
  · simp [addIds, hk]

@[simp] theorem segments_withIds (st : Store) (k : SegmentKey) (ids : List String) :
    (st.withIds k ids).segments = addIdsAt k ids st.segments := rfl

theorem withIds_withIds (st : Store) (k : SegmentKey) (a b : List String) :
    (st.withIds k a).withIds k b = st.withIds k (a ++ b) :=
  ext_of_segments (by simp only [segments_withIds, addIdsAt_addIdsAt]) rfl rfl

theorem withIds_idem (st : Store) (k : SegmentKey) (ids : List String) :
    (st.withIds k ids).withIds k ids = st.withIds k ids :=
  ext_of_segments (by simp only [segments_withIds, addIdsAt_idem]) rfl rfl

@[simp] theorem withIds_nil (st : Store) (k : SegmentKey) : st.withIds k [] = st :=
  ext_of_segments (by simp only [segments_withIds, addIdsAt_nil]) rfl rfl

theorem withIds_of_forall_ne {st : Store} {k : SegmentKey} (h : ∀ s ∈ st.segments, s.key ≠ k)
    (ids : List String) : st.withIds k ids = st :=
  ext_of_segments (by simp only [segments_withIds, addIdsAt_of_forall_ne h]) rfl rfl

variable {st : Store} {k : SegmentKey}

theorem appendStorageIds_of_mem {s : Segment} (hs : s ∈ st.segments) (hk : s.key = k)
    (ids : List String) : st.appendStorageIds k.flow k.stop ids = .ok (st.withIds k ids) := by
  unfold appendStorageIds getSegment
  cases hfind : st.segments.find? (·.key == ⟨k.flow, k.stop⟩) with
  | none =>
    have := List.find?_eq_none.1 hfind s hs
    simp [hk] at this
  | some t => rfl

theorem appendStorageIds_of_forall_ne (h : ∀ s ∈ st.segments, s.key ≠ k) (ids : List String) :
    st.appendStorageIds k.flow k.stop ids = .error (.missing .segment) := by
  unfold appendStorageIds getSegment
  rw [List.find?_eq_none.2 fun s hs => by simpa using h s hs]
  rfl

def appendCall (st : Store) (k : SegmentKey) (ids : List String) : Except Fault Unit × Store :=
  match st.appendStorageIds k.flow k.stop ids with
  | .ok st' => (.ok (), st')
  | .error e => (.error e, st)

theorem appendCall_eq (st : Store) (k : SegmentKey) (ids : List String) :
    st.appendCall k ids =
      (if ∃ s ∈ st.segments, s.key = k then .ok () else .error (.missing .segment),
        st.withIds k ids) := by
  by_cases hk : ∃ s ∈ st.segments, s.key = k
  · obtain ⟨s, hs, hsk⟩ := hk
    rw [appendCall, appendStorageIds_of_mem hs hsk, if_pos ⟨s, hs, hsk⟩]
  · have hne : ∀ s ∈ st.segments, s.key ≠ k := fun s hs hsk => hk ⟨s, hs, hsk⟩
    rw [appendCall, appendStorageIds_of_forall_ne hne, if_neg hk, withIds_of_forall_ne hne]

theorem appendCall_idem (st : Store) (k : SegmentKey) (ids : List String) :
    ((st.appendCall k ids).2.appendCall k ids).2 = (st.appendCall k ids).2 := by
  simp only [appendCall_eq, withIds_idem]

def appendEach : List (SegmentKey × List String) → Store → List (Except Fault Unit) × Store
  | [], st => ([], st)
  | (k, ids) :: calls, st =>
    ((st.appendCall k ids).1 :: (appendEach calls (st.appendCall k ids).2).1,
      (appendEach calls (st.appendCall k ids).2).2)

/-- Calls one after another on one key: each answers by whether a segment has the key, and the
segment with the key ends up with all the calls' ids added at once. -/
theorem appendEach_eq (k : SegmentKey) (idss : List (List String)) (st : Store) :
    appendEach (idss.map (Prod.mk k)) st =
      (idss.map fun _ => if ∃ s ∈ st.segments, s.key = k then .ok () else .error (.missing .segment),
        st.withIds k idss.flatten) := by
  induction idss generalizing st with
  | nil => simp only [List.map_nil, appendEach, List.flatten_nil, withIds_nil]
  | cons ids idss ih =>
    -- a call keeps the keys the segments have, so every later call answers as the first
    have hkeys : (∃ s ∈ addIdsAt k ids st.segments, s.key = k) ↔ ∃ s ∈ st.segments, s.key = k :=
      exists_key_addIdsAt
    simp only [List.map_cons, appendEach, appendCall_eq, ih, segments_withIds, hkeys,
      withIds_withIds, List.flatten_cons]

end Store

namespace Sql

/-! The SQL store: a transaction that reads the row and writes its document back. -/

section Transactions

variable {α : Type} {c c' : Connection}

theorem run_attemptStore (m : StoreM α) (c : Connection) :
    (attemptStore m).run.run c = (.ok (m.run.run c).1, (m.run.run c).2) := by
  simp only [attemptStore, ExceptT.run_tryCatch, ExceptT.run_map, StateT.run_bind, StateT.run_map]
  rcases m.run.run c with ⟨_ | a, c'⟩ <;> rfl

theorem run_begin (hb : c.failBegin = none) :
    (wrapping "begin transaction" (onServer beginTx)).run.run c =
      (.ok (), { c with log := c.log ++ [.event "BEGIN"] }) := by
  obtain ⟨script, log, fb, fc, fr, fp, now⟩ := c
  dsimp only at hb
  subst hb
  rfl

theorem run_commit (hc : c.failCommit = none) :
    (wrapping "commit transaction" (onServer commitTx)).run.run c =
      (.ok (), { c with log := c.log ++ [.event "COMMIT"] }) := by
  obtain ⟨script, log, fb, fc, fr, fp, now⟩ := c
  dsimp only at hc
  subst hc
  rfl

theorem run_withTx_ok {body : StoreM α} {a : α} (hb : c.failBegin = none)
    (h : body.run.run { c with log := c.log ++ [.event "BEGIN"] } = (.ok a, c'))
    (hc : c'.failCommit = none) :
    (withTx body).run.run c = (.ok a, { c' with log := c'.log ++ [.event "COMMIT"] }) := by
  unfold withTx
  rw [run_bind, run_begin hb]
  dsimp only
  rw [run_bind, run_attemptStore, h]
  dsimp only
  rw [run_bind, run_commit hc]
  rfl

theorem run_withTx_error {body : StoreM α} {e : Fault} (hb : c.failBegin = none)
    (h : body.run.run { c with log := c.log ++ [.event "BEGIN"] } = (.error e, c'))
    (hr : c'.failRollback = none) :
    (withTx body).run.run c = (.error e, { c' with log := c'.log ++ [.event "ROLLBACK"] }) := by
  unfold withTx
  rw [run_bind, run_begin hb]
  dsimp only
  rw [run_bind, run_attemptStore, h]
  obtain ⟨script, log, fb, fc, fr, fp, now⟩ := c'
  dsimp only at hr
  subst hr
  rfl

end Transactions

section Append

variable {c c₂ : Connection} {r : Response} {rest : List Response} (d : Dialect) (flow : String)
  (stop : Int) (ids : List String)

theorem run_selectSegment_none (hscript : c.script = r :: rest) (hfail : r.failure = none)
    (hrows : r.rows = []) (hprob : r.rowProblem = none) :
    (ask d (segmentByKey true) [.text flow, .int stop] >>= scanSegment).run.run c =
      (.ok none, { c with
        script := rest
        log := c.log ++ [.query (collapseBlanks (d.rewritePlaceholders (segmentByKey true)))
          [.text flow, .int stop]] }) := by
  rw [run_bind, ask, run_onServer (run_query _ _ hscript hfail)]
  simp [scanSegment, firstRow, Rows.first?, hrows, hprob, liftResult]
  rfl

theorem run_selectSegment_some {cells : List SqlValue} {more : List (List SqlValue)} {seg : Segment}
    (hscript : c.script = r :: rest) (hfail : r.failure = none) (hrows : r.rows = cells :: more)
    (hstore : storeRow cells segmentTargets = .ok cells) (hseg : segmentOfRow cells = .ok seg) :
    (ask d (segmentByKey true) [.text flow, .int stop] >>= scanSegment).run.run c =
      (.ok (some seg), { c with
        script := rest
        log := c.log ++ [.query (collapseBlanks (d.rewritePlaceholders (segmentByKey true)))
          [.text flow, .int stop]] }) := by
  rw [run_bind, ask, run_onServer (run_query _ _ hscript hfail)]
  simp [scanSegment, firstRow, Rows.first?, hrows, hstore, hseg, liftResult, Except.mapError,
    Except.map]
  rfl

theorem run_appendStorageIds_none (hb : c.failBegin = none)
    (hscan : (ask d (segmentByKey true) [.text flow, .int stop] >>= scanSegment).run.run
      { c with log := c.log ++ [.event "BEGIN"] } = (.ok none, c₂)) (hr : c₂.failRollback = none) :
    (appendStorageIds d flow stop ids).run.run c =
      (.error (.missing .segment), { c₂ with log := c₂.log ++ [.event "ROLLBACK"] }) := by
  unfold appendStorageIds
  have hcls : (Fault.missing .segment).classes.contains .segmentMissing = true := by
    simp [Fault.classes, Missing.faultClass]
  rw [run_bind, run_attemptStore, run_withTx_error (e := .missing .segment) hb ?_ hr]
  · dsimp only
    rw [if_pos hcls]
    rfl
  · rw [run_bind, hscan]
    rfl

theorem run_appendStorageIds_held {seg : Segment} (hb : c.failBegin = none)
    (hscan : (ask d (segmentByKey true) [.text flow, .int stop] >>= scanSegment).run.run
      { c with log := c.log ++ [.event "BEGIN"] } = (.ok (some seg), c₂))
    (hsame : Store.addNew seg.storageIds ids = seg.storageIds) (hc : c₂.failCommit = none) :
    (appendStorageIds d flow stop ids).run.run c =
      (.ok (), { c₂ with log := c₂.log ++ [.event "COMMIT"] }) := by
  unfold appendStorageIds
  rw [run_bind, run_attemptStore, run_withTx_ok (a := ()) hb ?_ hc]
  · rfl
  · rw [run_bind, hscan]
    simp only [Store.addNew] at hsame
    dsimp only
    simp only [hsame, ne_eq, not_true_eq_false, if_false]
    rfl

theorem run_appendStorageIds_new {seg : Segment} (hb : c.failBegin = none)
    (hscan : (ask d (segmentByKey true) [.text flow, .int stop] >>= scanSegment).run.run
      { c with log := c.log ++ [.event "BEGIN"] } = (.ok (some seg), c₂))
    (hnew : Store.addNew seg.storageIds ids ≠ seg.storageIds) (hscript : c₂.script = r :: rest)
    (hfail : r.failure = none) (hc : c₂.failCommit = none) :
    (appendStorageIds d flow stop ids).run.run c =
      (.ok (), { c₂ with
        script := rest
        log := c₂.log ++ [.exec (collapseBlanks (d.rewritePlaceholders
            "UPDATE segments SET doc = $1 WHERE flow_id = $2 AND timerange_end = $3"))
          [.text (JsonValue.render { seg with storageIds := Store.addNew seg.storageIds ids }.toDoc),
            .text flow, .int stop], .event "COMMIT"] }) := by
  have hlen := mt Store.length_addNew_eq_iff.1 hnew
  unfold appendStorageIds
  rw [run_bind, run_attemptStore, run_withTx_ok (a := ()) hb ?body ?commit]
  case body =>
    rw [run_bind, hscan]
    simp only [Store.addNew] at hlen
    dsimp only
    simp only [ne_eq, hlen, not_false_eq_true, if_true]
    rw [run_bind, Sql.run, run_onServer (TaskTable.run_exec _ _ hscript hfail)]
    rfl
  case commit => exact hc
  simp only [List.append_assoc, List.singleton_append]
  rfl

end Append

/-! The segments table against the memory store. -/

/-- A row of the segments table: its key, start and object columns, and the segment's document. -/
structure SegmentRow where
  flow : String
  stop : Int
  start : Int
  object : String
  doc : String

namespace SegmentRow

variable {r : SegmentRow} {seg : Segment}

def key (r : SegmentRow) : SegmentKey := ⟨r.flow, r.stop⟩

def cells (r : SegmentRow) : List SqlValue :=
  [.text r.flow, .int r.stop, .int r.start, .text r.object, .text r.doc]

def read (r : SegmentRow) : Except Fault Segment := readSegment r.flow r.stop r.start r.object r.doc

def ofSegment (s : Segment) : SegmentRow :=
  ⟨s.flow, s.stop, s.start, s.object, JsonValue.render s.toDoc⟩

theorem storeRow_cells (r : SegmentRow) : storeRow r.cells segmentTargets = .ok r.cells := rfl

theorem segmentOfRow_cells (r : SegmentRow) : segmentOfRow r.cells = r.read := rfl

theorem key_of_read (h : r.read = .ok seg) : r.key = seg.key := by
  obtain ⟨-, hflow, hstop, -⟩ := storable_of_readSegment h
  simp [key, Segment.key, hflow, hstop]

theorem read_ofSegment (hs : seg.Storable) : (ofSegment seg).read = .ok seg :=
  readSegment_toDoc seg hs

/-- A row read as a segment reads, once the document of the segment with other ids is written
back, as the segment with those ids: the document round trip does not depend on the ids. -/
theorem read_withStorageIds (h : r.read = .ok seg) (ids : List String) :
    { r with doc := JsonValue.render { seg with storageIds := ids }.toDoc }.read =
      .ok { seg with storageIds := ids } := by
  obtain ⟨hs, hflow, hstop, hstart, hobject⟩ := storable_of_readSegment h
  have hread := readSegment_toDoc { seg with storageIds := ids }
    ⟨hs.range, hs.sampleOffset, hs.sampleCount, hs.keyFrameCount⟩
  simp only [read]
  rw [← hflow, ← hstop, ← hstart, ← hobject]
  exact hread

end SegmentRow

/-- The statements the store sends in adding storage ids: the row's selection, and the write of
its document. -/
inductive SegmentStatement where
  | select (k : SegmentKey)
  | setDoc (k : SegmentKey) (doc : String)

namespace SegmentStatement

def entry (d : Dialect) : SegmentStatement → LogEntry
  | select k =>
    .query (collapseBlanks (d.rewritePlaceholders (segmentByKey true))) [.text k.flow, .int k.stop]
  | setDoc k doc =>
    .exec (collapseBlanks (d.rewritePlaceholders
      "UPDATE segments SET doc = $1 WHERE flow_id = $2 AND timerange_end = $3"))
      [.text doc, .text k.flow, .int k.stop]

def answer : SegmentStatement → List SegmentRow → Response × List SegmentRow
  | select k, rows => ({ rows := (rows.filter (·.key == k)).map SegmentRow.cells }, rows)
  | setDoc k doc, rows =>
    ({ affected := (rows.filter (·.key == k)).length },
      rows.map fun r => if r.key == k then { r with doc := doc } else r)

def answerAll : List SegmentStatement → List SegmentRow → List Response × List SegmentRow
  | [], rows => ([], rows)
  | st :: sts, rows => ((st.answer rows).1 :: (answerAll sts (st.answer rows).2).1,
      (answerAll sts (st.answer rows).2).2)

end SegmentStatement

def segmentAt (rows : List SegmentRow) (k : SegmentKey) : Option Segment :=
  (rows.find? (·.key == k)).bind fun r => r.read.toOption

def grownDoc (ids : List String) (seg : Segment) : Option String :=
  if (Store.addNew seg.storageIds ids).length ≠ seg.storageIds.length then
    some (JsonValue.render { seg with storageIds := Store.addNew seg.storageIds ids }.toDoc)
  else none

/-- The statements the store sends to add `ids` to the segment with key `k`, over the rows as they
then stand: it selects the row, and writes the document back when its segment lacks an id. -/
def appendStatements (k : SegmentKey) (ids : List String) (rows : List SegmentRow) :
    List SegmentStatement :=
  .select k :: ((segmentAt rows k).bind (grownDoc ids)).toList.map (.setDoc k)

/-- What the store logs in adding the ids: its statements inside a transaction, committed when
the row is there and rolled back when it is not. -/
def appendLog (d : Dialect) (k : SegmentKey) (ids : List String) (rows : List SegmentRow) :
    List LogEntry :=
  .event "BEGIN" :: (appendStatements k ids rows).map (·.entry d) ++
    [.event (if (segmentAt rows k).isSome then "COMMIT" else "ROLLBACK")]

/-- The call on the table: the database answers the statements the store sends by their meaning
over its rows. The store's answer, its connection after the call, and the rows after it. -/
def appendOnRows (d : Dialect) (k : SegmentKey) (ids : List String) (rows : List SegmentRow)
    (c : Connection) : (Except Fault Unit × Connection) × List SegmentRow :=
  let answered := SegmentStatement.answerAll (appendStatements k ids rows) rows
  ((appendStorageIds d k.flow k.stop ids).run.run { c with script := answered.1 }, answered.2)

/-- A table whose rows read, in order, as the segments of the memory store, whose keys are
distinct. -/
structure Mirrors (rows : List SegmentRow) (segs : List Segment) : Prop where
  reads : List.Forall₂ (fun r s => r.read = .ok s) rows segs
  keyed : (segs.map Segment.key).Nodup

/-- A connection on which transactions begin, commit and roll back. -/
structure Connection.Steady (c : Connection) : Prop where
  begin : c.failBegin = none
  commit : c.failCommit = none
  rollback : c.failRollback = none

namespace Mirrors

variable {rows : List SegmentRow} {segs : List Segment} {k : SegmentKey} {seg : Segment}

theorem find? (h : Mirrors rows segs) (k : SegmentKey) :
    Option.Rel (fun r s => r.read = .ok s) (rows.find? (·.key == k)) (segs.find? (·.key == k)) :=
  forall₂_find? (fun _ _ hrs => by rw [SegmentRow.key_of_read hrs]) h.reads

theorem find?_none (h : Mirrors rows segs) (hnone : segs.find? (·.key == k) = none) :
    rows.find? (·.key == k) = none := by
  have hrel := h.find? k
  rw [hnone] at hrel
  generalize rows.find? (·.key == k) = o at hrel ⊢
  cases hrel
  rfl

theorem find?_some (h : Mirrors rows segs) (hsome : segs.find? (·.key == k) = some seg) :
    ∃ r, rows.find? (·.key == k) = some r ∧ r.read = .ok seg := by
  have hrel := h.find? k
  rw [hsome] at hrel
  generalize rows.find? (·.key == k) = o at hrel ⊢
  cases hrel with
  | some hr => exact ⟨_, rfl, hr⟩

theorem segmentAt_eq (h : Mirrors rows segs) (k : SegmentKey) :
    segmentAt rows k = segs.find? (·.key == k) := by
  cases hfind : segs.find? (·.key == k) with
  | none => simp [segmentAt, h.find?_none hfind]
  | some seg =>
    obtain ⟨r, hr, hread⟩ := h.find?_some hfind
    simp [segmentAt, hr, hread, Except.toOption]

theorem eq_of_key (h : Mirrors rows segs) {s s' : Segment} (hs : s ∈ segs) (hs' : s' ∈ segs)
    (hk : s.key = s'.key) : s = s' :=
  List.inj_on_of_nodup_map h.keyed hs hs' hk

theorem addIdsAt_of_held (h : Mirrors rows segs) (hsome : segs.find? (·.key == k) = some seg)
    {ids : List String} (hheld : Store.addNew seg.storageIds ids = seg.storageIds) :
    Store.addIdsAt k ids segs = segs := by
  have hmem : seg ∈ segs := List.mem_of_find?_eq_some hsome
  have hkey : seg.key = k := by simpa using List.find?_some hsome
  refine Store.addIdsAt_of_held fun s hs hk => ?_
  rw [h.eq_of_key hs hmem (hk.trans hkey.symm)]
  exact Store.addNew_eq_self_iff.1 hheld

theorem setDoc (h : Mirrors rows segs) (hsome : segs.find? (·.key == k) = some seg)
    (ids : List String) :
    Mirrors (rows.map fun r => if r.key == k then
        { r with doc := JsonValue.render { seg with storageIds := Store.addNew seg.storageIds ids }.toDoc }
        else r)
      (Store.addIdsAt k ids segs) := by
  have hmem : seg ∈ segs := List.mem_of_find?_eq_some hsome
  have hkey : seg.key = k := by simpa using List.find?_some hsome
  refine ⟨?_, by rw [Store.map_key_addIdsAt]; exact h.keyed⟩
  unfold Store.addIdsAt
  rw [List.forall₂_map_left_iff, List.forall₂_map_right_iff]
  refine (forall₂_with_mem h.reads).imp fun r s ⟨hrs, hs⟩ => ?_
  have hks := SegmentRow.key_of_read hrs
  by_cases hk : s.key = k
  · obtain rfl : s = seg := h.eq_of_key hs hmem (hk.trans hkey.symm)
    simpa [Store.addIds, hks, hk] using SegmentRow.read_withStorageIds hrs _
  · simp [Store.addIds, hks, hk, hrs]

end Mirrors

/-! One call on the table. -/

section Step

variable (d : Dialect) (ids : List String) {rows : List SegmentRow} {st : Store} {c : Connection}

/-- A call on a table mirroring the memory store answers as the memory store does, consumes the
database's answers and logs its statements in a transaction, and leaves rows that mirror the
memory store after it. -/
theorem appendOnRows_eq (h : Mirrors rows st.segments) (hc : c.Steady) (k : SegmentKey) :
    ∃ rows', appendOnRows d k ids rows c =
        (((st.appendCall k ids).1, { c with script := [], log := c.log ++ appendLog d k ids rows }),
          rows') ∧
      Mirrors rows' (st.appendCall k ids).2.segments := by
  rw [Store.appendCall_eq, Store.segments_withIds]
  cases hfind : st.segments.find? (·.key == k) with
  | none =>
    have hne : ∀ s ∈ st.segments, s.key ≠ k := fun s hs hsk => by
      simpa [hsk] using List.find?_eq_none.1 hfind s hs
    have hnone : ¬ ∃ s ∈ st.segments, s.key = k := fun ⟨s, hs, hsk⟩ => hne s hs hsk
    have hat : segmentAt rows k = none := (h.segmentAt_eq k).trans hfind
    have hsel : (rows.filter (·.key == k)).map SegmentRow.cells = [] := by
      rw [List.filter_eq_nil_iff.2 (List.find?_eq_none.1 (h.find?_none hfind)), List.map_nil]
    let c₁ : Connection := { c with script := [{ rows := (rows.filter (·.key == k)).map SegmentRow.cells }] }
    have hscan := run_selectSegment_none d k.flow k.stop (c := { c₁ with log := c₁.log ++ [.event "BEGIN"] })
      rfl rfl hsel rfl
    have hrun := run_appendStorageIds_none d k.flow k.stop ids (c := c₁) hc.begin hscan hc.rollback
    refine ⟨rows, ?_, ?_⟩
    · simp only [appendOnRows, appendStatements, hat, Option.bind_none, Option.toList_none, List.map_nil,
        SegmentStatement.answerAll, SegmentStatement.answer]
      rw [hrun, if_neg hnone]
      simp [appendLog, appendStatements, hat, SegmentStatement.entry, c₁]
    · rwa [Store.addIdsAt_of_forall_ne hne]
  | some seg =>
    have hmem : seg ∈ st.segments := List.mem_of_find?_eq_some hfind
    have hkey : seg.key = k := by simpa using List.find?_some hfind
    obtain ⟨r, hr, hread⟩ := h.find?_some hfind
    have hat : segmentAt rows k = some seg := (h.segmentAt_eq k).trans hfind
    obtain ⟨more, hmore⟩ := List.head?_eq_some_iff.1 (List.head?_filter.trans hr)
    have hsel : (rows.filter (·.key == k)).map SegmentRow.cells = r.cells :: more.map SegmentRow.cells := by
      rw [hmore, List.map_cons]
    have hseg : segmentOfRow r.cells = .ok seg := (SegmentRow.segmentOfRow_cells r).trans hread
    have hheld : ∃ s ∈ st.segments, s.key = k := ⟨seg, hmem, hkey⟩
    by_cases hsame : Store.addNew seg.storageIds ids = seg.storageIds
    · -- every id is held: the row is read and nothing is written
      have hgrow : grownDoc ids seg = none := if_neg (by rw [hsame]; exact not_not_intro rfl)
      let c₁ : Connection :=
        { c with script := [{ rows := (rows.filter (·.key == k)).map SegmentRow.cells }] }
      have hscan := run_selectSegment_some d k.flow k.stop
        (c := { c₁ with log := c₁.log ++ [.event "BEGIN"] }) rfl rfl hsel (SegmentRow.storeRow_cells r) hseg
      have hrun := run_appendStorageIds_held d k.flow k.stop ids (c := c₁) hc.begin hscan hsame hc.commit
      refine ⟨rows, ?_, ?_⟩
      · simp only [appendOnRows, appendStatements, hat, Option.bind_some, hgrow, Option.toList_none,
          List.map_nil, SegmentStatement.answerAll, SegmentStatement.answer]
        rw [hrun, if_pos hheld]
        simp [appendLog, appendStatements, hat, hgrow, SegmentStatement.entry, c₁]
      · rwa [h.addIdsAt_of_held hfind hsame]
    · -- an id is new: the row is read and its grown document written back
      have hlen := mt Store.length_addNew_eq_iff.1 hsame
      have hgrow : grownDoc ids seg =
          some (JsonValue.render { seg with storageIds := Store.addNew seg.storageIds ids }.toDoc) :=
        if_pos hlen
      let c₁ : Connection :=
        { c with script := [{ rows := (rows.filter (·.key == k)).map SegmentRow.cells },
          { affected := (rows.filter (·.key == k)).length }] }
      have hscan := run_selectSegment_some d k.flow k.stop
        (c := { c₁ with log := c₁.log ++ [.event "BEGIN"] }) rfl rfl hsel (SegmentRow.storeRow_cells r) hseg
      have hrun := run_appendStorageIds_new d k.flow k.stop ids (c := c₁) hc.begin hscan hsame rfl rfl
        hc.commit
      refine ⟨_, ?_, h.setDoc hfind ids⟩
      simp only [appendOnRows, appendStatements, hat, Option.bind_some, hgrow, Option.toList_some,
        List.map_cons, List.map_nil, SegmentStatement.answerAll, SegmentStatement.answer]
      rw [hrun, if_pos hheld]
      simp [appendLog, appendStatements, hat, hgrow, SegmentStatement.entry, c₁]

end Step

/-! Calls one after another on the table. -/

/-- A run of calls on the table: the answers, what the store logged, the rows after them, and the
connection. -/
structure AppendRun where
  answers : List (Except Fault Unit)
  sent : List LogEntry
  rows : List SegmentRow
  conn : Connection

def appendRunOnRows (d : Dialect) :
    List (SegmentKey × List String) → List SegmentRow → Connection → AppendRun
  | [], rows, c => ⟨[], [], rows, c⟩
  | (k, ids) :: calls, rows, c =>
    let step := appendOnRows d k ids rows c
    let rest := appendRunOnRows d calls step.2 step.1.2
    ⟨step.1.1 :: rest.answers, appendLog d k ids rows ++ rest.sent, rest.rows, rest.conn⟩

/-- Calls one after another on a table mirroring the memory store answer as the memory store
does and leave rows mirroring it; the store logs exactly its statements, call by call. The
induction is on the calls, each step by `appendOnRows_eq`. -/
theorem appendRunOnRows_mirrors (d : Dialect) (calls : List (SegmentKey × List String)) :
    ∀ (rows : List SegmentRow) (st : Store) (c : Connection), Mirrors rows st.segments → c.Steady →
      (appendRunOnRows d calls rows c).answers = (Store.appendEach calls st).1 ∧
      Mirrors (appendRunOnRows d calls rows c).rows (Store.appendEach calls st).2.segments ∧
      (appendRunOnRows d calls rows c).conn.log = c.log ++ (appendRunOnRows d calls rows c).sent := by
  induction calls with
  | nil => intro rows st c h _; exact ⟨rfl, h, by simp [appendRunOnRows]⟩
  | cons call calls ih =>
    obtain ⟨k, ids⟩ := call
    intro rows st c h hc
    obtain ⟨rows', hstep, hm⟩ := appendOnRows_eq d ids h hc k
    have hc' : Connection.Steady { c with script := [], log := c.log ++ appendLog d k ids rows } :=
      ⟨hc.begin, hc.commit, hc.rollback⟩
    obtain ⟨hans, hm', hlog⟩ := ih rows' _ _ hm hc'
    simp only [appendRunOnRows, Store.appendEach, hstep] at hans hm' hlog ⊢
    exact ⟨by rw [hans], hm', by rw [hlog, List.append_assoc]⟩

end Sql

/-- Storage ids added to a segment, call after call on its key. On the memory store every call
answers by whether a segment has the key, and that segment ends with the ids it held followed, in
order, by each id of the calls that is new at its turn; so when no segment has the key every call
fails as the segment missing and the store is left as it was. A call repeated changes nothing, and
no id is held twice after the calls that was not held twice before. The SQL store, on a table whose
rows read back as the memory store's segments, answers every call as the memory store does, leaves
rows that read back as the memory store's segments after the calls, and logs exactly the
statements it sends. -/
theorem storage_id_appends_keep_each_new_id_once (st : Store) (k : SegmentKey)
    (idss : List (List String)) :
    Store.appendEach (idss.map (Prod.mk k)) st =
        (idss.map fun _ => if ∃ s ∈ st.segments, s.key = k then .ok () else .error (.missing .segment),
          st.withIds k idss.flatten) ∧
      (st.withIds k idss.flatten).segments = st.segments.map (fun s => if s.key = k then
          { s with storageIds := s.storageIds ++ Store.newAtTurn s.storageIds idss.flatten } else s) ∧
      ((¬ ∃ s ∈ st.segments, s.key = k) →
        Store.appendEach (idss.map (Prod.mk k)) st = (idss.map fun _ => .error (.missing .segment), st)) ∧
      (∀ ids, ((st.appendCall k ids).2.appendCall k ids).2 = (st.appendCall k ids).2) ∧
      ((∀ s ∈ st.segments, s.storageIds.Nodup) →
        ∀ s ∈ (Store.appendEach (idss.map (Prod.mk k)) st).2.segments, s.storageIds.Nodup) ∧
      ∀ (d : Sql.Dialect) (rows : List Sql.SegmentRow) (c : Sql.Connection),
        Sql.Mirrors rows st.segments → c.Steady →
        (Sql.appendRunOnRows d (idss.map (Prod.mk k)) rows c).answers =
            (Store.appendEach (idss.map (Prod.mk k)) st).1 ∧
          Sql.Mirrors (Sql.appendRunOnRows d (idss.map (Prod.mk k)) rows c).rows
            (Store.appendEach (idss.map (Prod.mk k)) st).2.segments ∧
          (Sql.appendRunOnRows d (idss.map (Prod.mk k)) rows c).conn.log =
            c.log ++ (Sql.appendRunOnRows d (idss.map (Prod.mk k)) rows c).sent := by
  have heach := Store.appendEach_eq k idss st
  refine ⟨heach, Store.addIdsAt_eq k idss.flatten st.segments, fun hnone => ?_,
    Store.appendCall_idem st k, fun hnodup => ?_,
    fun d rows c h hc => Sql.appendRunOnRows_mirrors d _ rows st c h hc⟩
  · have hne : ∀ s ∈ st.segments, s.key ≠ k := fun s hs hsk => hnone ⟨s, hs, hsk⟩
    rw [heach, if_neg hnone, Store.withIds_of_forall_ne hne]
  · rw [heach]
    exact Store.nodup_addIdsAt hnodup k idss.flatten

/-- A segment holding `a` is given `b, a, b` and then `c`: it ends holding `a, b, c` on both
stores, and the table answers both calls as the memory store does. -/
theorem segment_gains_each_new_id_once_on_both_stores :
    let seg : Segment :=
      { flow := "f", object := "o", range := .ofStamps (some ⟨0⟩) (some ⟨10⟩) true false,
        storageIds := ["a"], stop := 9 }
    let calls := [["b", "a", "b"], ["c"]].map (Prod.mk seg.key)
    Sql.Mirrors [.ofSegment seg] [seg] ∧ Sql.Connection.Steady {} ∧
      (Sql.appendRunOnRows .postgres calls [.ofSegment seg] {}).answers = [.ok (), .ok ()] ∧
      Sql.Mirrors (Sql.appendRunOnRows .postgres calls [.ofSegment seg] {}).rows
        [{ seg with storageIds := ["a", "b", "c"] }] := by
  intro seg calls
  have hrange : (TimeRange.ofStamps (some ⟨0⟩) (some ⟨10⟩) true false).Normal := TimeRange.normal_ofStamps
    (by simp [Stamp.Representable, int64Min, int64Max, nanosPerSecond])
    (by simp [Stamp.Representable, int64Min, int64Max, nanosPerSecond])
  have hs : seg.Storable := ⟨hrange, by simp [seg], by simp [seg], by simp [seg]⟩
  have hm : Sql.Mirrors [.ofSegment seg] [seg] := ⟨.cons (Sql.SegmentRow.read_ofSegment hs) .nil, by simp⟩
  have hc : Sql.Connection.Steady {} := ⟨rfl, rfl, rfl⟩
  obtain ⟨hclosed, hsegs, -, -, -, hsql⟩ := storage_id_appends_keep_each_new_id_once
    { segments := [seg], byObject := [seg] } seg.key [["b", "a", "b"], ["c"]]
  obtain ⟨hans, hrows, -⟩ := hsql .postgres [.ofSegment seg] {} hm hc
  have hnew : Store.newAtTurn ["a"] ["b", "a", "b", "c"] = ["b", "c"] := by decide
  rw [hclosed] at hans hrows
  rw [hsegs] at hrows
  refine ⟨hm, hc, ?_, ?_⟩
  · rw [hans]
    simp
  · simpa [seg, calls, hnew] using hrows

end MediaTimeline

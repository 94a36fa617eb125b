import Mathlib
import MediaTimeline.Proofs.Insertion
import MediaTimeline.Proofs.Removal
import MediaTimeline.Service.Segments

/-! The index invariant along every run of the calls that write segments. -/

set_option mvcgen.warning false

namespace MediaTimeline

namespace Segment

variable {seg r : Segment}

theorem withKeys_eq_ok (h : seg.withKeys = .ok r) :
    r.flow = seg.flow ∧ r.range = seg.range ∧ keysOf r.range = .ok (r.start, r.stop) := by
  simp only [withKeys, except_map_eq_ok] at h
  obtain ⟨⟨a, b⟩, hk, rfl⟩ := h
  exact ⟨rfl, rfl, hk⟩

theorem start_le_stop_of_withKeys (h : seg.withKeys = .ok r) (hs : ¬ seg.range.IsSliver) :
    r.start ≤ r.stop := by
  obtain ⟨-, hr, hk⟩ := withKeys_eq_ok h
  exact keysOf_le_of_not_sliver hk (hr ▸ hs)

theorem stop_lt_start_of_withKeys (h : seg.withKeys = .ok r) (hs : seg.range.IsSliver) :
    r.stop < r.start := by
  obtain ⟨-, hr, hk⟩ := withKeys_eq_ok h
  exact keysOf_sliver hk (hr ▸ hs)

end Segment

namespace Store

variable {l : List Segment} {seg r t : Segment}

theorem Indexed.meets_iff_overlaps (h : Indexed l) (ht : t ∈ l) (hle : r.start ≤ r.stop) :
    t.Meets r ↔ t.Overlaps r :=
  (Segment.overlaps_iff (h.startLeStop t ht) hle).symm

/-- An insert's clash query finds a segment exactly when a stored one shares a nanosecond
with the new one. -/
theorem Indexed.exists_keyed_meets_iff (h : Indexed l) (hs : ¬ seg.range.IsSliver) :
    (∃ r, seg.withKeys = .ok r ∧ ∃ t ∈ l, t.Meets r) ↔
      ∃ r, seg.withKeys = .ok r ∧ ∃ t ∈ l, t.Overlaps r := by
  refine exists_congr fun r => and_congr_right fun hr => ?_
  have hle := Segment.start_le_stop_of_withKeys hr hs
  exact exists_congr fun t => and_congr_right fun ht => h.meets_iff_overlaps ht hle

/-- Storing the keyed form of a segment that is no sliver and meets no stored segment keeps the
invariant. -/
theorem Indexed.insert (h : Indexed l) (hr : seg.withKeys = .ok r) (hs : ¬ seg.range.IsSliver)
    (hfree : ∀ t ∈ l, ¬ t.Meets r) : Indexed (Store.placeSegment r l) := by
  have hle := Segment.start_le_stop_of_withKeys hr hs
  refine h.placeSegment (Segment.withKeys_eq_ok hr).2.2 hle fun t ht ho => ?_
  exact hfree t ht ((h.meets_iff_overlaps ht hle).2 ho)

theorem Indexed.sublist_insert (h : Indexed l) (hr : seg.withKeys = .ok r)
    (hs : ¬ seg.range.IsSliver) (hfree : ∀ t ∈ l, ¬ t.Meets r) :
    l.Sublist (Store.placeSegment r l) ∧ (Store.placeSegment r l).length = l.length + 1 := by
  have hle := Segment.start_le_stop_of_withKeys hr hs
  have hkey := key_ne_of_not_overlaps h hle fun t ht ho =>
    hfree t ht ((h.meets_iff_overlaps ht hle).2 ho)
  exact ⟨sublist_placeSegment hkey, length_placeSegment hkey⟩

theorem appendStorageIds_eq_ok {st st' : Store} {flow : String} {stop : Int} {ids : List String}
    (h : st.appendStorageIds flow stop ids = .ok st') :
    st'.segments = st.segments.map fun s =>
      if s.key == ⟨flow, stop⟩ then { s with storageIds := addNew s.storageIds ids } else s := by
  simp only [appendStorageIds, except_map_eq_ok] at h
  obtain ⟨_, -, rfl⟩ := h
  rfl

theorem Indexed.appendStorageIds {st st' : Store} {flow : String} {stop : Int}
    {ids : List String} (h : Indexed st.segments) (ha : st.appendStorageIds flow stop ids = .ok st') :
    Indexed st'.segments := by
  rw [appendStorageIds_eq_ok ha]
  exact h.map fun s => by split <;> simp

end Store

def Service.Indexed (s : Service) : Prop :=
  Store.Indexed s.store.segments

instance : DecidablePred Service.Indexed := fun s =>
  inferInstanceAs (Decidable (Store.Indexed s.store.segments))

/-- The calls that write the segments of the index. -/
inductive IndexCall where
  | insert (seg : Segment)
  | remove (flow : String) (stop : Int)
  | appendStorageIds (flow : String) (stop : Int) (ids : List String)
  | postSegment (flow : String) (seg : Segment)
  | deleteSegments (flow : String) (range : Option TimeRange) (object createdBy : String)
  | runRequest (req : DeleteRequest) (timeLeft : Nat → Int)

namespace IndexCall

open ServiceM

def run : IndexCall → ServiceM Unit
  | insert seg => discard (ServiceM.insert seg)
  | remove flow stop => discard (ServiceM.remove flow stop)
  | appendStorageIds flow stop ids =>
    withStore fun st => (st.appendStorageIds flow stop ids).map ((), ·)
  | postSegment flow seg => discard (ServiceM.postSegment flow seg)
  | deleteSegments flow range object createdBy =>
    discard (ServiceM.deleteSegments flow range object createdBy)
  | runRequest req timeLeft => discard (ServiceM.runRequest req timeLeft)

def inserted : IndexCall → Option Segment
  | insert seg => some seg
  | postSegment flow seg => some { seg with flow := flow }
  | _ => none

def Sliverless (c : IndexCall) : Prop :=
  ∀ seg ∈ c.inserted, ¬ seg.range.IsSliver

end IndexCall

/-- The state a run of calls leaves, each call made in the state the one before it left,
whatever it answered. -/
def runCalls : List IndexCall → Service → Service
  | [], s => s
  | c :: cs, s => runCalls cs (c.run.runOn s).2

namespace ServiceM

open Std.Do Service

theorem insert_of_indexed (seg : Segment) (hs : ¬ seg.range.IsSliver) (s₀ : Service)
    (h₀ : s₀.Indexed) :
    ⦃fun s => ⌜s = s₀⌝⦄ insert seg
    ⦃post⟨fun r s => ⌜seg.withKeys = .ok r ∧
        s.store.segments = Store.placeSegment r s₀.store.segments ∧
        s₀.store.segments.Sublist s.store.segments ∧
        s.store.segments.length = s₀.store.segments.length + 1⌝,
      fun e s => ⌜s.store = s₀.store ∧
        ((∃ f rr o, e = .overlap f rr o) ↔ seg.flow.isEmpty = false ∧
          seg.object.isEmpty = false ∧
          countCall s₀.outages.queryAfter s₀.outages.queries = false ∧
          ∃ r, seg.withKeys = .ok r ∧ ∃ t ∈ s₀.store.segments, t.Overlaps r) ∧
        ∀ f rr o, e = .overlap f rr o → ∃ r, seg.withKeys = .ok r ∧ f = r.flow ∧
          rr = r.range ∧ ∃ t ∈ s₀.store.segments, t.Overlaps r ∧ o = t.range⌝,
      fun _ _ => ⌜False⌝⟩⦄ := by
  mvcgen
  case vc1 =>
    subst_vars
    intro _ _ hr hfree hst _
    obtain ⟨hsub, hlen⟩ := h₀.sublist_insert hr hs hfree
    rw [hst]
    exact ⟨hr, rfl, hsub, hlen⟩
  case vc2 =>
    subst_vars
    intro hst _ hiff hreport
    rw [h₀.exists_keyed_meets_iff hs] at hiff
    refine ⟨hst, hiff, fun f rr o he => ?_⟩
    obtain ⟨r, hr, hf, hrr, t, ht, hm, ho⟩ := hreport f rr o he
    have hle := Segment.start_le_stop_of_withKeys hr hs
    exact ⟨r, hr, hf, hrr, t, ht, (h₀.meets_iff_overlaps ht hle).1 hm, ho⟩

theorem indexed_of_within {α : Type} {m : ServiceM α}
    (h : ∀ L, ⦃fun s => ⌜s.Within L⌝⦄ m ⦃always (Within L)⦄) :
    ⦃fun s => ⌜s.Indexed⌝⦄ m ⦃always Service.Indexed⦄ :=
  always_of_relative (I := fun s₀ => Within s₀.store.segments) (fun _ => h _)
    (fun _ _ => List.Sublist.refl _) fun _ _ h₀ hw => Store.Indexed.sublist h₀ hw

theorem insert_indexed_spec (seg : Segment) :
    ⦃fun s => ⌜¬ seg.range.IsSliver ∧ s.Indexed⌝⦄ insert seg ⦃always Service.Indexed⦄ := by
  mvcgen with simp_all +zetaDelta [Service.Indexed, Store.putSegment]
  obtain ⟨hs, h⟩ := ‹¬ seg.range.IsSliver ∧ _›
  intro _ _ hr hfree _ _
  exact h.insert hr hs hfree

end ServiceM

namespace IndexCall

open Std.Do ServiceM Service

theorem run_spec (c : IndexCall) (hc : c.Sliverless) :
    ⦃fun s => ⌜s.Indexed⌝⦄ c.run ⦃always Service.Indexed⦄ := by
  cases c
  case insert seg =>
    have hs : ¬ seg.range.IsSliver := hc seg rfl
    mvcgen [run, -insert_spec, insert_indexed_spec]
  case postSegment flow seg =>
    have hs : ¬ seg.range.IsSliver := hc { seg with flow := flow } rfl
    mvcgen [run, ServiceM.postSegment, -insert_spec, insert_indexed_spec] with
      simp_all +zetaDelta [Service.Indexed, Bookkept, Settled]
  case appendStorageIds flow stop ids =>
    mvcgen [run, withStore] with simp_all +zetaDelta [Service.Indexed]
    exact Store.Indexed.appendStorageIds ‹_› ‹_›
  case remove flow stop => exact indexed_of_within fun L => by mvcgen [run]
  case deleteSegments flow range object createdBy =>
    exact indexed_of_within fun L => by mvcgen [run]
  case runRequest req timeLeft => exact indexed_of_within fun L => by mvcgen [run]

end IndexCall

theorem indexed_runCalls {calls : List IndexCall} (hc : ∀ c ∈ calls, c.Sliverless)
    {s : Service} (h : s.Indexed) : (runCalls calls s).Indexed := by
  induction calls generalizing s with
  | nil => exact h
  | cons c cs ih =>
    have hstep := ServiceM.runOn_of_always (c.run_spec (hc c (List.mem_cons_self ..))) h
    exact ih (fun c' hc' => hc c' (List.mem_cons_of_mem c hc')) hstep

open Std.Do ServiceM in
/-- The segment index from a store without segments, along every run of the calls that write
segments in which no call inserts a sliver: the state reached meets the representation
invariant, and an insert from it adds exactly the new segment with its keys, or fails, leaving
the store as it was, and with an overlap exactly when the checks before the clash query pass,
the query runs, and a stored segment of the flow shares a nanosecond with the new one, which
the overlap names. -/
theorem segment_index_invariant (calls : List IndexCall) (s : Service)
    (hs : s.store.segments = []) (hc : ∀ c ∈ calls, c.Sliverless) :
    let s₀ := runCalls calls s
    s₀.Indexed ∧ ∀ seg : Segment, ¬ seg.range.IsSliver →
      ⦃fun s => ⌜s = s₀⌝⦄ insert seg
      ⦃post⟨fun r s => ⌜seg.withKeys = .ok r ∧
          s.store.segments = Store.placeSegment r s₀.store.segments ∧
          s₀.store.segments.Sublist s.store.segments ∧
          s.store.segments.length = s₀.store.segments.length + 1⌝,
        fun e s => ⌜s.store = s₀.store ∧
          ((∃ f rr o, e = .overlap f rr o) ↔ seg.flow.isEmpty = false ∧
            seg.object.isEmpty = false ∧
            countCall s₀.outages.queryAfter s₀.outages.queries = false ∧
            ∃ r, seg.withKeys = .ok r ∧ ∃ t ∈ s₀.store.segments, t.Overlaps r) ∧
          ∀ f rr o, e = .overlap f rr o → ∃ r, seg.withKeys = .ok r ∧ f = r.flow ∧
            rr = r.range ∧ ∃ t ∈ s₀.store.segments, t.Overlaps r ∧ o = t.range⌝,
        fun _ _ => ⌜False⌝⟩⦄ := by
  have hempty : s.Indexed := by
    rw [Service.Indexed, hs]
    exact Store.indexed_nil
  have h₀ := indexed_runCalls hc hempty
  exact ⟨h₀, fun seg hseg => insert_of_indexed seg hseg _ h₀⟩

/-- A run of inserts, of a segment meeting none before it and one meeting the first, and of a
removal. -/
theorem segment_index_invariant_sample :
    ({} : Service).store.segments = [] ∧
      (∀ c ∈ [IndexCall.insert ⟨"f", "o1", ⟨some ⟨⟨0⟩, true⟩, some ⟨⟨0⟩, true⟩⟩, "", "", none,
                none, none, [], 0, 0⟩,
              .insert ⟨"f", "o2", ⟨some ⟨⟨0⟩, true⟩, some ⟨⟨2⟩, false⟩⟩, "", "", none, none,
                none, [], 0, 0⟩,
              .remove "f" 0], c.Sliverless) ∧
      (runCalls [IndexCall.insert ⟨"f", "o1", ⟨some ⟨⟨0⟩, true⟩, some ⟨⟨0⟩, true⟩⟩, "", "",
                  none, none, none, [], 0, 0⟩,
                .insert ⟨"f", "o2", ⟨some ⟨⟨0⟩, true⟩, some ⟨⟨2⟩, false⟩⟩, "", "", none, none,
                  none, [], 0, 0⟩,
                .remove "f" 0] {}).Indexed := by
  have hc : ∀ c ∈ [IndexCall.insert ⟨"f", "o1", ⟨some ⟨⟨0⟩, true⟩, some ⟨⟨0⟩, true⟩⟩, "", "",
                      none, none, none, [], 0, 0⟩,
                    .insert ⟨"f", "o2", ⟨some ⟨⟨0⟩, true⟩, some ⟨⟨2⟩, false⟩⟩, "", "", none,
                      none, none, [], 0, 0⟩,
                    .remove "f" 0], c.Sliverless := by
    simp [IndexCall.Sliverless, IndexCall.inserted, TimeRange.IsSliver]
  exact ⟨rfl, hc, (segment_index_invariant _ {} rfl hc).1⟩

/-! Slivers: a range open at both ends one nanosecond apart passes the range check with its keys
out of order, and an insert of it can replace the stored segment with its key. -/

open Std.Do ServiceM in
theorem insert_sliver_breaks_index (seg : Segment) (hs : seg.range.IsSliver) (s₀ : Service) :
    ⦃fun s => ⌜s = s₀⌝⦄ insert seg
    ⦃post⟨fun r s => ⌜r.stop < r.start ∧ r ∈ s.store.segments ∧ ¬ s.Indexed⌝,
      fun _ s => ⌜s.store = s₀.store⌝, fun _ _ => ⌜False⌝⟩⦄ := by
  mvcgen
  case vc1 r s =>
    intro _ _ hr _ hst _
    have hlt := Segment.stop_lt_start_of_withKeys hr hs
    have hmem : r ∈ s.store.segments := by
      rw [hst]
      exact Store.self_mem_placeSegment
    exact ⟨hlt, hmem, fun h => absurd (h.startLeStop r hmem) (by omega)⟩
  case vc2 =>
    subst_vars
    exact fun hst _ _ _ => hst

/-- From an empty store, `[0:0]` is stored, and then the sliver `(0:0_0:1)` of the same flow is
let in and takes its place: both end at key `0`, and the store is left with one segment, which
starts after it ends. -/
theorem sliver_insert_replaces_stored_segment :
    (runCalls [IndexCall.insert ⟨"f", "o1", ⟨some ⟨⟨0⟩, true⟩, some ⟨⟨0⟩, true⟩⟩, "", "", none,
                none, none, [], 0, 0⟩,
              .insert ⟨"f", "o2", ⟨some ⟨⟨0⟩, false⟩, some ⟨⟨1⟩, false⟩⟩, "", "", none, none,
                none, [], 0, 0⟩] {}).store.segments =
      [⟨"f", "o2", ⟨some ⟨⟨0⟩, false⟩, some ⟨⟨1⟩, false⟩⟩, "", "", none, none, none, [], 1, 0⟩] := by
  decide

end MediaTimeline

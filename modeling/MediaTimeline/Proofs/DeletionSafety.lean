import Mathlib
import MediaTimeline.Proofs.Batches
import MediaTimeline.Proofs.Removal
import MediaTimeline.Proofs.IndexInvariant

/-! A delete request removes only segments that lie in its range. -/

set_option mvcgen.warning false

namespace MediaTimeline

namespace Store

variable {L l : List Segment} {P : Segment → Prop}

def Pruned (L : List Segment) (P : Segment → Prop) (l : List Segment) : Prop :=
  l.Sublist L ∧ ∀ x ∈ L, x ∉ l → P x

theorem pruned_refl (L : List Segment) (P : Segment → Prop) : Pruned L P L :=
  ⟨List.Sublist.refl L, fun _ hx hn => absurd hx hn⟩

theorem Pruned.filter {keep : Segment → Bool} (h : Pruned L P l)
    (hk : ∀ x ∈ L, keep x = false → P x) : Pruned L P (l.filter keep) := by
  refine ⟨List.filter_sublist.trans h.1, fun x hx hn => ?_⟩
  by_cases hl : x ∈ l
  · exact hk x hx (by simpa [List.mem_filter, hl] using hn)
  · exact h.2 x hx hl

end Store

def Service.Pruned (L : List Segment) (P : Segment → Prop) (s : Service) : Prop :=
  Store.Pruned L P s.store.segments

namespace ServiceM

open Std.Do Service

theorem plan_bounds_spec (flow : String) (p : ListParams) (s₀ : Service) :
    ⦃fun s => ⌜s₀.Bookkept s⌝⦄ plan flow p
    ⦃post⟨fun qo s => ⌜s₀.Bookkept s ∧ qo.1.flow = flow ∧ qo.1.reverse = p.reverse ∧
        (qo.2 = true → ∀ c, p.range = some c → qo.1.Bounds c)⌝,
      fun _ s => ⌜s₀.Bookkept s⌝, fun _ s => ⌜s₀.Bookkept s⌝⟩⦄ := by
  mvcgen [plan, -plan_spec] with simp_all +zetaDelta [Bookkept, Settled, SegmentQuery.Bounds]
  all_goals exact TimeRange.ends_of_isEternity ‹_›

variable (L : List Segment)

theorem remove_pruned_spec (P : Segment → Prop) (flow : String) (stop : Int)
    (hk : ∀ x ∈ L, x.key = ⟨flow, stop⟩ → P x) :
    ⦃fun s => ⌜s.Pruned L P⌝⦄ remove flow stop ⦃always (Service.Pruned L P)⦄ := by
  mvcgen [remove, -remove_spec] with simp_all +zetaDelta [Service.Pruned, Bookkept]
  intro _ _ _
  exact Store.Pruned.filter ‹_› fun x hx hkx => hk x hx (by simpa using hkx)

theorem removeBatch_pruned_spec (P : Segment → Prop) (flow : String) (items : List Segment)
    (hitems : ∀ i ∈ items, ∀ x ∈ L, x.key = ⟨flow, i.stop⟩ → P x)
    (n : Nat) (covered : TimeRange) (objs : List String) :
    ⦃fun s => ⌜s.Pruned L P⌝⦄ removeBatch flow items n covered objs ⦃always (Service.Pruned L P)⦄ := by
  induction items generalizing n covered objs with
  | nil => mvcgen [removeBatch, -removeBatch_spec]
  | cons t rest ih =>
    have hremove := remove_pruned_spec L P flow t.stop (hitems t List.mem_cons_self)
    have hrest := ih fun i hi => hitems i (List.mem_cons_of_mem t hi)
    mvcgen [removeBatch, -removeBatch_spec, -remove_spec, hremove, hrest]

theorem runBatch_pruned_spec (flow : String) (T cursor : TimeRange) (hL : Store.Indexed L)
    (hc : T.contains cursor = true) :
    ⦃fun s => ⌜s.Pruned L (fun x => T.contains x.range = true)⌝⦄ runBatch flow T cursor
    ⦃always (Service.Pruned L fun x => T.contains x.range = true)⦄ := by
  mvcgen [runBatch, -runBatch_spec, -plan_spec, plan_bounds_spec, -removeBatch_spec,
    removeBatch_pruned_spec] with simp_all +zetaDelta [Service.Pruned, Bookkept, Settled]
  obtain ⟨⟨hseg, -⟩, hf, hr, hb⟩ := ‹(_ ∧ _) ∧ _ = flow ∧ _ = false ∧ _›
  have hst := ‹Store.Pruned L _ _›.1
  rw [← hseg] at hst
  rw [← hf]
  exact trimEnds_query_keys hL hst hc hb hr

theorem runBatches_pruned_spec (req : DeleteRequest) (timeLeft : Nat → Int)
    (hL : Store.Indexed L) (fuel : Nat) (cursor : TimeRange)
    (hc : req.toDelete.contains cursor = true) (r : RunReport) :
    ⦃fun s => ⌜s.Pruned L (fun x => req.toDelete.contains x.range = true)⌝⦄
    runBatches req timeLeft fuel cursor r
    ⦃always (Service.Pruned L fun x => req.toDelete.contains x.range = true)⦄ := by
  induction fuel generalizing cursor r with
  | zero => mvcgen [runBatches, -runBatches_spec]
  | succ fuel ih =>
    have hbatch := runBatch_pruned_spec L req.flow req.toDelete cursor hL hc
    mvcgen [runBatches, -runBatches_spec, -runBatch_spec, hbatch, ih]
    -- the next cursor is the part of the range to delete after the batch's last segment
    simp +zetaDelta only
    split
    · exact TimeRange.contains_intersect _ _
    · exact hc

theorem runRequest_pruned_spec (req : DeleteRequest) (timeLeft : Nat → Int)
    (hL : Store.Indexed L) (hrem : req.toDelete.contains req.remaining = true) :
    ⦃fun s => ⌜s.Pruned L (fun x => req.toDelete.contains x.range = true)⌝⦄
    runRequest req timeLeft
    ⦃always (Service.Pruned L fun x => req.toDelete.contains x.range = true)⦄ := by
  have hbatches := fun req' => runBatches_pruned_spec L req' timeLeft hL
  mvcgen [runRequest, withStore, -runRequest_spec, -runBatches_spec, hbatches] with
    (clear hbatches
     simp_all +zetaDelta [Service.Pruned, Bookkept, Settled])
  all_goals
    intros
    simp_all [Store.segments_of_deleteFlow ‹_›]

end ServiceM

/-- A run of a delete request, from a store that meets the index invariant and with a remaining
range inside the range to delete, removes segments and writes none, and every segment it removes
lies in the range to delete: one that reaches over either end of it stays. This holds for every
batch size, every reading of the time left, and every outcome of the run. -/
theorem delete_request_removes_only_contained (req : DeleteRequest) (timeLeft : Nat → Int)
    (s₀ : Service) (h₀ : s₀.Indexed) (hrem : req.toDelete.contains req.remaining = true) :
    let s := ((ServiceM.runRequest req timeLeft).runOn s₀).2
    s.store.segments.Sublist s₀.store.segments ∧
      ∀ x ∈ s₀.store.segments, x ∉ s.store.segments → req.toDelete.contains x.range = true :=
  ServiceM.runOn_of_always (ServiceM.runRequest_pruned_spec _ req timeLeft h₀ hrem)
    (Store.pruned_refl _ _)

/-- Batches of two over a range `[1:0_5:0)` that two segments straddle: only the segments inside
it go, and the straddling and outside ones stay. -/
theorem delete_request_keeps_straddling_segments :
    let seg (o : String) (a b : Int) : Segment :=
      ⟨"f", o, ⟨some ⟨⟨a * 1000000000⟩, true⟩, some ⟨⟨b * 1000000000⟩, false⟩⟩, "", "",
        none, none, none, [], a * 1000000000, b * 1000000000 - 1⟩
    let tr : TimeRange := ⟨some ⟨⟨1000000000⟩, true⟩, some ⟨⟨5000000000⟩, false⟩⟩
    let segs := [seg "a" 0 2, seg "b" 2 3, seg "c" 3 4, seg "d" 4 6, seg "e" 7 8]
    let s₀ : Service := { config := { batchSize := 2 },
                          store := { segments := segs, byObject := segs, flows := [{ id := "f" }] } }
    let s := ((ServiceM.runRequest ⟨"d", "f", false, tr, tr, .created, none, "", .zero, .zero⟩
      fun _ => 10000000000).runOn s₀).2
    s₀.Indexed ∧ tr.contains tr = true ∧ s.store.segments = [seg "a" 0 2, seg "d" 4 6, seg "e" 7 8] ∧
      ∀ x ∈ s₀.store.segments, x ∉ s.store.segments → tr.contains x.range = true := by
  intro seg tr segs s₀ s
  have hidx : s₀.Indexed := by decide
  have hleft : s.store.segments = [seg "a" 0 2, seg "d" 4 6, seg "e" 7 8] := by decide +kernel
  exact ⟨hidx, by decide, hleft, (delete_request_removes_only_contained _ _ s₀ hidx (by decide)).2⟩

end MediaTimeline

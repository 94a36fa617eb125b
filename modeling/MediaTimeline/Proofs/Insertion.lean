import Mathlib
import MediaTimeline.Proofs.Bookkeeping
import MediaTimeline.Proofs.TreeScan

/-! Inserting a segment into the index. -/

set_option mvcgen.warning false

namespace MediaTimeline

namespace Store

variable {st : Store} {r t : Segment}

theorem mem_meets_of_clash
    (h : (st.query { flow := r.flow, endMin := some r.start, startMax := some r.stop,
                     limit := 1 }).segments.head? = some t) :
    t ∈ st.segments ∧ t.Meets r := by
  rw [head?_query (startsAt_of_endMin rfl rfl rfl) (show (0 : Int) < 1 by decide)] at h
  have hm := List.mem_of_mem_head? h
  simp only [queryMatches, Bool.false_eq_true, if_false, List.mem_filter] at hm
  simp only [SegmentQuery.selects, SegmentQuery.pastStart, Option.all_some, Option.all_none,
    Bool.and_true, Bool.and_eq_true, beq_iff_eq, decide_eq_true_eq] at hm
  exact ⟨hm.1, hm.2.1.1.1, hm.2.1.2, hm.2.2⟩

theorem not_meets_of_no_clash
    (h : ∀ o, (st.query { flow := r.flow, endMin := some r.start, startMax := some r.stop,
                          limit := 1 }).segments.head? ≠ some o) :
    ∀ t ∈ st.segments, ¬ t.Meets r := by
  rw [← Option.eq_none_iff_forall_ne_some,
    head?_query (startsAt_of_endMin rfl rfl rfl) (show (0 : Int) < 1 by decide),
    List.head?_eq_none_iff] at h
  intro t ht hmeet
  have hf : t ∈ st.queryMatches { flow := r.flow, endMin := some r.start,
                                  startMax := some r.stop, limit := 1 } := by
    simp only [queryMatches, Bool.false_eq_true, if_false, List.mem_filter]
    refine ⟨ht, ?_⟩
    simp [SegmentQuery.selects, SegmentQuery.pastStart, hmeet.1, hmeet.2.1, hmeet.2.2]
  simp [h] at hf

end Store

namespace ServiceM

open Std.Do Service

/-- Everything an insert does. It succeeds when the ids are given, the range has keys, and no
stored segment of the flow meets the segment; it then stores the segment with its keys. Every
failure leaves the store as it was, and it is an overlap exactly when the checks before the
query pass, the query runs, and some stored segment meets the new one; the overlap names it. -/
@[spec] theorem insert_spec (seg : Segment) (s₀ : Service) :
    ⦃fun s => ⌜s = s₀⌝⦄ insert seg
    ⦃post⟨fun r s => ⌜seg.flow.isEmpty = false ∧ seg.object.isEmpty = false ∧
        seg.withKeys = .ok r ∧ (∀ t ∈ s₀.store.segments, ¬ t.Meets r) ∧
        s.store = s₀.store.putSegment r ∧ s₀.Settled s⌝,
      fun e s => ⌜s.store = s₀.store ∧ s₀.Settled s ∧
        ((∃ f rr o, e = .overlap f rr o) ↔ seg.flow.isEmpty = false ∧
          seg.object.isEmpty = false ∧
          countCall s₀.outages.queryAfter s₀.outages.queries = false ∧
          ∃ r, seg.withKeys = .ok r ∧ ∃ t ∈ s₀.store.segments, t.Meets r) ∧
        ∀ f rr o, e = .overlap f rr o → ∃ r, seg.withKeys = .ok r ∧ f = r.flow ∧
          rr = r.range ∧ ∃ t ∈ s₀.store.segments, t.Meets r ∧ o = t.range⌝,
      fun _ _ => ⌜False⌝⟩⦄ := by
  mvcgen [insert] with simp_all +zetaDelta [Bookkept, Settled, Outages.settings]
  all_goals
    intros
    subst_vars
  · obtain ⟨hm, hmt⟩ := Store.mem_meets_of_clash ‹_›
    exact ⟨⟨_, hm, hmt⟩, _, hm, hmt, rfl⟩
  all_goals exact Store.not_meets_of_no_clash ‹_› _ ‹_›

end ServiceM

end MediaTimeline

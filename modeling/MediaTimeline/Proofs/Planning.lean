import Mathlib
import MediaTimeline.Proofs.Listing
import MediaTimeline.Proofs.Batches

/-! Planning a listing: what the planned query selects. -/

namespace MediaTimeline

namespace TimeRange

def Keyed (r : TimeRange) : Prop :=
  (r.lower = none ∨ ∃ a, r.startKey = .ok a) ∧ (r.upper = none ∨ ∃ b, r.stopKey = .ok b)

def MeetsOnGrid (r : TimeRange) (s : Segment) : Prop :=
  (r.lower = none ∨ ∃ a, r.startKey = .ok a ∧ a ≤ s.stop) ∧
    (r.upper = none ∨ ∃ b, r.stopKey = .ok b ∧ s.start ≤ b)

theorem startKey_of_lower_none {r : TimeRange} (h : r.lower = none) :
    r.startKey = .error .unbounded := by
  simp [startKey, h]

theorem stopKey_of_upper_none {r : TimeRange} (h : r.upper = none) :
    r.stopKey = .error .unbounded := by
  simp [stopKey, h]

theorem lower_ne_none_of_startKey {r : TimeRange} {a : Int} (h : r.startKey = .ok a) :
    r.lower ≠ none := fun hl => by simp [startKey_of_lower_none hl] at h

theorem upper_ne_none_of_stopKey {r : TimeRange} {b : Int} (h : r.stopKey = .ok b) :
    r.upper ≠ none := fun hu => by simp [stopKey_of_upper_none hu] at h

theorem keyed_eternity : eternity.Keyed := ⟨.inl rfl, .inl rfl⟩

theorem meetsOnGrid_eternity (s : Segment) : eternity.MeetsOnGrid s := ⟨.inl rfl, .inl rfl⟩

end TimeRange

namespace SegmentKey

theorem ofToken_empty_ne (k : SegmentKey) : ofToken "" ≠ .ok k := by
  intro h
  have hnone : (ofToken "").toOption = none := by decide +kernel
  rw [h] at hnone
  cases hnone

end SegmentKey

namespace Store

variable {l : List Segment} {st : Store} {x y seg : Segment} {flow : String} {b : Int}

theorem Indexed.stop_lt_start_or (h : Indexed l) (hx : x ∈ l) (hy : y ∈ l)
    (hf : x.flow = y.flow) (hne : x ≠ y) : x.stop < y.start ∨ y.stop < x.start := by
  have hxy := h.apart x hx y hy hne
  have hxle := h.startLeStop x hx
  have hyle := h.startLeStop y hy
  by_contra hc
  simp only [not_or, not_lt] at hc
  exact hxy ⟨hf, max x.start y.start, by omega, by omega, by omega, by omega⟩

/-- The anchor of an end `b` never cuts off a segment of the flow that starts at or before `b`.
The first segment to reach `b` either starts at or before it, and then no such segment ends past
it without sharing its end, or starts after `b`, and then none reaches `b` at all. -/
theorem stop_le_anchorOf (hidx : Indexed st.segments) (hs : seg ∈ st.segments)
    (hf : seg.flow = flow) (hb : seg.start ≤ b) : seg.stop ≤ ServiceM.anchorOf st flow b := by
  set q : SegmentQuery := { flow := flow, endMin := some b, limit := 1 } with hq
  have hmem : ∀ z, z ∈ st.queryMatches q ↔ z ∈ st.segments ∧ z.flow = flow ∧ b ≤ z.stop := by
    intro z
    rw [mem_queryMatches]
    simp [hq, SegmentQuery.selects, SegmentQuery.pastStart]
  unfold ServiceM.anchorOf
  rw [head?_query (startsAt_of_endMin rfl rfl rfl) (show (0 : Int) < 1 by decide)]
  cases hm : (st.queryMatches q).head? with
  | none =>
    dsimp only
    by_contra hlt
    have hz := (hmem seg).2 ⟨hs, hf, by omega⟩
    rw [List.head?_eq_none_iff] at hm
    simp [hm] at hz
  | some x =>
    obtain ⟨hx, hxf, hxb⟩ := (hmem x).1 (List.mem_of_mem_head? hm)
    have hxle := hidx.startLeStop x hx
    dsimp only
    split_ifs with hxs
    · by_contra hlt
      have hne : x ≠ seg := by rintro rfl; omega
      have := hidx.stop_lt_start_or hx hs (hxf.trans hf.symm) hne
      omega
    · by_contra hlt
      have hz := (hmem seg).2 ⟨hs, hf, by omega⟩
      obtain ⟨rest, hrest⟩ : ∃ rest, st.queryMatches q = x :: rest := by
        cases hl : st.queryMatches q with
        | nil => simp [hl] at hm
        | cons y rest => simp only [hl, List.head?_cons, Option.some.injEq] at hm; exact ⟨rest, hm ▸ rfl⟩
      have hord := pairwise_queryMatches st q
      rw [hrest] at hord hz
      rcases List.mem_cons.1 hz with rfl | hz
      · omega
      · have hlt' : x.stop < seg.stop := by
          simpa [SegmentQuery.ahead, hq] using List.rel_of_pairwise_cons hord hz
        have hne : x ≠ seg := by rintro rfl; omega
        have := hidx.stop_lt_start_or hx hs (hxf.trans hf.symm) hne
        omega

end Store

namespace ServiceM

/-- The query a plan makes of a range without a page token: the range's keys bound ends from
below and starts from above, and an end-only range of all objects bounds ends by its anchor. -/
def plannedQuery (st : Store) (flow : String) (p : ListParams) (r : TimeRange) : SegmentQuery :=
  { flow := flow, object := p.object, reverse := p.reverse,
    limit := if p.limit ≤ 0 then defaultPageLimit else p.limit,
    endMin := r.startKey.toOption,
    endMax := if r.lower.isNone && p.object.isEmpty then r.stopKey.toOption.map (anchorOf st flow)
      else none,
    startMax := r.stopKey.toOption }

theorem runOn_plan_unranged (flow : String) (p : ListParams) (hpage : p.page = "")
    (hr : p.range = none) (s : Service) :
    (plan flow p).runOn s =
      (.ok (.ok (plannedQuery s.store flow p TimeRange.eternity, true)), s) := by
  have hpe : p.page.isEmpty = true := by rw [hpage]; rfl
  simp [plan, hpe, hr, plannedQuery, TimeRange.eternity, TimeRange.startKey, TimeRange.stopKey,
    Except.toOption]

theorem runOn_plan_empty (flow : String) (p : ListParams) {r : TimeRange} (hpage : p.page = "")
    (hr : p.range = some r) (he : r.isEmpty = true) (s : Service) :
    (plan flow p).runOn s =
      (.ok (.ok (plannedQuery s.store flow p TimeRange.eternity, false)), s) := by
  have hpe : p.page.isEmpty = true := by rw [hpage]; rfl
  have het : r.isEternity = false := by
    cases h : r.isEternity
    · rfl
    · simp [(TimeRange.ends_of_isEternity h).1] at he
  simp [plan, hpe, hr, he, het, plannedQuery, TimeRange.eternity, TimeRange.startKey,
    TimeRange.stopKey, Except.toOption]

theorem runOn_plan_keyed_or (flow : String) (p : ListParams) {r : TimeRange} (hpage : p.page = "")
    (hr : p.range = some r) (he : r.isEmpty = false) (hk : r.Keyed) (s : Service) :
    (∃ s', (plan flow p).runOn s = (.ok (.ok (plannedQuery s.store flow p r, true)), s') ∧
      s'.store = s.store ∧ s'.outages.queryAfter = s.outages.queryAfter) ∨
    (countCall s.outages.queryAfter s.outages.queries = true ∧
      (plan flow p).runOn s = (.ok (.error (.outage "query unavailable")), s)) := by
  have hpe : p.page.isEmpty = true := by rw [hpage]; rfl
  simp only [plan, runOn_bind, hpe, if_true, runOn_pure, hr]
  by_cases het : r.isEternity
  · obtain ⟨-, hl, hu⟩ := TimeRange.ends_of_isEternity het
    refine .inl ⟨s, ?_, rfl, rfl⟩
    simp [het, plannedQuery, hl, hu, TimeRange.startKey_of_lower_none,
      TimeRange.stopKey_of_upper_none, Except.toOption]
  simp only [het, he, Bool.false_eq_true, if_false]
  obtain ⟨hkl, hku⟩ := hk
  rcases hl : r.lower with _ | lo <;> rcases hu : r.upper with _ | up
  · exact absurd (by simp [TimeRange.isEternity, hl, hu]) het
  · -- an end only: the anchor is asked for only when every object is listed
    obtain ⟨b, hb⟩ := hku.resolve_left (by simp [hu])
    have hs := TimeRange.startKey_of_lower_none hl
    by_cases ho : p.object.isEmpty
    · cases hq : countCall s.outages.queryAfter s.outages.queries
      · refine .inl ⟨{ s with outages := { s.outages with queries := s.outages.queries + 1 } }, ?_,
          rfl, rfl⟩
        simp [hb, ho, runOn_map, runOn_exactEnd_of_answered _ _ hq, plannedQuery, hl, hs,
          Except.toOption]
      · exact .inr ⟨rfl, by simp [hb, ho, runOn_map, runOn_exactEnd_of_down _ _ hq]⟩
    · refine .inl ⟨s, ?_, rfl, rfl⟩
      simp [hb, ho, plannedQuery, hl, hs, Except.toOption]
  · obtain ⟨a, ha⟩ := hkl.resolve_left (by simp [hl])
    refine .inl ⟨s, ?_, rfl, rfl⟩
    simp [ha, hl, plannedQuery, TimeRange.stopKey_of_upper_none hu, Except.toOption]
  · obtain ⟨a, ha⟩ := hkl.resolve_left (by simp [hl])
    obtain ⟨b, hb⟩ := hku.resolve_left (by simp [hu])
    refine .inl ⟨s, ?_, rfl, rfl⟩
    simp [ha, hb, hl, plannedQuery, Except.toOption]

theorem runOn_plan_keyed (flow : String) (p : ListParams) {r : TimeRange} (hpage : p.page = "")
    (hr : p.range = some r) (he : r.isEmpty = false) (hk : r.Keyed) {s : Service}
    (hup : s.outages.queryAfter = none) :
    ∃ s', (plan flow p).runOn s = (.ok (.ok (plannedQuery s.store flow p r, true)), s') ∧
      s'.store = s.store ∧ s'.outages.queryAfter = none := by
  rcases runOn_plan_keyed_or flow p hpage hr he hk s with ⟨s', hrun, hst, hq⟩ | ⟨hdown, -⟩
  · exact ⟨s', hrun, hst, hq.trans hup⟩
  · simp [hup, countCall] at hdown

variable {st : Store} {flow : String} {p : ListParams} {r : TimeRange} {seg : Segment}

theorem selects_plannedQuery (hidx : Store.Indexed st.segments) (hk : r.Keyed)
    (hs : seg ∈ st.segments) (hf : seg.flow = flow) :
    (plannedQuery st flow p r).selects seg = true ↔
      r.MeetsOnGrid seg ∧ (p.object = "" ∨ seg.object = p.object) := by
  obtain ⟨hkl, hku⟩ := hk
  rcases hkl with hl | ⟨a, ha⟩ <;> rcases hku with hu | ⟨b, hb⟩
  · simp [plannedQuery, SegmentQuery.selects, TimeRange.MeetsOnGrid, hf, hl, hu,
      TimeRange.startKey_of_lower_none hl, TimeRange.stopKey_of_upper_none hu, Except.toOption]
  · -- an end only: the anchor's bound on ends follows from the bound on starts
    have hu := TimeRange.upper_ne_none_of_stopKey hb
    simp only [plannedQuery, SegmentQuery.selects, TimeRange.MeetsOnGrid, hf, hl, hb,
      TimeRange.startKey_of_lower_none hl, Except.toOption, beq_self_eq_true, Bool.true_and,
      Option.all_none, Option.isNone_none, Option.map_some, Option.all_some, hu, false_or,
      true_or, true_and, reduceCtorEq, false_and, exists_false, Except.ok.injEq,
      exists_eq_left', Bool.and_eq_true, Bool.or_eq_true, String.isEmpty_iff, beq_iff_eq,
      decide_eq_true_eq, and_true]
    constructor
    · rintro ⟨⟨ho, -⟩, hsb⟩
      exact ⟨hsb, ho⟩
    · rintro ⟨hsb, ho⟩
      refine ⟨⟨ho, ?_⟩, hsb⟩
      split_ifs <;> simp [Store.stop_le_anchorOf hidx hs hf hsb]
  · have hl := TimeRange.lower_ne_none_of_startKey ha
    simp [plannedQuery, SegmentQuery.selects, TimeRange.MeetsOnGrid, hf, hl, hu, ha,
      TimeRange.stopKey_of_upper_none hu, Except.toOption, and_comm]
  · have hl := TimeRange.lower_ne_none_of_startKey ha
    have hu := TimeRange.upper_ne_none_of_stopKey hb
    simp [plannedQuery, SegmentQuery.selects, TimeRange.MeetsOnGrid, hf, hl, hu, ha, hb,
      Except.toOption]
    tauto

theorem runOn_plan_unpaged (flow : String) (p : ListParams) (hpage : p.page = "")
    (hr : ∀ r ∈ p.range, r.isEmpty = true ∨ r.Keyed) {s : Service} (hidx : s.Indexed)
    (hup : s.outages.queryAfter = none) :
    ∃ q s', (plan flow p).runOn s = (.ok (.ok (q, !(p.range.any TimeRange.isEmpty))), s') ∧
      q.flow = flow ∧
      ((∀ r ∈ p.range, r.isEmpty = false) → ∀ seg ∈ s.store.segments, seg.flow = flow →
        (q.selects seg = true ↔
          (∀ r ∈ p.range, r.MeetsOnGrid seg) ∧ (p.object = "" ∨ seg.object = p.object))) := by
  cases hrange : p.range with
  | none =>
    refine ⟨_, s, runOn_plan_unranged flow p hpage hrange s, rfl, fun _ seg hs hf => ?_⟩
    rw [selects_plannedQuery hidx TimeRange.keyed_eternity hs hf]
    simp [TimeRange.meetsOnGrid_eternity]
  | some r =>
    cases he : r.isEmpty with
    | true =>
      exact ⟨_, s, by simpa [he] using runOn_plan_empty flow p hpage hrange he s, rfl,
        fun h => absurd (h r rfl) (by simp [he])⟩
    | false =>
      have hk := (hr r hrange).resolve_left (by simp [he])
      obtain ⟨s', hplan, -, -⟩ := runOn_plan_keyed flow p hpage hrange he hk hup
      refine ⟨_, s', by simpa [he] using hplan, rfl, fun _ seg hs hf => ?_⟩
      rw [selects_plannedQuery hidx hk hs hf]
      simp

theorem runOn_hasSegments (flow : String) {r : TimeRange} (hr : r.isEmpty = true ∨ r.Keyed)
    {s : Service} (hidx : s.Indexed) (hup : s.outages.queryAfter = none) :
    ∃ b s', (hasSegments flow r).runOn s = (.ok (.ok b), s') ∧
      (b = true ↔ r.isEmpty = false ∧
        ∃ seg ∈ s.store.segments, seg.flow = flow ∧ r.MeetsOnGrid seg) := by
  cases he : r.isEmpty
  · have hk := hr.resolve_left (by simp [he])
    obtain ⟨s₁, hplan, hst, hup₁⟩ := runOn_plan_keyed flow { range := some r, limit := 1 } rfl
      rfl he hk hup
    set q := plannedQuery s.store flow { range := some r, limit := 1 } r with hq
    refine ⟨!(s.store.query q).segments.isEmpty,
      { s₁ with outages := { s₁.outages with queries := s₁.outages.queries + 1 } }, ?_, ?_⟩
    · simp only [hasSegments, runOn_bind, hplan, Bool.not_true, Bool.false_eq_true, if_false,
        runOn_query_of_up _ hup₁, hst, runOn_pure]
    have hfirst := Store.head?_query (Store.startsAt_startEnd (Store.Indexed.ends64 hidx) q)
      (by simp [hq, plannedQuery])
    have hne : (s.store.query q).segments.isEmpty = false ↔
        (s.store.queryMatches q).isEmpty = false := by
      simp only [List.isEmpty_eq_false_iff, ne_eq, ← List.head?_eq_none_iff, hfirst]
    rw [Bool.not_eq_true', hne, List.isEmpty_eq_false_iff_exists_mem]
    simp only [true_and]
    constructor
    · rintro ⟨seg, hm⟩
      obtain ⟨hs, hsel, -⟩ := Store.mem_queryMatches.1 hm
      have hf : seg.flow = flow := SegmentQuery.flow_of_selects hsel
      exact ⟨seg, hs, hf, ((selects_plannedQuery hidx hk hs hf).1 hsel).1⟩
    · rintro ⟨seg, hs, hf, hmeet⟩
      refine ⟨seg, Store.mem_queryMatches.2 ⟨hs, (selects_plannedQuery hidx hk hs hf).2
        ⟨hmeet, .inl rfl⟩, by simp [hq, plannedQuery, SegmentQuery.pastStart]⟩⟩
  · refine ⟨false, s, ?_, by simp⟩
    simp only [hasSegments, runOn_bind, runOn_plan_empty flow { range := some r, limit := 1 } rfl
      rfl he s, Bool.not_false, if_true, runOn_pure]

/-- Over a store that keeps the index invariant and answers every query, a plan of a range that
is absent, empty or has keys at its ends, with no page token or one of the flow, answers a query
of the flow and whether there is anything to query, which is so exactly when the range is not
empty. The query selects a segment of the flow exactly when the segment meets the range on the
nanosecond grid and is of the object asked for, so the anchor of an end-only range cuts off no
segment that meets it; and a flow has segments in a range exactly when one meets it. -/
theorem plan_selects_segments_meeting_range (s : Service) (hidx : s.Indexed)
    (hup : s.outages.queryAfter = none) (flow : String) (p : ListParams)
    (hr : ∀ r ∈ p.range, r.isEmpty = true ∨ r.Keyed)
    (hpage : p.page = "" ∨ ∃ k, SegmentKey.ofToken p.page = .ok k ∧ k.flow = flow) :
    (∃ q s', (plan flow p).runOn s = (.ok (.ok (q, !(p.range.any TimeRange.isEmpty))), s') ∧
      q.flow = flow ∧
      ((∀ r ∈ p.range, r.isEmpty = false) → ∀ seg ∈ s.store.segments, seg.flow = flow →
        (q.selects seg = true ↔
          (∀ r ∈ p.range, r.MeetsOnGrid seg) ∧ (p.object = "" ∨ seg.object = p.object)))) ∧
    ∀ r : TimeRange, (r.isEmpty = true ∨ r.Keyed) →
      ∃ b s', (hasSegments flow r).runOn s = (.ok (.ok b), s') ∧
        (b = true ↔ r.isEmpty = false ∧
          ∃ seg ∈ s.store.segments, seg.flow = flow ∧ r.MeetsOnGrid seg) := by
  refine ⟨?_, fun r hr => runOn_hasSegments flow hr hidx hup⟩
  rcases hpage with hpage | ⟨k, htok, hkf⟩
  · exact runOn_plan_unpaged flow p hpage hr hidx hup
  -- a token only starts the query past its key, which no selection reads
  obtain ⟨q, s', hplan, hqf, hsel⟩ :=
    runOn_plan_unpaged flow { p with page := "" } rfl hr hidx hup
  have hne : p.page.isEmpty = false := by
    cases h : p.page.isEmpty
    · rfl
    · rw [String.isEmpty_iff.1 h] at htok
      exact absurd htok (SegmentKey.ofToken_empty_ne k)
  have hafter := runOn_plan_after flow p.page { p with page := "" } k s rfl htok hne hkf
  rw [hplan] at hafter
  exact ⟨_, s', hafter, hqf, hsel⟩

/-- A range with an end only, `_1:500000000)`, over a flow whose second segment straddles that
end: the anchor is the second segment's end, and both segments are selected. -/
theorem plan_selects_segments_meeting_range_end_only :
    let seg₁ : Segment := ⟨"f", "o1", ⟨some ⟨⟨0⟩, true⟩, some ⟨⟨1000000000⟩, false⟩⟩, "", "",
      none, none, none, [], 0, 999999999⟩
    let seg₂ : Segment := ⟨"f", "o2", ⟨some ⟨⟨1000000000⟩, true⟩, some ⟨⟨2000000000⟩, false⟩⟩,
      "", "", none, none, none, [], 1000000000, 1999999999⟩
    let r : TimeRange := ⟨none, some ⟨⟨1500000000⟩, false⟩⟩
    ∃ q s', (plan "f" { range := some r }).runOn { store := { segments := [seg₁, seg₂], byObject := [seg₁, seg₂] } } =
        (.ok (.ok (q, true)), s') ∧ q.selects seg₁ = true ∧ q.selects seg₂ = true := by
  intro seg₁ seg₂ r
  have hidx : Store.Indexed [seg₁, seg₂] := by decide
  have hk : r.Keyed := ⟨.inl rfl, .inr ⟨1499999999, by decide⟩⟩
  obtain ⟨⟨q, s', hplan, -, hsel⟩, -⟩ := plan_selects_segments_meeting_range
    { store := { segments := [seg₁, seg₂], byObject := [seg₁, seg₂] } } hidx rfl "f" { range := some r }
    (fun r' hr' => by cases hr'; exact .inr hk) (.inl rfl)
  have hmeet : ∀ seg ∈ [seg₁, seg₂], r.MeetsOnGrid seg := by
    intro seg hs
    refine ⟨.inl rfl, .inr ⟨1499999999, by decide, ?_⟩⟩
    simp only [List.mem_cons, List.mem_nil_iff, or_false] at hs
    rcases hs with rfl | rfl <;> decide
  have hne : ∀ r' ∈ some r, r'.isEmpty = false := fun r' hr' => by cases hr'; decide
  refine ⟨q, s', hplan, ?_, ?_⟩
  · exact (hsel hne seg₁ (by simp) rfl).2 ⟨fun r' hr' => by cases hr'; exact hmeet seg₁ (by simp),
      .inl rfl⟩
  · exact (hsel hne seg₂ (by simp) rfl).2 ⟨fun r' hr' => by cases hr'; exact hmeet seg₂ (by simp),
      .inl rfl⟩

end ServiceM

end MediaTimeline
